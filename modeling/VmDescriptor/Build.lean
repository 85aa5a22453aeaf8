import VmDescriptor.Encoder.Domain

/-!
Builds: a request is encoded on a new draft, and the text of the finished document is returned.
-/

namespace VmDescriptor.Request

/-- The draft with the domain of a request. -/
def draft (fresh : FreshIds) (req : Request) (config : BuildConfig) : Program Draft := do
  let (_, d) ← (Encoder.domain fresh req config).run .empty
  return d

/-- The descriptor as text. -/
def descriptor (fresh : FreshIds) (req : Request) (config : BuildConfig) : Program String := do
  let d ← req.draft fresh config
  match d.writer.finish with
  | .ok text => return text
  | .error misuse => .fail (.document misuse)

/-- Builds a descriptor with an engine configuration from stores. Shared lookups are made at
most once. -/
def build (fresh : FreshIds) (req : Request) (config : EngineConfig) (stores : Stores) :
    Program.Run String :=
  ((req.descriptor fresh (.resolve config req.vm)).sharing).run stores

end VmDescriptor.Request
