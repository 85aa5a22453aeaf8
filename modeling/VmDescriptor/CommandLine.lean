import VmDescriptor.Codec.Document
import VmDescriptor.Fixture

/-!
The command line: which files a call names, and what is done with their contents.

A call names a fixture and may name a configuration and a file for the descriptor. The
configuration is read before the fixture, so its errors come first.
-/

namespace VmDescriptor

/-- A call of the command. -/
structure Arguments where
  fixture : String
  config : Option String
  /-- Whether to build for a volatile run, whatever the fixture says. -/
  isVolatile : Bool
  /-- The file to write the descriptor to, in place of the standard output. -/
  output : Option String
  deriving DecidableEq

namespace Arguments

/-- The arguments read so far; the fixture may still be missing. -/
structure Draft where
  fixture : Option String
  config : Option String
  isVolatile : Bool
  output : Option String

/-- Sets an option that is given at most once. -/
def once (old : Option String) (value : String) : Option (Option String) :=
  if old.isNone then some (some value) else none

/-- Reads the words of a call, unless they are misused. -/
def read? (args : Draft) : List String → Option Draft
  | [] => some args
  | "-c" :: value :: rest | "--config" :: value :: rest => do
    read? { args with config := ← once args.config value } rest
  | "-o" :: value :: rest | "--output" :: value :: rest => do
    read? { args with output := ← once args.output value } rest
  | "--volatile" :: rest =>
    if args.isVolatile then none else read? { args with isVolatile := true } rest
  | word :: rest => do
    if word.startsWith "-" then none
    else read? { args with fixture := ← once args.fixture word } rest

/-- Reads a call. -/
def parse? (words : List String) : Option Arguments := do
  let args ← read? ⟨none, none, false, none⟩ words
  return { args with fixture := ← args.fixture }

/-- How the command is called. -/
def usage : String :=
  "usage: vm-descriptor [-c CONFIG] [--volatile] [-o OUTPUT] FIXTURE"

end Arguments

/-- Why a call fails. -/
inductive CommandError where
  | config
  | reading
  | parsing
  | building (cause : BuildError)
  | writing
  deriving DecidableEq

namespace CommandError

/-- The first line of the error report, given the names of the files. -/
def message (args : Arguments) : CommandError → String
  | .config => "loading engine config " ++ args.config.getD ""
  | .reading => "reading fixture " ++ args.fixture
  | .parsing => "parsing fixture " ++ args.fixture
  | .building _ => "building domain descriptor"
  | .writing => "writing " ++ args.output.getD ""

/-- What the error report says about the cause. -/
def cause? : CommandError → Option String
  | .building cause => some cause.message
  | _ => none

/-- Whether the call is broken off without an error report. -/
def isAbrupt : CommandError → Bool
  | .building .overflow => true
  | _ => false

/-- The exit code. -/
def exitCode (e : CommandError) : UInt32 :=
  if e.isAbrupt then 101 else 1

end CommandError

/-- The contents of the files that a call names. -/
structure FileTexts where
  /-- The text of the fixture, if its file can be read. -/
  fixture : Option String
  /-- If a configuration is named, its text, if its file can be read. -/
  config : Option (Option String)

namespace FileTexts

/-- The configuration; without a file it is the one of an empty text. -/
def engineConfig (files : FileTexts) : Except CommandError EngineConfig :=
  match files.config with
  | none => .ok .empty
  | some none => .error .config
  | some (some text) => (EngineConfig.codec.ofToml text).mapError fun _ => .config

/-- The fixture. -/
def readFixture (files : FileTexts) : Except CommandError Fixture :=
  match files.fixture with
  | none => .error .reading
  | some text => (Fixture.codec.ofJson text).mapError fun _ => .parsing

/-- The descriptor that a call builds. -/
def descriptor (files : FileTexts) (isVolatile : Bool) (fresh : FreshIds) :
    Except CommandError String := do
  let config ← files.engineConfig
  let fixture ← files.readFixture
  let fixture := { fixture with isVolatile := fixture.isVolatile || isVolatile }
  (fixture.build fresh config).result.mapError .building

end FileTexts

/-- What a call leaves behind. -/
structure Outcome where
  exitCode : UInt32
  /-- The text on the standard output. -/
  stdout : String
  /-- The text for the output file. -/
  file : Option String
  failure : Option CommandError
  deriving DecidableEq

namespace Outcome

/-- The outcome of a call that fails. -/
def failed (e : CommandError) : Outcome :=
  ⟨e.exitCode, "", none, some e⟩

/-- The outcome of a call that builds a descriptor, which ends with a line break on the standard
output but not in a file. -/
def built (args : Arguments) (text : String) : Outcome :=
  if args.output.isSome then ⟨0, "", some text, none⟩ else ⟨0, text ++ "\n", none, none⟩

/-- The outcome of a call, given the contents of its files. -/
def ofFiles (args : Arguments) (files : FileTexts) (fresh : FreshIds) : Outcome :=
  match files.descriptor args.isVolatile fresh with
  | .ok text => built args text
  | .error e => failed e

end Outcome

end VmDescriptor
