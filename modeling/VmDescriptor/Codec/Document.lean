import VmDescriptor.Codec.Basic
import VmDescriptor.Json.Reader
import VmDescriptor.Toml.Reader

/-!
Values written as whole texts: JSON documents and TOML documents.
-/

namespace VmDescriptor

/-- Why a text could not be read as a value of a type. -/
inductive DocumentError where
  /-- The text is no document of its format. -/
  | invalid
  /-- The document holds no value of the type. -/
  | contents (cause : DecodeError)
  deriving DecidableEq

/-- The wording of the error, if it has one. -/
def DocumentError.message? : DocumentError → Option String
  | .invalid => none
  | .contents cause => cause.message?

namespace Codec

variable {α : Type}

/-- Reads the value that a document holds. -/
def ofDocument (c : Codec α) (form : Form) : Option Json → Except DocumentError α
  | some j => (c.decode form j).mapError .contents
  | none => .error .invalid

/-- Reads a JSON document. -/
def ofJson (c : Codec α) (text : String) : Except DocumentError α :=
  c.ofDocument .json (Json.parse? text)

/-- Reads a TOML document. -/
def ofToml (c : Codec α) (text : String) : Except DocumentError α :=
  c.ofDocument .toml (Toml.parse? text)

end Codec

end VmDescriptor
