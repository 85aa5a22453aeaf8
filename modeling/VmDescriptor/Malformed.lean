import VmDescriptor.Text.Quoted

/-!
Texts that are no value of a type.

Each cause names what was expected and keeps the text that was found; `message` is its wording.
-/

namespace VmDescriptor

open Text

/-- Why a text could not be read as a value. -/
inductive Malformed where
  /-- The text is none of the names of a closed set, described by `kind`. -/
  | unrecognized (kind text : String)
  | version (text : String)
  | addressEntry (text : String)
  | bootSequence (text : String)
  deriving DecidableEq

/-- The wording of the cause. -/
def Malformed.message : Malformed → String
  | .unrecognized kind text => "unrecognized " ++ kind ++ " " ++ quoted text
  | .version text => "malformed version string " ++ quoted text
  | .addressEntry text => "malformed device address entry " ++ quoted text
  | .bootSequence text => "invalid boot sequence " ++ quoted text

end VmDescriptor
