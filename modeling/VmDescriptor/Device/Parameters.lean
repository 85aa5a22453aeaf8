import VmDescriptor.Device
import VmDescriptor.Json.Printer
import VmDescriptor.Text.Blank
import VmDescriptor.Text.Quoted

/-!
Typed readings of device parameters.

A scalar may be stored as a number or truth value or as a string that holds its text; a
missing parameter and `null` are no value. A parameter that is needed but absent and one whose
value does not fit are errors.
-/

namespace VmDescriptor

open Text

/-- Why a parameter cannot be used. -/
inductive ParameterError where
  | missing (key : String)
  /-- A parameter whose value, as text, does not fit. -/
  | invalid (key value : String)
  deriving DecidableEq

/-- The wording of the error. -/
def ParameterError.message : ParameterError → String
  | .missing key => "missing parameter " ++ quoted key
  | .invalid key value => "parameter " ++ quoted key ++ " has unusable value " ++ value

namespace Parameters

/-- A parameter as text. -/
def string? (p : Parameters) (key : String) : Except ParameterError (Option String) :=
  match p.get? key with
  | none | some .null => .ok none
  | some (.string s) => .ok (some s)
  | some (.number n) => .ok (some n.text)
  | some (.boolean b) => .ok (some (Json.boolean b).text)
  | some j => .error (.invalid key j.text)

/-- A parameter as text, which must be there. -/
def string (p : Parameters) (key : String) : Except ParameterError String := do
  match ← p.string? key with
  | some s => .ok s
  | none => .error (.missing key)

/-- A parameter as an unsigned number of 64 bits. -/
def nat? (p : Parameters) (key : String) : Except ParameterError (Option Nat) :=
  match p.get? key with
  | none | some .null => .ok none
  | some (.number (.integer (.ofNat n))) =>
    if n < UInt64.size then .ok (some n) else .error (.invalid key (decimal n))
  | some (.string s) =>
    match unsigned? UInt64.size (trim s.toList) with
    | some n => .ok (some n)
    | none => .error (.invalid key s)
  | some j => .error (.invalid key j.text)

/-- A parameter as a truth value; a string other than `true`, in any letter case, is false. -/
def boolean? (p : Parameters) (key : String) : Except ParameterError (Option Bool) :=
  match p.get? key with
  | none | some .null => .ok none
  | some (.boolean b) => .ok (some b)
  | some (.string s) => .ok (some (sameLetters s "true"))
  | some j => .error (.invalid key j.text)

end Parameters

end VmDescriptor
