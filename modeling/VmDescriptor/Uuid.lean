import VmDescriptor.Text.Numeral

/-!
Universally unique identifiers: numbers of 128 bits.

An identifier is written in lower-case hexadecimal in groups of 8, 4, 4, 4 and 12 digits with
hyphens between. It is read in that form, in braces or after `urn:uuid:` or neither, or as 32
digits without hyphens. The case of letters does not matter.
-/

namespace VmDescriptor

open Text

/-- An identifier of 128 bits. -/
structure Uuid where
  bits : BitVec 128
  deriving DecidableEq

namespace Uuid

instance : Inhabited Uuid := ⟨⟨0⟩⟩

/-- The identifier as a number. -/
def toNat (id : Uuid) : Nat :=
  id.bits.toNat

instance : Ord Uuid := ⟨compareOn Uuid.toNat⟩

instance : Std.TransOrd Uuid := inferInstanceAs (Std.TransCmp (compareOn Uuid.toNat))

/-- The characters of the written form. -/
def chars (id : Uuid) : List Char :=
  let digits := hexDigits 32 id.toNat
  digits.take 8 ++ '-' :: (digits.drop 8).take 4 ++ '-' :: (digits.drop 12).take 4 ++
    '-' :: (digits.drop 16).take 4 ++ '-' :: digits.drop 20

/-- The written form. -/
def text (id : Uuid) : String :=
  .ofList id.chars

/-- Reads 32 hexadecimal digits. -/
def ofDigits? (cs : List Char) : Option Uuid :=
  if cs.length = 32 then (hex? cs).map fun n => ⟨.ofNat 128 n⟩ else none

/-- Reads the form with hyphens. -/
def ofGroups? (cs : List Char) : Option Uuid :=
  if cs.length = 36 ∧ cs[8]? = some '-' ∧ cs[13]? = some '-' ∧ cs[18]? = some '-' ∧
      cs[23]? = some '-' then
    ofDigits? (cs.take 8 ++ (cs.drop 9).take 4 ++ (cs.drop 14).take 4 ++ (cs.drop 19).take 4 ++
      cs.drop 24)
  else none

/-- What may stand before the form with hyphens. -/
def urn : List Char :=
  "urn:uuid:".toList

/-- Reads any of the four forms. -/
def parse? (s : String) : Option Uuid :=
  let cs := s.toList
  match cs with
  | '\x7b' :: rest => if rest.getLast? = some '\x7d' then ofGroups? rest.dropLast else none
  | _ =>
    if (cs.take urn.length).map Char.toLower = urn then ofGroups? (cs.drop urn.length)
    else if cs.length = 32 then ofDigits? cs
    else ofGroups? cs

end Uuid

end VmDescriptor
