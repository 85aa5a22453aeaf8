import VmDescriptor.Codec.Basic
import VmDescriptor.Text.Blank

/-!
Compatibility versions: two numbers of 32 bits, written with a point between them.

Versions are ordered by the first number and then by the second, so 4.10 comes after 4.9.
-/

namespace VmDescriptor

open Text

/-- A cluster compatibility version. -/
structure Version where
  major : UInt32
  minor : UInt32
  deriving DecidableEq, Repr

namespace Version

/-- The written form. -/
def text (v : Version) : String :=
  decimal v.major.toNat ++ "." ++ decimal v.minor.toNat

/-- One of the two numbers, if the text is one that fits 32 bits. -/
def part? (cs : List Char) : Option UInt32 :=
  (unsigned? UInt32.size cs).map .ofNat

/-- Reads a version: two unsigned numerals around the first point. -/
def parse (s : String) : Except Malformed Version :=
  match cut '.' s.toList with
  | some (major, minor) =>
    match part? major, part? minor with
    | some major, some minor => .ok ⟨major, minor⟩
    | _, _ => .error (.version s)
  | none => .error (.version s)

def codec : Codec Version := .ofParser text parse

instance : Ord Version :=
  ⟨compareLex (compareOn fun v => v.major.toNat) (compareOn fun v => v.minor.toNat)⟩

/-- Whether `v` is `w` or comes after it. -/
def atLeast (v w : Version) : Bool :=
  (compare v w).isGE

end Version

end VmDescriptor
