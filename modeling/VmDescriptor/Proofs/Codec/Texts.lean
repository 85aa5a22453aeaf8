import VmDescriptor.CreateParams
import VmDescriptor.Proofs.Codec.Choice
import VmDescriptor.Proofs.Text.Blank
import VmDescriptor.Proofs.Text.Numeral
import VmDescriptor.VirtualMachine

/-!
Values that are written as texts of their own are read back from them: versions, boot sequences,
the members of closed sets and the keys of maps.
-/

namespace VmDescriptor

open Text

lemma toList_decimal (n : Nat) : (decimal n).toList = Nat.toDigits 10 n := by
  rw [decimal, String.toList_ofList]

/-! ### Versions -/

namespace Version

lemma point_notMem_toDigits (n : Nat) : '.' ∉ Nat.toDigits 10 n := fun h => by
  have hdigit : Char.isDigit '.' := Nat.isDigit_of_mem_toDigits (by decide) (by decide) h
  simp at hdigit

lemma part?_toDigits (n : UInt32) : part? (Nat.toDigits 10 n.toNat) = some n := by
  rw [part?, unsigned?_toDigits, if_pos n.toNat_lt, Option.map_some, UInt32.ofNat_toNat]

/-- A version is read back from its written form. -/
theorem parse_text (v : Version) : parse v.text = .ok v := by
  have hcut : cut '.' v.text.toList =
      some (Nat.toDigits 10 v.major.toNat, Nat.toDigits 10 v.minor.toNat) := by
    have hpoint : ".".toList = ['.'] := rfl
    rw [text, String.toList_append, String.toList_append, toList_decimal, toList_decimal, hpoint,
      List.append_assoc, List.singleton_append]
    exact cut_append (point_notMem_toDigits _) _
  simp only [parse, hcut, part?_toDigits]

instance : codec.Faithful := .ofParser parse_text

end Version

/-! ### Boot sequences -/

namespace BootSequence

/-- A boot sequence is read back from its written form. -/
theorem parse_text (s : BootSequence) : parse s.text = .ok s := by
  have hletter : ∀ c : BootClass, BootClass.ofLetter? c.letter = some c := by
    intro c
    cases c <;> rfl
  have hclasses : s.text.toList.mapM BootClass.ofLetter? = some s.classes := by
    rw [text, String.toList_ofList]
    exact mapM_map_eq_pure fun c _ => hletter c
  simp only [parse, hclasses, s.distinct, s.nonempty, ne_eq, not_false_eq_true, and_self,
    dif_pos]

instance : codec.Faithful := .ofParser parse_text

end BootSequence

/-! ### Closed sets -/

instance : Architecture.codec.Faithful := .ofParser fun a => by cases a <;> rfl

instance : DiskInterface.codec.Faithful := .ofParser fun a => by cases a <;> rfl

instance : DisplayType.codec.Faithful := .ofParser fun a => by cases a <;> rfl

instance : DeviceType.codec.Faithful := .enumeration fun a => by cases a <;> rfl

instance : NicModel.codec.Faithful := .enumeration fun a => by cases a <;> rfl

instance : ScsiFilter.codec.Faithful := .enumeration fun a => by cases a <;> rfl

instance : VolumeFormat.codec.Faithful := .enumeration fun a => by cases a <;> rfl

instance : StorageType.codec.Faithful := .enumeration fun a => by cases a <;> rfl

/-! ### Keys of maps -/

namespace GraphicsInfos

lemma parse_name (t : GraphicsType) :
    (GraphicsType.parse t.name).mapError DecodeError.malformed = .ok t := by
  cases t <;> rfl

end GraphicsInfos

namespace CpuPinning

lemma parseKey_decimal (n : UInt32) : parseKey (decimal n.toNat : Json.Name) = .ok n := by
  have hn : n.toNat < UInt32.size := n.toNat_lt
  simp only [parseKey, toList_decimal, digits?_toDigits, hn, and_self, if_true,
    UInt32.ofNat_toNat]

instance : codec.Faithful := .map parseKey_decimal

end CpuPinning

end VmDescriptor
