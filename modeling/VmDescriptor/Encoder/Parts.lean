import VmDescriptor.Address
import VmDescriptor.Encoder.Basic
import VmDescriptor.Text.Numeral

/-!
Encoders of parts that several elements have in common.
-/

namespace VmDescriptor.Encoder

open Text

/-- The address of a device, unless it is empty. -/
def address (a : Address) : Encoder Unit :=
  when (¬ a.isEmpty) (leaf "address" a.attributes)

/-- The boot position of a device, unless it is not booted from. -/
def bootOrder (position : Nat) : Encoder Unit :=
  when (position ≠ 0) (leaf "boot" [("order", decimal position)])

/-- A number as an attribute, if it is there. -/
def addNumberIf (key : String) (n : Option Nat) : Encoder Unit :=
  addAttributeIf key (n.map decimal)

end VmDescriptor.Encoder
