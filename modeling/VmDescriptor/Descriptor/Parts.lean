import VmDescriptor.Address
import VmDescriptor.Text.Numeral
import VmDescriptor.Xml.Tree

/-!
Parts that several elements of a descriptor have in common.
-/

namespace VmDescriptor.Descriptor

open Text Xml

/-- The address of a device, unless it is empty. -/
def addressNodes (a : Address) : List Node :=
  if a.isEmpty then [] else [.leaf "address" a.attributes]

/-- The boot position of a device, unless it is not booted from. -/
def bootNodes (position : Nat) : List Node :=
  if position = 0 then [] else [.leaf "boot" [("order", decimal position)]]

/-- A number as an attribute, if it is there. -/
def numberIf (key : String) (n : Option Nat) : List (String × String) :=
  attributeIf key (n.map decimal)

/-- An element with one attribute. -/
def flag (name key value : String) : Node :=
  .leaf name [(key, value)]

/-- A text that is given and not empty. -/
def nonEmpty (s : Option String) : Option String :=
  s.filter (· != "")

end VmDescriptor.Descriptor
