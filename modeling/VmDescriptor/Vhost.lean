import VmDescriptor.Text.Blank

/-!
The `vhost` property of a machine, which chooses the backend of NICs by network.

The property is a list of entries `network:setting` with commas between; blanks around the
parts do not count. For a network the first entry with its name decides alone: `true` chooses
the backend in the kernel and `false` the one in the emulator, in any letter case. Any other
setting is invalid and chooses nothing.
-/

namespace VmDescriptor.Vhost

open Text

/-- What the property says about a network. -/
inductive Setting where
  | kernel
  | emulator
  /-- A setting that is neither true nor false. -/
  | invalid (value : String)
  deriving DecidableEq

/-- The name of a backend in a descriptor. -/
def Setting.driver? : Setting → Option String
  | .kernel => some "vhost"
  | .emulator => some "qemu"
  | .invalid _ => none

/-- Reads the text of a setting. -/
def Setting.ofText (s : String) : Setting :=
  if sameLetters s "true" then .kernel
  else if sameLetters s "false" then .emulator
  else .invalid s

/-- The name and the setting of an entry; without a colon the setting is empty. -/
def entry (cs : List Char) : String × String :=
  match cut ':' cs with
  | some (name, setting) => (.ofList (trim name), .ofList (trim setting))
  | none => (.ofList (trim cs), "")

/-- The entries of the property. -/
def entries (property : String) : List (String × String) :=
  (property.toList.splitOn ',').map entry

/-- What the property says about a network, if anything. -/
def setting? (property network : String) : Option Setting :=
  ((entries property).lookup network).map .ofText

end VmDescriptor.Vhost
