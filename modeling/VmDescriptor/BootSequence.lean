import VmDescriptor.Codec.Basic

/-!
Boot sequences: the classes of devices that a machine tries to boot from, in order.

A sequence is written with one letter for each class, `C` for disks, `D` for CD-ROMs and `N`
for the network. It names at least one class and none twice, and is read in either case.
-/

namespace VmDescriptor

/-- A class of devices that may be booted from. -/
inductive BootClass where
  | disk
  | cdrom
  | network
  deriving DecidableEq, Repr

namespace BootClass

def letter : BootClass → Char
  | .disk => 'C'
  | .cdrom => 'D'
  | .network => 'N'

/-- The class of a letter in either case. -/
def ofLetter? (c : Char) : Option BootClass :=
  match c.toUpper with
  | 'C' => some .disk
  | 'D' => some .cdrom
  | 'N' => some .network
  | _ => none

end BootClass

/-- Classes of devices in the order in which they are tried. -/
structure BootSequence where
  classes : List BootClass
  distinct : classes.Nodup
  nonempty : classes ≠ []
  deriving DecidableEq

namespace BootSequence

/-- A sequence as the list of its classes. -/
instance : Coe BootSequence (List BootClass) := ⟨classes⟩

/-- The disks alone. -/
def disks : BootSequence := ⟨[.disk], by decide, by decide⟩

instance : Inhabited BootSequence := ⟨disks⟩

/-- The written form. -/
def text (s : BootSequence) : String :=
  .ofList (s.classes.map BootClass.letter)

/-- Reads a sequence. -/
def parse (s : String) : Except Malformed BootSequence :=
  match s.toList.mapM BootClass.ofLetter? with
  | some classes =>
    if h : classes.Nodup ∧ classes ≠ [] then .ok ⟨classes, h.1, h.2⟩
    else .error (.bootSequence s)
  | none => .error (.bootSequence s)

def codec : Codec BootSequence := .ofParser text parse

end BootSequence

end VmDescriptor
