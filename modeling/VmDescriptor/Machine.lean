import VmDescriptor.Codec.Basic

/-!
The closed sets of names that describe an emulated machine: architectures, chipsets, disk and
CD-ROM buses, display adapters and display protocols.

Each member has one name. A text that is none of the names of a set is not recognized.
-/

namespace VmDescriptor

/-- The member of a set with a given name. -/
def recognize {α : Type} (kind : String) (all : List α) (name : α → String) (s : String) :
    Except Malformed α :=
  match all.find? (name · == s) with
  | some a => .ok a
  | none => .error (.unrecognized kind s)

/-- The processor architecture of a cluster and its machines. -/
inductive Architecture where
  | x86_64
  | ppc64
  | ppc64le
  deriving DecidableEq, Repr

/-- Families of architectures. -/
inductive ArchitectureFamily where
  | x86
  | ppc
  deriving DecidableEq, Repr

namespace Architecture

def all : List Architecture := [.x86_64, .ppc64, .ppc64le]

def name : Architecture → String
  | .x86_64 => "x86_64"
  | .ppc64 => "ppc64"
  | .ppc64le => "ppc64le"

def parse : String → Except Malformed Architecture :=
  recognize "architecture" all name

def codec : Codec Architecture := .ofParser name parse

def family : Architecture → ArchitectureFamily
  | .x86_64 => .x86
  | .ppc64 | .ppc64le => .ppc

end Architecture

/-- The bus that a disk is attached to. -/
inductive DiskInterface where
  | ide
  | virtio
  | virtioScsi
  | spaprVscsi
  deriving DecidableEq, Repr

namespace DiskInterface

def all : List DiskInterface := [.ide, .virtio, .virtioScsi, .spaprVscsi]

def name : DiskInterface → String
  | .ide => "ide"
  | .virtio => "virtio"
  | .virtioScsi => "virtio_scsi"
  | .spaprVscsi => "spapr_vscsi"

def parse : String → Except Malformed DiskInterface :=
  recognize "disk interface" all name

def codec : Codec DiskInterface := .ofParser name parse

end DiskInterface

/-- The bus that the CD-ROM drives are attached to. -/
inductive CdInterface where
  | ide
  | scsi
  | sata
  deriving DecidableEq, Repr

namespace CdInterface

def all : List CdInterface := [.ide, .scsi, .sata]

def name : CdInterface → String
  | .ide => "ide"
  | .scsi => "scsi"
  | .sata => "sata"

def parse : String → Except Malformed CdInterface :=
  recognize "cd interface" all name

def codec : Codec CdInterface := .ofParser name parse

/-- The disk interface whose indices the CD-ROMs share, if any. -/
def diskInterface? : CdInterface → Option DiskInterface
  | .ide => some .ide
  | .scsi => some .virtioScsi
  | .sata => none

end CdInterface

/-- A remote display protocol. -/
inductive GraphicsType where
  | spice
  | vnc
  deriving DecidableEq, Repr

namespace GraphicsType

def all : List GraphicsType := [.spice, .vnc]

def name : GraphicsType → String
  | .spice => "spice"
  | .vnc => "vnc"

def parse : String → Except Malformed GraphicsType :=
  recognize "graphics type" all name

/-- The place of a protocol in the order of emission. -/
def rank : GraphicsType → Nat
  | .spice => 0
  | .vnc => 1

instance : Ord GraphicsType := ⟨compareOn rank⟩

instance : Std.TransOrd GraphicsType := inferInstanceAs (Std.TransCmp (compareOn rank))

end GraphicsType

/-- The emulated display adapter. -/
inductive DisplayType where
  | none
  | qxl
  | vga
  | cirrus
  deriving DecidableEq, Repr

namespace DisplayType

def all : List DisplayType := [.none, .qxl, .vga, .cirrus]

def name : DisplayType → String
  | .none => "none"
  | .qxl => "qxl"
  | .vga => "vga"
  | .cirrus => "cirrus"

def parse : String → Except Malformed DisplayType :=
  recognize "display type" all name

def codec : Codec DisplayType := .ofParser name parse

/-- The model of the adapter's video device, if it has one. -/
def videoModel? : DisplayType → Option String
  | .none => Option.none
  | .qxl => some "qxl"
  | .vga => some "vga"
  | .cirrus => some "cirrus"

end DisplayType

/-- The emulated chipset. -/
inductive Chipset where
  | i440fx
  | q35
  deriving DecidableEq, Repr

namespace Chipset

def all : List Chipset := [.i440fx, .q35]

def name : Chipset → String
  | .i440fx => "i440fx"
  | .q35 => "q35"

def parse : String → Except Malformed Chipset :=
  recognize "chipset" all name

/-- Whether the text contains `q35`. -/
def namesQ35 : List Char → Bool
  | [] => false
  | c :: rest => ['q', '3', '5'].isPrefixOf (c :: rest) || namesQ35 rest

/-- The chipset of a machine type: Q35 if the type's name contains `q35`. -/
def ofMachine (machine : Option String) : Chipset :=
  match machine with
  | some m => if namesQ35 m.toList then .q35 else .i440fx
  | none => .i440fx

end Chipset

end VmDescriptor
