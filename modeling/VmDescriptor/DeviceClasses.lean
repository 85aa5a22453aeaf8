import VmDescriptor.Peripheral
import VmDescriptor.Program
import VmDescriptor.RunOnce

/-!
The devices of a machine by what becomes of them in its descriptor.

The plugged devices of the list are distributed in order. Disk and interface devices of an
unknown subtype and devices with unusable parameters are left out with a notice; memory
devices, channels, redirected devices and devices of unknown type are never described.
-/

namespace VmDescriptor

/-- How a NIC reaches its network. -/
inductive InterfaceKind where
  | bridge
  | hostdev
  deriving DecidableEq, Repr

namespace InterfaceKind

def all : List InterfaceKind := [.bridge, .hostdev]

def name : InterfaceKind → String
  | .bridge => "bridge"
  | .hostdev => "hostdev"

end InterfaceKind

/-- An interface device. -/
structure InterfaceDevice where
  device : Device
  kind : InterfaceKind

/-- The devices of a machine by class, each class in the order of the list. -/
structure DeviceClasses where
  peripherals : List Peripheral
  interfaces : List InterfaceDevice
  disks : List Device
  cdroms : List Device
  floppy : Option Device
  /-- The indices given out to controllers. -/
  indices : DiskIndices
  /-- The notices about devices that are left out. -/
  notices : List Notice

namespace DeviceClasses

/-- No devices. -/
def initial (indices : DiskIndices) : DeviceClasses where
  peripherals := []
  interfaces := []
  disks := []
  cdroms := []
  floppy := none
  indices := indices
  notices := []

/-- The classes with one more notice. -/
def withNotice (cs : DeviceClasses) (n : Notice) : DeviceClasses :=
  { cs with notices := cs.notices ++ [n] }

/-- Of two floppies, the one before stays only if it carries a payload. -/
def chooseFloppy (before : Option Device) (d : Device) : Option Device :=
  if before.any Device.isPayload then before else some d

/-- The classes with one more device of the type of disks. -/
def addDisk (cs : DeviceClasses) (d : Device) : DeviceClasses :=
  if d.subtype = "cdrom" then { cs with cdroms := cs.cdroms ++ [d] }
  else if d.subtype = "disk" then { cs with disks := cs.disks ++ [d] }
  else if d.subtype = Device.floppySubtype then
    { cs with floppy := chooseFloppy cs.floppy d }
  else cs.withNotice (.unknownDisk d.subtype)

/-- The classes with one more device of the type of interfaces. -/
def addInterface (cs : DeviceClasses) (d : Device) : DeviceClasses :=
  match InterfaceKind.all.find? (·.name == d.subtype) with
  | some kind => { cs with interfaces := cs.interfaces ++ [⟨d, kind⟩] }
  | none => cs.withNotice (.unknownInterface d.subtype)

/-- The classes with one more device of any other type. -/
def addPeripheral (cs : DeviceClasses) (d : Device) : DeviceClasses :=
  match Peripheral.kind? d cs.indices with
  | .ok (some (kind, indices)) =>
    { cs with peripherals := cs.peripherals ++ [⟨kind, d.address⟩], indices }
  | .ok none => cs
  | .error e => cs.withNotice (.unusableParameters d.subtype e)

/-- The classes with one more device of the list. -/
def add (cs : DeviceClasses) (d : Device) : DeviceClasses :=
  if !d.plugged then cs
  else match d.type with
    | .disk => cs.addDisk d
    | .interface => cs.addInterface d
    | _ => cs.addPeripheral d

/-- The devices of a list by class. -/
def ofDevices (indices : DiskIndices) (devices : List Device) : DeviceClasses :=
  devices.foldl add (initial indices)

/-- Peripherals that other parts of a descriptor depend on, once they have been met. -/
structure Seen where
  balloon : Bool
  spice : Bool

/-- Nothing has been met. -/
def Seen.nothing : Seen := ⟨false, false⟩

/-- What has been met after one more peripheral. -/
def Seen.note (seen : Seen) : PeripheralKind → Seen
  | .balloon _ => { seen with balloon := true }
  | .graphics d => { seen with spice := seen.spice || d.type = .spice }
  | _ => seen

/-- The classes with one more device of the list, and what has been met after it. -/
def addSeen (state : DeviceClasses × Seen) (d : Device) : DeviceClasses × Seen :=
  let (cs, seen) := state
  match Peripheral.kind? d cs.indices with
  | .ok (some (kind, _)) => (cs.add d, if d.plugged then seen.note kind else seen)
  | _ => (cs.add d, seen)

/-- The devices of a list by class, and what has been met among them. -/
def classify (indices : DiskIndices) (devices : List Device) : DeviceClasses × Seen :=
  devices.foldl addSeen (initial indices, .nothing)

/-- Whether a memory balloon is among the peripherals. -/
def hasBalloon (cs : DeviceClasses) : Bool :=
  cs.peripherals.any fun p =>
    match p.kind with
    | .balloon _ => true
    | _ => false

/-- Whether a SPICE display is among the peripherals. -/
def hasSpice (cs : DeviceClasses) : Bool :=
  cs.peripherals.any fun p =>
    match p.kind with
    | .graphics d => d.type = .spice
    | _ => false

/-- The last serial console among the peripherals. -/
def serialConsole? (cs : DeviceClasses) : Option Console :=
  cs.peripherals.reverse.findSome? fun p =>
    match p.kind with
    | .console c => if c.isSerial then some c else none
    | _ => none

end DeviceClasses

end VmDescriptor
