import VmDescriptor.Device.Parameters
import VmDescriptor.DiskIndices
import VmDescriptor.Machine

/-!
Peripherals: the devices that are described one by one in the order of the device list.

The loose parameters of a stored device are read here into a record of its kind, so that
nothing else looks at them. A device whose parameters do not fit is left out with a notice.
-/

namespace VmDescriptor

/-- A controller. The index and ports of virtio controllers are fixed. -/
structure Controller where
  type : String
  model : Option String
  index : Option Nat
  ports : Option Nat
  deriving DecidableEq

namespace Controller

/-- The subtype of virtio-serial controllers. -/
def virtioSerial : String := "virtio-serial"

/-- The subtype of virtio-scsi controllers. -/
def virtioScsi : String := "virtio-scsi"

/-- The controller with the fixed parameters of its kind; a virtio-scsi controller takes the
next index. -/
def complete (stored : Controller) (ix : DiskIndices) : Controller × DiskIndices :=
  if stored.type = virtioSerial then ({ stored with index := some 0, ports := some 16 }, ix)
  else if stored.type = virtioScsi then
    let (index, ix) := ix.takeController
    ({ stored with type := "scsi", index := some index, model := some virtioScsi }, ix)
  else (stored, ix)

end Controller

/-- A video adapter. -/
structure Video where
  model : String
  vram : Option Nat
  heads : Option Nat
  ram : Option Nat
  vgamem : Option Nat
  deriving DecidableEq

/-- A remote display. -/
structure Display where
  type : GraphicsType
  ip : Option String
  deriving DecidableEq

/-- The host's source of random numbers. -/
inductive RandomSource where
  | random
  | urandom
  | hwrng
  deriving DecidableEq, Repr

namespace RandomSource

def all : List RandomSource := [.random, .urandom, .hwrng]

def name : RandomSource → String
  | .random => "random"
  | .urandom => "urandom"
  | .hwrng => "hwrng"

/-- The device file of the source. -/
def path (s : RandomSource) : String :=
  "/dev/" ++ s.name

end RandomSource

/-- A source of random numbers for the guest, with the rate at which it may be read. -/
structure Rng where
  source : RandomSource
  bytes : Option Nat
  period : Option Nat
  deriving DecidableEq

/-- A console. -/
structure Console where
  /-- The type of the console's target; `virtio` unless stored. -/
  type : String
  enableSocket : Bool
  deriving DecidableEq

/-- Whether a console is serial. -/
def Console.isSerial (c : Console) : Bool :=
  c.type == "serial"

/-- The parameters of a peripheral by kind. -/
inductive PeripheralKind where
  | balloon (model : String)
  | smartcard (mode type : String)
  | watchdog (model action : String)
  | video (v : Video)
  | controller (c : Controller)
  | graphics (d : Display)
  | sound (model : String)
  | rng (r : Rng)
  | console (c : Console)
  | redirection
  /-- The host device with this name. -/
  | hostDevice (name : String) (iommuPlaceholder : Bool)
  deriving DecidableEq

/-- A peripheral with its place in the guest. -/
structure Peripheral where
  kind : PeripheralKind
  address : Address
  deriving DecidableEq

namespace Peripheral

/-- Whether the general type is that of peripherals. -/
def isType : DeviceType → Bool
  | .balloon | .smartcard | .watchdog | .video | .controller | .graphics | .sound | .rng
  | .console | .redir | .hostdev => true
  | _ => false

/-- Reads the stored parameters of a controller. -/
def controller (d : Device) : Except ParameterError Controller := do
  let model ← d.parameters.string? "model"
  let index ← d.parameters.nat? "index"
  let ports ← d.parameters.nat? "ports"
  return { type := d.subtype, model, index, ports }

/-- Reads the parameters of a video adapter. -/
def video (d : Device) : Except ParameterError Video := do
  let vram ← d.parameters.nat? "vram"
  let heads ← d.parameters.nat? "heads"
  let ram ← d.parameters.nat? "ram"
  let vgamem ← d.parameters.nat? "vgamem"
  return { model := d.subtype, vram, heads, ram, vgamem }

/-- Reads the parameters of a remote display, whose protocol is the subtype. -/
def display (d : Device) : Except ParameterError Display := do
  match GraphicsType.parse d.subtype with
  | .ok type => return { type, ip := ← d.parameters.string? "displayIp" }
  | .error _ => throw (.invalid "device" d.subtype)

/-- Reads the parameters of a source of random numbers. -/
def rng (d : Device) : Except ParameterError Rng := do
  let name ← d.parameters.string "source"
  match RandomSource.all.find? (·.name == name) with
  | some source =>
    let bytes ← d.parameters.nat? "bytes"
    let period ← d.parameters.nat? "period"
    return { source, bytes, period }
  | none => throw (.invalid "source" name)

/-- Reads the parameters of a console. -/
def console (d : Device) : Except ParameterError Console := do
  let type ← d.parameters.string? "consoleType"
  let enableSocket ← d.parameters.boolean? "enableSocket"
  return { type := type.getD "virtio", enableSocket := enableSocket.getD false }

/-- Reads the parameters of a device; a controller is completed. A device of a general type
that is not that of peripherals is none. -/
def kind? (d : Device) (ix : DiskIndices) :
    Except ParameterError (Option (PeripheralKind × DiskIndices)) := do
  let p := d.parameters
  match d.type with
  | .balloon => return some (.balloon (← p.string "model"), ix)
  | .smartcard =>
    let mode ← p.string "mode"
    let type ← p.string "type"
    return some (.smartcard mode type, ix)
  | .watchdog =>
    let model ← p.string? "model"
    let action ← p.string? "action"
    return some (.watchdog (model.getD "i6300esb") (action.getD "none"), ix)
  | .video => return some (.video (← video d), ix)
  | .controller =>
    let (c, ix) := (← controller d).complete ix
    return some (.controller c, ix)
  | .graphics => return some (.graphics (← display d), ix)
  | .sound => return some (.sound d.subtype, ix)
  | .rng => return some (.rng (← rng d), ix)
  | .console => return some (.console (← console d), ix)
  | .redir => return some (.redirection, ix)
  | .hostdev =>
    let placeholder ← p.boolean? "iommuPlaceholder"
    return some (.hostDevice d.subtype (placeholder.getD false), ix)
  | _ => return none

end Peripheral

end VmDescriptor
