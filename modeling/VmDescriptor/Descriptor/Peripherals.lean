import VmDescriptor.Descriptor.Consoles
import VmDescriptor.Descriptor.Displays
import VmDescriptor.HostDevice

/-!
The elements of peripherals.
-/

namespace VmDescriptor.Descriptor

open Text Xml

/-- A device with attributes and an address. -/
def placed (name : String) (attributes : List (String × String)) (a : Address) : Node :=
  .element name attributes (addressNodes a)

/-- The memory balloon of a machine without a balloon device. -/
def noBalloon : Node :=
  flag "memballoon" "model" "none"

/-- A video adapter. -/
def video (v : Video) (a : Address) : Node :=
  .element "video" [] <|
    .leaf "model" ([("type", v.model), ("vram", decimal (v.vram.getD 32768)),
      ("heads", decimal (v.heads.getD 1))] ++ numberIf "ram" v.ram ++
        numberIf "vgamem" v.vgamem) ::
    addressNodes a

/-- A controller. -/
def controller (c : Controller) (a : Address) : Node :=
  placed "controller" ([("type", c.type)] ++ attributeIf "model" c.model ++
    numberIf "index" c.index ++ numberIf "ports" c.ports) a

/-- A source of random numbers. -/
def rng (r : Rng) : Node :=
  let rate := r.bytes.toList.map fun bytes =>
    Node.leaf "rate" ([("bytes", decimal bytes)] ++ numberIf "period" r.period)
  .element "rng" [("model", "virtio")] <|
    rate ++ [.element "backend" [("model", "random")] [.text r.source.path]]

/-- The lease of a machine. -/
def lease (vm : Uuid) (l : Lease) : Node :=
  .element "lease" [] [
    .withText "key" vm.text,
    .withText "lockspace" l.domain.text,
    .leaf "target" (numberIf "offset" (l.offset.map (·.toNat)) ++ attributeIf "path" l.path)]

/-- A host device of a given type with its adapter, if it has one. -/
def passthrough (type : String) (adapter : Option String) (source a : Address) : Node :=
  .element "hostdev" ([("managed", "no"), ("mode", "subsystem")] ++
      (if adapter.isSome then [("rawio", "yes")] else []) ++ [("type", type)]) <|
    .element "source" [] (adapter.toList.map (flag "adapter" "name") ++
      [.leaf "address" source.attributes]) ::
    addressNodes a

/-- A device passed through from the host. One that the host lacks or that cannot be passed
through is left out with a notice; a PCI device that only holds a group together is left out
without. -/
def hostDevice (name : String) (iommuPlaceholder : Bool) (found : Option HostDevice)
    (a : Address) : Program (List Node) :=
  match found with
  | none => do
    .notice (.missingHostDevice name)
    return []
  | some d =>
    match d.capability, d.capability.sourceAddress? with
    | .pci .., some source =>
      return if iommuPlaceholder then [] else [passthrough "pci" none source a]
    | .usb .., some source => return [passthrough "usb" none source a]
    | .scsi host .., some source =>
      return [passthrough "scsi" (some ("scsi_host" ++ host)) source a]
    | _, _ => do
      .notice (.unsupportedHostDevice name)
      return []

/-- The device of a host with a name: the last one listed. -/
def namedDevice? (devices : List HostDevice) (name : String) : Option HostDevice :=
  devices.reverse.find? (·.name == name)

/-- A peripheral. The display network and the host's devices are looked up where needed. -/
def peripheral (vm : VirtualMachine) (host : Uuid) (config : BuildConfig) (p : Peripheral) :
    Program (List Node) := do
  let a := p.address
  match p.kind with
  | .balloon model => return [placed "memballoon" [("model", model)] a]
  | .smartcard mode type => return [placed "smartcard" [("mode", mode), ("type", type)] a]
  | .watchdog model action =>
    return [placed "watchdog" [("model", model), ("action", action)] a]
  | .video v => return [video v a]
  | .controller c => return [controller c a]
  | .graphics d =>
    let network ← .lookup (.displayNetwork vm.cluster)
    return [← display vm config d network]
  | .sound model => return [placed "sound" [("model", model)] a]
  | .rng r => return [rng r]
  | .console c => return [console vm.id c]
  | .redirection => return [placed "redirdev" [("type", "spicevmc"), ("bus", "usb")] a]
  | .hostDevice name iommuPlaceholder =>
    let devices ← .lookup (.hostDevices host)
    hostDevice name iommuPlaceholder (namedDevice? devices name) a

end VmDescriptor.Descriptor
