import VmDescriptor.Descriptor.Peripherals
import VmDescriptor.Encoder.Consoles
import VmDescriptor.Encoder.Parts

/-!
Encoders of peripherals.
-/

namespace VmDescriptor.Encoder

open Descriptor (autoPort secureChannels keymap)
open Text

/-! ### Emulated devices -/

/-- A memory balloon. -/
def balloon (model : String) (a : Address) : Encoder Unit := do
  start "memballoon"
  addAttribute "model" model
  address a
  close

/-- The memory balloon of a machine without a balloon device. -/
def noBalloon : Encoder Unit :=
  leaf "memballoon" [("model", "none")]

/-- A smartcard reader. -/
def smartcard (mode type : String) (a : Address) : Encoder Unit := do
  start "smartcard"
  addAttribute "mode" mode
  addAttribute "type" type
  address a
  close

/-- A watchdog. -/
def watchdog (model action : String) (a : Address) : Encoder Unit := do
  start "watchdog"
  addAttribute "model" model
  addAttribute "action" action
  address a
  close

/-- A video adapter. -/
def video (v : Video) (a : Address) : Encoder Unit := do
  start "video"
  start "model"
  addAttribute "type" v.model
  addAttribute "vram" (decimal (v.vram.getD 32768))
  addAttribute "heads" (decimal (v.heads.getD 1))
  addNumberIf "ram" v.ram
  addNumberIf "vgamem" v.vgamem
  close
  address a
  close

/-- A controller. -/
def controller (c : Controller) (a : Address) : Encoder Unit := do
  start "controller"
  addAttribute "type" c.type
  addAttributeIf "model" c.model
  addNumberIf "index" c.index
  addNumberIf "ports" c.ports
  address a
  close

/-- A sound device. -/
def sound (model : String) (a : Address) : Encoder Unit := do
  start "sound"
  addAttribute "model" model
  address a
  close

/-- The rate at which random numbers may be read. -/
def rate (bytes : Nat) (period : Option Nat) : Encoder Unit := do
  start "rate"
  addAttribute "bytes" (decimal bytes)
  addNumberIf "period" period
  close

/-- A source of random numbers. -/
def rng (r : Rng) : Encoder Unit := do
  start "rng"
  addAttribute "model" "virtio"
  whenSome r.bytes (rate · r.period)
  start "backend"
  addAttribute "model" "random"
  text r.source.path
  close
  close

/-- A redirected USB device. -/
def redirection (a : Address) : Encoder Unit := do
  start "redirdev"
  addAttribute "type" "spicevmc"
  addAttribute "bus" "usb"
  address a
  close

/-- The lease of a machine. -/
def lease (vm : Uuid) (l : Lease) : Encoder Unit := do
  start "lease"
  withText "key" vm.text
  withText "lockspace" l.domain.text
  start "target"
  addNumberIf "offset" (l.offset.map (·.toNat))
  addAttributeIf "path" l.path
  close
  close

/-! ### Remote displays -/

/-- A channel of a SPICE display that is secured. -/
def secureChannel (name : String) : Encoder Unit :=
  leaf "channel" [("name", name), ("mode", "secure")]

/-- The port of a SPICE display, in the element that is open, what it turns off and which
channels it secures. -/
def spiceOptions (vm : VirtualMachine) (config : BuildConfig) : Encoder Unit := do
  addAttribute "tlsPort" autoPort
  when (¬ vm.fileTransfer) (leaf "filetransfer" [("enable", "no")])
  when (¬ vm.copyPaste) (leaf "clipboard" [("copypaste", "no")])
  when config.settings.sslEnabled do
    let channels ← secureChannels config.settings.spiceSecureChannels
    each channels secureChannel

/-- Where a display listens. -/
def listen (d : Display) (network : Network) : Encoder Unit := do
  start "listen"
  match d.ip with
  | some ip =>
    addAttribute "type" "address"
    addAttribute "address" ip
  | none =>
    addAttribute "type" "network"
    addAttribute "network" ("vdsm-" ++ network.name)
  close

/-- A remote display. -/
def display (vm : VirtualMachine) (config : BuildConfig) (d : Display)
    (network : Option Network) : Encoder Unit := do
  start "graphics"
  addAttribute "type" d.type.name
  addAttribute "port" autoPort
  addAttribute "autoport" "yes"
  addAttribute "passwd" "*****"
  addAttribute "passwdValidTo" "1970-01-01T00:00:01"
  when network.isNone (addAttribute "listen" "0")
  match d.type with
  | .spice => spiceOptions vm config
  | .vnc => addAttribute "keymap" (keymap vm config)
  whenSome network (listen d)
  close

/-! ### Devices of the host -/

/-- A host device of a given type with its adapter, if it has one. -/
def passthrough (type : String) (adapter : Option String) (source a : Address) :
    Encoder Unit := do
  start "hostdev"
  addAttribute "managed" "no"
  addAttribute "mode" "subsystem"
  when adapter.isSome (addAttribute "rawio" "yes")
  addAttribute "type" type
  start "source"
  whenSome adapter fun name => leaf "adapter" [("name", name)]
  leaf "address" source.attributes
  close
  address a
  close

/-- A device passed through from the host, unless it is left out. -/
def hostDevice (name : String) (iommuPlaceholder : Bool) (found : Option HostDevice)
    (a : Address) : Encoder Unit :=
  match found with
  | none => Program.notice (.missingHostDevice name)
  | some d =>
    match d.capability, d.capability.sourceAddress? with
    | .pci .., some source =>
      when (¬ iommuPlaceholder) (passthrough "pci" none source a)
    | .usb .., some source => passthrough "usb" none source a
    | .scsi host .., some source => passthrough "scsi" (some ("scsi_host" ++ host)) source a
    | _, _ => Program.notice (.unsupportedHostDevice name)

/-! ### All kinds -/

/-- A peripheral. If it is a serial console, the path of its socket is returned. -/
def peripheral (vm : VirtualMachine) (host : Uuid) (config : BuildConfig) (p : Peripheral) :
    Encoder (Option String) :=
  match p.kind with
  | .balloon model => do
    balloon model p.address
    return none
  | .smartcard mode type => do
    smartcard mode type p.address
    return none
  | .watchdog model action => do
    watchdog model action p.address
    return none
  | .video v => do
    video v p.address
    return none
  | .controller c => do
    controller c p.address
    return none
  | .graphics d => do
    let network ← Program.lookup (.displayNetwork vm.cluster)
    display vm config d network
    return none
  | .sound model => do
    sound model p.address
    return none
  | .rng r => do
    rng r
    return none
  | .console c => do
    console vm.id c
    return if c.isSerial then some (socketPath vm.id c) else none
  | .redirection => do
    redirection p.address
    return none
  | .hostDevice name iommuPlaceholder => do
    let devices ← Program.lookup (.hostDevices host)
    hostDevice name iommuPlaceholder (Descriptor.namedDevice? devices name) p.address
    return none

/-- One more peripheral, after those with a given path of the last serial console. -/
def nextPeripheral (vm : VirtualMachine) (host : Uuid) (config : BuildConfig)
    (found : Option String) (p : Peripheral) : Encoder (Option String) := do
  let path ← peripheral vm host config p
  return path.or found

/-- Peripherals in order. The path of the last serial console is returned. -/
def peripherals (vm : VirtualMachine) (host : Uuid) (config : BuildConfig)
    (ps : List Peripheral) : Encoder (Option String) :=
  ps.foldlM (nextPeripheral vm host config) none

end VmDescriptor.Encoder
