import VmDescriptor.Descriptor.Parts
import VmDescriptor.Peripheral
import VmDescriptor.VirtualMachine

/-!
Input devices, channels to the guest, and consoles, serial ones among them.
-/

namespace VmDescriptor.Descriptor

open Text Xml

/-- A tablet if VNC is the only display, else a mouse on a bus of the architecture. -/
def input (vm : VirtualMachine) : Node :=
  let (type, bus) :=
    if vm.graphics.keys = [.vnc] then ("tablet", "usb")
    else match vm.arch.family with
      | .x86 => ("mouse", "ps2")
      | .ppc => ("mouse", "usb")
  .leaf "input" [("type", type), ("bus", bus)]

/-- The names of the channels to the agents in the guest. -/
def agentChannels : List String :=
  ["ovirt-guest-agent.0", "org.qemu.guest_agent.0"]

/-- A channel to an agent in the guest, over a socket of the host. -/
def agentChannel (vm : Uuid) (name : String) : Node :=
  .element "channel" [("type", "unix")] [
    .leaf "target" [("type", "virtio"), ("name", name)],
    .leaf "source"
      [("mode", "bind"), ("path", "/var/lib/libvirt/qemu/channels/" ++ vm.text ++ "." ++ name)]]

/-- The path of the emulator, which is given for PPC only. -/
def emulator (vm : VirtualMachine) : List Node :=
  match vm.arch.family with
  | .x86 => []
  | .ppc => [flag "emulator" "text" ("/usr/bin/qemu-system-" ++ vm.arch.name)]

/-- The host's end of a console: its socket, or none for a pseudo-terminal. -/
def socket? (vm : Uuid) (c : Console) : Option String :=
  if c.enableSocket then some ("/var/run/ovirt-vmconsole-console/" ++ vm.text ++ ".sock")
  else none

/-- The type of a console's host end, and its source if it is a socket. -/
def hostEnd : Option String → List (String × String) × List Node
  | none => ([("type", "pty")], [])
  | some path =>
    ([("type", "unix")], [.leaf "source" [("path", path), ("mode", "bind")]])

/-- A console. -/
def console (vm : Uuid) (c : Console) : Node :=
  let (attributes, source) := hostEnd (socket? vm c)
  .element "console" attributes <|
    source ++ [.leaf "target" [("type", c.type), ("port", "0")]]

/-- The serial device of a serial console. -/
def serial (vm : Uuid) (c : Console) : Node :=
  let (attributes, source) := hostEnd (socket? vm c)
  .element "serial" attributes (source ++ [flag "target" "port" "0"])

/-- The channel to the SPICE agent in the guest. -/
def spiceChannel : Node :=
  .element "channel" [("type", "spicevmc")]
    [.leaf "target" [("type", "virtio"), ("name", "com.redhat.spice.0")]]

end VmDescriptor.Descriptor
