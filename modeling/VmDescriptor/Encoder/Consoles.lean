import VmDescriptor.Descriptor.Consoles
import VmDescriptor.Encoder.Basic

/-!
Encoders of input devices, channels to the guest, and consoles.

The host's end of a console is a path here, which is empty for a pseudo-terminal.
-/

namespace VmDescriptor.Encoder

open Descriptor (agentChannels)

/-- The path of the socket of a console, if it has one; else the empty path. -/
def socketPath (vm : Uuid) (c : Console) : String :=
  if c.enableSocket then "/var/run/ovirt-vmconsole-console/" ++ vm.text ++ ".sock" else ""

/-- A tablet if VNC is the only display, else a mouse. -/
def input (vm : VirtualMachine) : Encoder Unit :=
  let (type, bus) :=
    if vm.graphics.size = 1 ∧ vm.graphics.contains .vnc then ("tablet", "usb")
    else if vm.arch.family = .x86 then ("mouse", "ps2")
    else ("mouse", "usb")
  leaf "input" [("type", type), ("bus", bus)]

/-- A channel to an agent in the guest. -/
def agentChannel (vm : Uuid) (name : String) : Encoder Unit := do
  start "channel"
  addAttribute "type" "unix"
  leaf "target" [("type", "virtio"), ("name", name)]
  start "source"
  addAttribute "mode" "bind"
  addAttribute "path" ("/var/lib/libvirt/qemu/channels/" ++ vm.text ++ "." ++ name)
  close
  close

/-- The path of the emulator, for PPC. -/
def emulator (vm : VirtualMachine) : Encoder Unit :=
  when (vm.arch.family = .ppc) (leaf "emulator" [("text", "/usr/bin/qemu-system-" ++ vm.arch.name)])

/-- The type of the host's end, in the element that is open, and its source if it is a socket. -/
def hostEnd (path : String) : Encoder Unit :=
  if path = "" then addAttribute "type" "pty"
  else do
    addAttribute "type" "unix"
    leaf "source" [("path", path), ("mode", "bind")]

/-- A console. -/
def console (vm : Uuid) (c : Console) : Encoder Unit := do
  start "console"
  hostEnd (socketPath vm c)
  leaf "target" [("type", c.type), ("port", "0")]
  close

/-- The serial device with the host's end of a serial console. -/
def serial (path : String) : Encoder Unit := do
  start "serial"
  hostEnd path
  leaf "target" [("port", "0")]
  close

/-- The channel to the SPICE agent in the guest. -/
def spiceChannel : Encoder Unit := do
  start "channel"
  addAttribute "type" "spicevmc"
  leaf "target" [("type", "virtio"), ("name", "com.redhat.spice.0")]
  close

end VmDescriptor.Encoder
