import VmDescriptor.BuildConfig
import VmDescriptor.Descriptor.Parts
import VmDescriptor.Peripheral
import VmDescriptor.Program
import VmDescriptor.Text.Blank

/-!
Remote displays.
-/

namespace VmDescriptor.Descriptor

open Text Xml

/-- The names of the SPICE channels. -/
def spiceChannels : List String :=
  ["main", "display", "inputs", "cursor", "playback", "record", "smartcard", "usbredir"]

/-- The SPICE channel with a configured name; old names have an `s` in front. -/
def spiceChannel? (name : String) : Option String :=
  if name ∈ spiceChannels then some name
  else match name.toList with
    | 's' :: rest => if String.ofList rest ∈ spiceChannels then some (.ofList rest) else none
    | _ => none

/-- The configured names that are not blank, without blanks at their ends. -/
def channelNames (configured : List String) : List String :=
  (configured.map trimmed).filter (· != "")

/-- The SPICE channels to secure; a name of no channel is left out with a notice. -/
def secureChannels (configured : List String) : Program (List String) := do
  let names := channelNames configured
  .notices ((names.filter (spiceChannel? · = none)).map .unsupportedChannel)
  return names.filterMap spiceChannel?

/-- Leaves the choice to the host. -/
def autoPort : String := "-1"

/-- The placeholders for the ticket, which are replaced when a client connects. -/
def ticketAttributes : List (String × String) :=
  [("passwd", "*****"), ("passwdValidTo", "1970-01-01T00:00:01")]

/-- What a SPICE display turns off and which channels it secures. -/
def spiceOptions (vm : VirtualMachine) (config : BuildConfig) : Program (List Node) := do
  let channels ←
    if config.settings.sslEnabled then secureChannels config.settings.spiceSecureChannels
    else pure []
  return (if vm.fileTransfer then [] else [flag "filetransfer" "enable" "no"]) ++
    (if vm.copyPaste then [] else [flag "clipboard" "copypaste" "no"]) ++
    channels.map fun name => .leaf "channel" [("name", name), ("mode", "secure")]

/-- The keyboard layout of a VNC display. -/
def keymap (vm : VirtualMachine) (config : BuildConfig) : String :=
  (vm.keyboard.or vm.defaultKeyboard).getD config.settings.vncKeyboard

/-- Where a display listens: at its address, or on the display network. -/
def listen (d : Display) (network : Network) : Node :=
  match d.ip with
  | some ip => .leaf "listen" [("type", "address"), ("address", ip)]
  | none => .leaf "listen" [("type", "network"), ("network", "vdsm-" ++ network.name)]

/-- A remote display; without a display network it listens on every address. -/
def display (vm : VirtualMachine) (config : BuildConfig) (d : Display)
    (network : Option Network) : Program Node := do
  let common := [("type", d.type.name), ("port", autoPort), ("autoport", "yes")] ++
    ticketAttributes ++ (if network.isNone then [("listen", "0")] else [])
  let listening := network.toList.map (listen d)
  match d.type with
  | .spice =>
    let options ← spiceOptions vm config
    return .element "graphics" (common ++ [("tlsPort", autoPort)]) (options ++ listening)
  | .vnc =>
    return .element "graphics" (common ++ [("keymap", keymap vm config)]) listening

end VmDescriptor.Descriptor
