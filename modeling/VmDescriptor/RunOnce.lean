import VmDescriptor.VirtualMachine

/-!
The device list of a run-once start.

A machine that is run once may get another display, another payload and a floppy for this run
only. Stored devices that are replaced are left out and the new ones are added at the end of
the list; all are plugged, managed and without parameters. Their identifiers are made up.
-/

namespace VmDescriptor

/-- Identifiers for the devices added for one run. -/
structure FreshIds where
  video : Uuid
  graphics : GraphicsType → Uuid
  floppy : Uuid

/-- The same identifier for every added device. -/
def FreshIds.constant (id : Uuid) : FreshIds := ⟨id, fun _ => id, id⟩

/-- The subtype of floppies. -/
def Device.floppySubtype : String := "floppy"

namespace RunOnce

/-- Whether a text is given and not empty. -/
def isGiven (s : Option String) : Bool :=
  s.any (· != "")

/-- The list with the video device of the machine's display type, if one is set. -/
def withVideo (fresh : FreshIds) (vm : VirtualMachine) (devices : List Device) : List Device :=
  match vm.displayType with
  | none => devices
  | some display =>
    devices.filter (·.type != .video) ++
      (display.videoModel?.map (.plain ⟨fresh.video, vm.id⟩ .video ·)).toList

/-- The list with a graphics device for each protocol in use, and with none if there is no
display. -/
def withGraphics (fresh : FreshIds) (vm : VirtualMachine) (devices : List Device) :
    List Device :=
  if vm.displayType = some .none then devices.filter (·.type != .graphics)
  else if vm.graphics.isEmpty then devices
  else
    devices.filter (·.type != .graphics) ++
      vm.graphics.keys.map fun type => .plain ⟨fresh.graphics type, vm.id⟩ .graphics type.name

/-- The list with the payload, if one is given, in place of the stored ones. -/
def withPayload (payload : Option Device) (devices : List Device) : List Device :=
  match payload with
  | none => devices
  | some payload => devices.filter (!·.isPayload) ++ [payload]

/-- The list with a floppy, if the machine has a floppy path and no devices but floppies. -/
def withFloppy (fresh : FreshIds) (vm : VirtualMachine) (devices : List Device) : List Device :=
  if isGiven vm.floppyPath && devices.all (·.subtype == Device.floppySubtype) then
    let floppy := Device.plain ⟨fresh.floppy, vm.id⟩ .disk Device.floppySubtype
    devices ++ [{ floppy with readOnly := true }]
  else devices

/-- The device list of a start: the stored list, adapted if the machine is run once. -/
def devices (fresh : FreshIds) (vm : VirtualMachine) (payload : Option Device)
    (stored : List Device) : List Device :=
  if vm.runOnce then
    withFloppy fresh vm (withPayload payload (withGraphics fresh vm (withVideo fresh vm stored)))
  else stored

end RunOnce

end VmDescriptor
