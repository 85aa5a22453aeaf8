import VmDescriptor.BuildConfig
import VmDescriptor.Descriptor.Parts
import VmDescriptor.Xml.Writer

/-!
The platform of a domain: metadata, firmware tables, clock, features and what is booted.
-/

namespace VmDescriptor.Descriptor

open Text Xml

/-- The namespace of tuning metadata: its short name and its address. -/
def tuneNamespace : String × String := ("ovirt-tune", "http://ovirt.org/vm/tune/1.0")

/-- The namespace of metadata about the machine. -/
def vmNamespace : String × String := ("ovirt-vm", "http://ovirt.org/vm/1.0")

/-- A name in the namespace of metadata about the machine. -/
def vmName (name : String) : String :=
  Writer.qualified vmNamespace.1 name

/-- The attributes of the root element. -/
def rootAttributes : List (String × String) :=
  [("type", "kvm"), (Writer.qualified "xmlns" tuneNamespace.1, tuneNamespace.2),
    (Writer.qualified "xmlns" vmNamespace.1, vmNamespace.2)]

/-- Metadata that are kept for the machine; each custom property is an element. -/
def metadata (vm : VirtualMachine) : Node :=
  .element "metadata" [] [
    .leaf (Writer.qualified tuneNamespace.1 "qos") [],
    .element (vmName "vm") [] [
      .element "minGuaranteedMemoryMb" [("type", "int")]
        [.text (decimal vm.guaranteedMemory.toNat)],
      .withText "clusterVersion" vm.compatibility.text,
      .element (vmName "custom") [] (vm.customProperties.entries.map fun (key, value) =>
        .withText (vmName key) value)]]

/-- The system table of the firmware. Some values are placeholders that the host fills in. -/
def sysinfo (vm : VirtualMachine) : List Node :=
  match vm.arch.family with
  | .ppc => []
  | .x86 =>
    let entry (name value : String) := Node.element "entry" [("name", name)] [.text value]
    [.element "sysinfo" [("type", "smbios")] [
      .element "system" [] [
        entry "manufacturer" "oVirt",
        entry "product" "OS-NAME:",
        entry "version" "OS-VERSION:",
        entry "serial" "HOST-SERIAL:",
        entry "uuid" vm.id.text]]]

/-- The clock and its timers. -/
def clock (vm : VirtualMachine) (config : BuildConfig) : Node :=
  let timer (name key value : String) := Node.leaf "timer" [("name", name), (key, value)]
  let offset := (vm.clockOffset.getD 0).toInt
  .element "clock" [("offset", "variable"), ("adjustment", signedDecimal offset)] <|
    (if config.hyperv then [timer "hypervclock" "present" "yes"] else []) ++
    [timer "rtc" "tickpolicy" "catchup", timer "pit" "tickpolicy" "delay"] ++
    (match vm.arch.family with
      | .x86 => [timer "hpet" "present" "no"]
      | .ppc => [])

/-- What happens when the guest reboots: a volatile run ends. -/
def powerEvents (isVolatile : Bool) : List Node :=
  if isVolatile then [.withText "on_reboot" "destroy"] else []

/-- The features of the hypervisor, on x86. -/
def features (vm : VirtualMachine) (config : BuildConfig) : List Node :=
  if vm.arch.family = .x86 && (vm.acpi || config.hyperv) then
    [.element "features" [] <|
      (if vm.acpi then [Node.leaf "acpi" []] else []) ++
      (if config.hyperv then
        [Node.element "hyperv" [] [
          flag "relaxed" "state" "on",
          flag "vapic" "state" "on",
          .leaf "spinlocks" [("state", "on"), ("retries", "8191")]]]
      else [])]
  else []

/-- How long the boot menu waits, in milliseconds. -/
def bootMenuTimeout : Nat := 10000

/-- What the machine boots, and whether its firmware uses the serial console. -/
def os (vm : VirtualMachine) (config : BuildConfig) (serial : Bool) : Node :=
  let x86 := vm.arch.family = .x86
  let initrd := (nonEmpty vm.initrd).toList.map (.withText "initrd")
  let kernel := match nonEmpty vm.kernel with
    | none => []
    | some kernel =>
      .withText "kernel" kernel ::
        (nonEmpty vm.kernelParameters).toList.map (.withText "cmdline")
  .element "os" [] <|
    [.element "type" [("arch", vm.arch.name), ("machine", config.emulatedMachine)]
      [.text "hvm"]] ++
    initrd ++ kernel ++
    (if x86 then [flag "smbios" "mode" "sysinfo"] else []) ++
    (if vm.bootMenu then
      [Node.leaf "bootmenu" [("enable", "yes"), ("timeout", decimal bootMenuTimeout)]]
    else []) ++
    (if serial && x86 then [flag "bios" "useserial" "yes"] else [])

end VmDescriptor.Descriptor
