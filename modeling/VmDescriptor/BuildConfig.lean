import VmDescriptor.EngineConfig
import VmDescriptor.VirtualMachine

/-!
What a build needs to know about the engine, resolved for one machine.
-/

namespace VmDescriptor

/-- The configuration of one build. -/
structure BuildConfig where
  hotPlugMemory : Bool
  hotPlugCpu : Bool
  passDiscard : Bool
  hyperv : Bool
  /-- The chipset of the machine type that the machine names, if it names one. -/
  chipset : Chipset
  cdInterface : CdInterface
  /-- The machine type that the machine names, or the default of its architecture. -/
  emulatedMachine : String
  /-- The settings of the engine, with the channels to secure for the machine's version. -/
  settings : EngineSettings
  deriving DecidableEq

namespace BuildConfig

/-- Resolves the configuration for a machine. -/
def resolve (config : EngineConfig) (vm : VirtualMachine) : BuildConfig :=
  let version := vm.compatibility
  let supports := (config.supports · version vm.arch)
  let chipset := Chipset.ofMachine vm.emulatedMachine
  { hotPlugMemory := supports .hotPlugMemory
    hotPlugCpu := supports .hotPlugCpu
    passDiscard := supports .passDiscard
    hyperv := config.hypervEnabled vm.os version
    chipset := chipset
    cdInterface := config.cdInterface vm.os chipset
    emulatedMachine := vm.emulatedMachine.getD (config.defaultMachine vm.arch)
    settings :=
      { config.settings with spiceSecureChannels := config.secureChannels version } }

/-- The number of vCPUs that the machine may grow to, if it fits 32 bits. -/
def maxCpuCount? (config : BuildConfig) (vm : VirtualMachine) : Option Nat :=
  if config.hotPlugCpu then
    vm.maxCpuCount? config.settings.maxSockets.toNat config.settings.maxCpus.toNat
  else vm.cpuCount?

end BuildConfig

end VmDescriptor
