import VmDescriptor.Codec.Choice
import VmDescriptor.Machine
import VmDescriptor.Version

/-!
The configuration of the engine that starts the machines.

Every table may be missing: the empty configuration enables no feature that depends on the
version and gives each operating system the usual CD-ROM buses.
-/

namespace VmDescriptor

/-- The settings of the engine. -/
structure EngineSettings where
  maxMemorySlots : UInt32
  /-- Whether the CPU topology is part of a descriptor. -/
  sendSmp : Bool
  sslEnabled : Bool
  vncKeyboard : String
  maxSockets : UInt32
  maxCpus : UInt32
  spiceSecureChannels : List String
  deriving DecidableEq

namespace EngineSettings

/-- The settings that hold where the configuration says nothing. -/
def standard : EngineSettings where
  maxMemorySlots := 16
  sendSmp := true
  sslEnabled := true
  vncKeyboard := "en-us"
  maxSockets := 16
  maxCpus := 240
  spiceSecureChannels :=
    ["smain", "sinputs", "scursor", "splayback", "srecord", "sdisplay", "ssmartcard",
      "susbredir"]

def codec : Codec EngineSettings := .record <|
  EngineSettings.mk
    <$> .withDefault "max_memory_slots" maxMemorySlots .uint32 standard.maxMemorySlots
    <*> .withDefault "send_smp_on_run_vm" sendSmp .boolean standard.sendSmp
    <*> .withDefault "ssl_enabled" sslEnabled .boolean standard.sslEnabled
    <*> .withDefault "vnc_keyboard_layout" vncKeyboard .string standard.vncKeyboard
    <*> .withDefault "max_num_of_vm_sockets" maxSockets .uint32 standard.maxSockets
    <*> .withDefault "max_num_of_vm_cpus" maxCpus .uint32 standard.maxCpus
    <*> .withDefault "spice_secure_channels" spiceSecureChannels (.list .string)
      standard.spiceSecureChannels

end EngineSettings

/-- A feature that depends on the compatibility version. -/
inductive Feature where
  | hotPlugMemory
  | hotPlugCpu
  | passDiscard
  deriving DecidableEq, Repr

namespace Feature

def all : List Feature := [.hotPlugMemory, .hotPlugCpu, .passDiscard]

def name : Feature → String
  | .hotPlugMemory => "hot_plug_memory"
  | .hotPlugCpu => "hot_plug_cpu"
  | .passDiscard => "pass_discard"

def codec : Codec Feature := .enumeration all name none

end Feature

/-- Where a feature is supported; an empty list stands for every version or architecture. -/
structure FeatureSupport where
  feature : Feature
  versions : List Version
  architectures : List Architecture
  deriving DecidableEq

namespace FeatureSupport

def codec : Codec FeatureSupport := .record <|
  FeatureSupport.mk
    <$> .required "name" feature Feature.codec
    <*> .withDefault "versions" versions (.list Version.codec) []
    <*> .withDefault "arches" architectures (.list Architecture.codec) []

/-- Whether a version and architecture are among those listed. -/
def covers (row : FeatureSupport) (version : Version) (arch : Architecture) : Bool :=
  (row.versions.isEmpty || version ∈ row.versions) &&
    (row.architectures.isEmpty || arch ∈ row.architectures)

end FeatureSupport

/-- A guest operating system. -/
structure OsInfo where
  id : UInt32
  name : String
  hyperv : Bool
  /-- The version from which on Hyper-V is enabled. -/
  hypervMinVersion : Option Version
  cdInterface : CdInterface
  cdInterfaceQ35 : CdInterface
  deriving DecidableEq

/-- The CD-ROM bus of an operating system that says nothing about it. -/
def CdInterface.usual : Chipset → CdInterface
  | .i440fx => .ide
  | .q35 => .sata

namespace OsInfo

def codec : Codec OsInfo := .record <|
  OsInfo.mk
    <$> .required "id" id .uint32
    <*> .withDefault "name" name .string ""
    <*> .withDefault "hyperv" hyperv .boolean false
    <*> .optional "hyperv_min_version" hypervMinVersion Version.codec
    <*> .withDefault "cd_interface" cdInterface CdInterface.codec (.usual .i440fx)
    <*> .withDefault "cd_interface_q35" cdInterfaceQ35 CdInterface.codec (.usual .q35)

end OsInfo

/-- The configuration of the engine. -/
structure EngineConfig where
  settings : EngineSettings
  features : List FeatureSupport
  systems : List OsInfo
  /-- The default machine type of each architecture, by its name. -/
  emulatedMachines : SortedMap String String
  /-- The SPICE channels to secure, by compatibility version. -/
  spiceSecureChannels : SortedMap String (List String)
  deriving DecidableEq

namespace EngineConfig

/-- The configuration of an empty text. -/
def empty : EngineConfig := ⟨.standard, [], [], .empty, .empty⟩

instance : Inhabited EngineConfig := ⟨empty⟩

def codec : Codec EngineConfig := .record <|
  EngineConfig.mk
    <$> .withDefault "engine" settings EngineSettings.codec .standard
    <*> .withDefault "feature" features (.list FeatureSupport.codec) []
    <*> .withDefault "os" systems (.list OsInfo.codec) []
    <*> .withDefault "emulated_machine" emulatedMachines (.dictionary .string) .empty
    <*> .withDefault "spice_secure_channels" spiceSecureChannels
      (.dictionary (.list .string)) .empty

/-- Whether a feature is supported by some row of the table. -/
def supports (config : EngineConfig) (feature : Feature) (version : Version)
    (arch : Architecture) : Bool :=
  config.features.any fun row => row.feature = feature && row.covers version arch

/-- The operating system with a number: the first one listed. -/
def os? (config : EngineConfig) (os : UInt32) : Option OsInfo :=
  config.systems.find? (·.id = os)

/-- Whether Hyper-V is enabled for an operating system. -/
def hypervEnabled (config : EngineConfig) (os : UInt32) (version : Version) : Bool :=
  (config.os? os).any fun info => info.hyperv && info.hypervMinVersion.all version.atLeast

/-- The CD-ROM bus for an operating system on a chipset. -/
def cdInterface (config : EngineConfig) (os : UInt32) (chipset : Chipset) : CdInterface :=
  match config.os? os, chipset with
  | some info, .i440fx => info.cdInterface
  | some info, .q35 => info.cdInterfaceQ35
  | none, chipset => .usual chipset

/-- The default machine type of an architecture. -/
def defaultMachine (config : EngineConfig) (arch : Architecture) : String :=
  match config.emulatedMachines.get? arch.name with
  | some machine => machine
  | none =>
    match arch with
    | .x86_64 => "pc-i440fx-rhel7.3.0"
    | .ppc64 | .ppc64le => "pseries-rhel7.3.0"

/-- The SPICE channels to secure for a compatibility version. -/
def secureChannels (config : EngineConfig) (version : Version) : List String :=
  (config.spiceSecureChannels.get? version.text).getD config.settings.spiceSecureChannels

end EngineConfig

end VmDescriptor
