import VmDescriptor.Codec.Record

/-!
What is negotiated with the host before a machine starts there: the CPU model, the pinning of
vCPUs and the NUMA topology.
-/

namespace VmDescriptor

/-- A NUMA node of the guest. -/
structure NumaNode where
  cpus : String
  /-- The memory of the node in MiB. -/
  memory : UInt64
  deriving DecidableEq

namespace NumaNode

def codec : Codec NumaNode := .record <|
  NumaNode.mk
    <$> .required "cpus" cpus .string
    <*> .required "memory_mb" memory .uint64

end NumaNode

/-- The host nodes that back the memory of one cell of the guest. -/
structure MemoryNode where
  cell : UInt32
  nodeset : String
  deriving DecidableEq

namespace MemoryNode

def codec : Codec MemoryNode := .record <|
  MemoryNode.mk
    <$> .required "cell_id" cell .uint32
    <*> .required "nodeset" nodeset .string

end MemoryNode

/-- The host nodes that back the memory of the guest. -/
structure NumaTune where
  mode : String
  nodeset : Option String
  memoryNodes : Option (List MemoryNode)
  deriving DecidableEq

namespace NumaTune

def codec : Codec NumaTune := .record <|
  NumaTune.mk
    <$> .required "mode" mode .string
    <*> .optional "nodeset" nodeset .string
    <*> .optional "memnodes" memoryNodes (.list MemoryNode.codec)

end NumaTune

/-- The host CPUs of each pinned vCPU, by the number of the vCPU. -/
abbrev CpuPinning := SortedMap UInt32 String

namespace CpuPinning

/-- Reads the number of a vCPU: its decimal digits without leading zeros, in 32 bits, and none
of them escaped. -/
def parseKey (name : Json.Name) : Except DecodeError UInt32 :=
  match Text.digits? name.text.toList with
  | some n =>
    if n < UInt32.size ∧ name = ⟨Text.decimal n, .plain⟩ then .ok (.ofNat n)
    else .error .unusable
  | none => .error .unusable

def codec : Codec CpuPinning := .map (fun n => Text.decimal n.toNat) parseKey .string

end CpuPinning

/-- The parameters negotiated with the host of a start. -/
structure CreateParams where
  /-- The name of a CPU model, or `hostPassthrough` or `hostModel`. -/
  cpuType : String
  cpuPinning : Option CpuPinning
  numaNodes : Option (List NumaNode)
  numaTune : Option NumaTune

namespace CreateParams

/-- No CPU model and nothing else. -/
def none : CreateParams := ⟨"", .none, .none, .none⟩

def codec : Codec CreateParams := .record <|
  CreateParams.mk
    <$> .required "cpu_type" cpuType .string
    <*> .optional "cpu_pinning" cpuPinning CpuPinning.codec
    <*> .optional "numa_nodes" numaNodes (.list NumaNode.codec)
    <*> .optional "numa_tune" numaTune NumaTune.codec

end CreateParams

end VmDescriptor
