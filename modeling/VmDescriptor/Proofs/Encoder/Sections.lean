import VmDescriptor.Encoder.Sections
import VmDescriptor.Proofs.Encoder.Basic

/-!
What the encoders of sections write: the sections of a descriptor, one by one.
-/

namespace VmDescriptor.Encoder

open Program Text Xml

/-- The start of the root leaves it open, with its attributes. -/
lemma run_startDomain :
    startDomain.run .empty =
      pure ((), Draft.opened ⟨Writer.empty.declaration, [.declaration]⟩ "domain"
        Descriptor.rootAttributes) := by
  have hdeclaration : declaration.run .empty =
      pure ((), ⟨Writer.empty.declaration, [.declaration]⟩) := rfl
  simp [startDomain, declareNamespace, hdeclaration, Descriptor.rootAttributes]

/-! ### Resources -/

section

variable (vm : VirtualMachine) (config : BuildConfig) (params : CreateParams)

lemma writes_maxMemory : Writes (maxMemory vm config)
    [.element "maxMemory" [("slots", decimal config.settings.maxMemorySlots.toNat)]
      [.text (decimal (vm.maxMemory.toNat * 1024))]] := by
  intro d
  simp [maxMemory]

lemma encodes_sizing : Encodes (sizing vm config) (Descriptor.sizing vm config) := by
  intro d
  simp [sizing, Descriptor.sizing, writes_when (writes_maxMemory vm config), ite_not]

/-- The CPU model is written in an element without content: attributes first, then the name. -/
lemma run_cpuModel (d : Draft) (name : String) :
    (cpuModel vm params).run (d.opened name []) =
      pure ((), (d.opened name (Descriptor.cpuModel vm params).1).add
        (Descriptor.cpuModel vm params).2) := by
  unfold cpuModel Descriptor.cpuModel
  cases vm.arch.family with
  | x86 =>
    by_cases hpassthrough : params.cpuType = "hostPassthrough"
    · simp [hpassthrough]
    · by_cases hmodel : params.cpuType = "hostModel"
      · simp [hmodel]
      · simp [hpassthrough, hmodel]
  | ppc => simp

lemma encodes_topology :
    Encodes (when config.settings.sendSmp (topology vm config))
      (Descriptor.topology vm config) := by
  intro d
  unfold when Descriptor.topology
  split
  · simp [topology]
  · simp

lemma encodes_numaCell (node : NumaNode) :
    Encodes (numaCell node) (do return [← Descriptor.numaCell node]) := by
  intro d
  simp [numaCell, Descriptor.numaCell, Node.leaf]

lemma encodes_numa : Encodes (whenSome params.numaNodes numa) (Descriptor.numa params) := by
  intro d
  unfold Descriptor.numa
  cases params.numaNodes with
  | none => rfl
  | some nodes =>
    have hcells := encodes_each_single encodes_numaCell nodes
    simp [numa, hcells]

lemma encodes_cpu :
    Encodes (cpu vm config params) (do return [← Descriptor.cpu vm config params]) := by
  intro d
  simp [cpu, Descriptor.cpu, run_cpuModel, encodes_topology, encodes_numa]

lemma writes_pin (vcpu : Nat) (cpus : String) :
    Writes (pin vcpu cpus) [.leaf "vcpupin" [("vcpu", decimal vcpu), ("cpuset", cpus)]] := by
  intro d
  simp [pin, Node.leaf]

lemma writes_cpuTune : Writes (cpuTune params) (Descriptor.cpuTune params) := by
  intro d
  unfold cpuTune Descriptor.cpuTune
  cases params.cpuPinning with
  | none => rfl
  | some pinning =>
    have hpins := writes_each (fun e : UInt32 × String => writes_pin e.1.toNat e.2) pinning.entries
    simp [hpins]

lemma writes_memoryNode (tune : NumaTune) (node : MemoryNode) :
    Writes (memoryNode tune node) [.leaf "memnode" [("mode", tune.mode),
      ("cellid", decimal node.cell.toNat), ("nodeset", node.nodeset)]] := by
  intro d
  simp [memoryNode, Node.leaf]

lemma writes_numaTune : Writes (numaTune params) (Descriptor.numaTune params) := by
  intro d
  unfold numaTune Descriptor.numaTune
  cases params.numaTune with
  | none => rfl
  | some tune =>
    have hnodes := writes_each (writes_memoryNode tune) (tune.memoryNodes.getD [])
    rw [whenSome_some]
    unfold when
    by_cases h : tune.nodeset.isSome ∨ tune.memoryNodes.isSome
    · have hgiven : (tune.nodeset.isNone && tune.memoryNodes.isNone) = false := by
        rcases h with h | h <;> simp [Option.isNone_eq_false_iff.mpr h]
      simp [h, hgiven, hnodes]
    · have hnone : (tune.nodeset.isNone && tune.memoryNodes.isNone) = true := by simpa using h
      simp only [if_neg h, if_pos hnone]
      rfl

end

/-! ### Platform -/

section

variable (vm : VirtualMachine) (config : BuildConfig)

lemma writes_metadata : Writes (metadata vm) [Descriptor.metadata vm] := by
  intro d
  have hproperties := writes_each (fun e : String × String =>
    writes_withText (Writer.qualified Descriptor.vmNamespace.1 e.1) e.2)
    vm.customProperties.entries
  simp [metadata, Descriptor.metadata, hproperties, Descriptor.vmName, Node.leaf, Node.withText]

lemma writes_entry (name value : String) :
    Writes (entry name value) [.element "entry" [("name", name)] [.text value]] := by
  intro d
  simp [entry]

lemma writes_sysinfo : Writes (sysinfo vm) (Descriptor.sysinfo vm) := by
  intro d
  unfold sysinfo Descriptor.sysinfo
  cases vm.arch.family with
  | x86 => simp [when, writes_entry]
  | ppc => rfl

lemma writes_clock : Writes (clock vm config) [Descriptor.clock vm config] := by
  intro d
  unfold clock Descriptor.clock
  cases vm.arch.family with
  | x86 => simp
  | ppc => simp

lemma writes_powerEvents (isVolatile : Bool) :
    Writes (powerEvents isVolatile) (Descriptor.powerEvents isVolatile) :=
  writes_when_withText "on_reboot" "destroy"

lemma writes_hyperv : Writes hyperv [.element "hyperv" []
    [.leaf "relaxed" [("state", "on")], .leaf "vapic" [("state", "on")],
      .leaf "spinlocks" [("state", "on"), ("retries", "8191")]]] := by
  intro d
  simp [hyperv]

lemma writes_features : Writes (features vm config) (Descriptor.features vm config) := by
  refine writes_when fun d => ?_
  simp [writes_when writes_hyperv, Descriptor.flag]

lemma writes_os (serial : Bool) :
    Writes (os vm config serial) [Descriptor.os vm config serial] := by
  intro d
  unfold os Descriptor.os
  cases Descriptor.nonEmpty vm.kernel with
  | none => simp [Descriptor.flag]
  | some kernel => simp [Descriptor.flag]

end

end VmDescriptor.Encoder
