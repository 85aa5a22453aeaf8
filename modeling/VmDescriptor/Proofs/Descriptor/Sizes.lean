import VmDescriptor.Proofs.Descriptor.DependentSections
import VmDescriptor.Proofs.Descriptor.Numbers
import VmDescriptor.Proofs.Text.Numeral

/-!
The sizes in a descriptor.

A machine starts with some memory and some vCPUs and may grow to others. What it may grow to goes
by the limits of the engine, which know nothing of what it starts with, so the sizes are in order
only for machines within these limits. The topology always has the vCPUs of the sizes.
-/

namespace VmDescriptor

open Program Text Xml

namespace Descriptor

/-- The memory in KiB and the vCPUs that a machine starts with and may grow to. -/
@[ext] structure Sizes where
  memory : Nat
  maxMemory : Option Nat
  cpus : Nat
  maxCpus : Nat

/-- The sizing elements among some nodes show these sizes. -/
structure ShowsSizes (ns : List Node) (s : Sizes) : Prop where
  memory : ns.filter (·.name = some "memory") = [.withText "memory" (decimal s.memory)]
  maxMemory : (ns.filter (·.name = some "maxMemory")).map (·.children) =
    s.maxMemory.toList.map fun n => [.text (decimal n)]
  cpus : ns.filter (·.name = some "vcpu") =
    [.element "vcpu" [("current", decimal s.cpus)] [.text (decimal s.maxCpus)]]

/-- The sizes of a machine. -/
def sizes (vm : VirtualMachine) (config : BuildConfig) : Sizes where
  memory := memoryKib vm
  maxMemory :=
    if config.hotPlugMemory ∧ vm.memory ≠ vm.maxMemory then some (vm.maxMemory.toNat * 1024)
    else none
  cpus := vm.cpus
  maxCpus := config.mostSockets vm * vm.cpusPerSocket

/-- The sizes are in order where the limits allow it. What a machine may grow to is never less
than what it starts with if its vCPUs are within the limits of the engine and its greatest memory
is not below its memory. -/
structure SizesInOrder (vm : VirtualMachine) (config : BuildConfig) (s : Sizes) : Prop where
  cpus_eq : config.hotPlugCpu = false → s.cpus = s.maxCpus
  cpus_le_iff : s.cpus ≤ s.maxCpus ↔
    (config.hotPlugCpu → vm.cpusPerSocket = 0 ∨
      vm.sockets ≤ config.settings.maxSockets ∧ vm.cpus ≤ config.settings.maxCpus.toNat)
  maxMemory_isSome : s.maxMemory.isSome ↔ config.hotPlugMemory ∧ vm.memory ≠ vm.maxMemory
  lt_maxMemory_iff : ∀ n ∈ s.maxMemory, n ≠ s.memory ∧ (s.memory < n ↔ vm.memory < vm.maxMemory)

/-- The vCPUs that a machine may grow to are those of its topology. With sockets to plug in they
are the most within both limits. -/
structure CpusAgree (vm : VirtualMachine) (config : BuildConfig) (topology : List Node)
    (s : Sizes) : Prop where
  topology : if config.settings.sendSmp then
      ∃ sockets, topology = [.leaf "topology" [("cores", decimal vm.coresPerSocket.toNat),
        ("threads", decimal vm.threadsPerCore.toNat), ("sockets", decimal sockets)]] ∧
      vm.coresPerSocket.toNat * vm.threadsPerCore.toNat * sockets = s.maxCpus
    else topology = []
  greatest : config.hotPlugCpu → 0 < vm.cpusPerSocket →
    IsGreatest (config.reachableCpus vm) s.maxCpus
  /-- With greater limits they are as many or more. -/
  mono : ∀ config' : BuildConfig, config.hotPlugCpu → config'.hotPlugCpu →
    config.settings.maxSockets ≤ config'.settings.maxSockets →
    config.settings.maxCpus ≤ config'.settings.maxCpus →
    ∃ ns, sizing vm config' = pure ns ∧ ∀ s', ShowsSizes ns s' → s.maxCpus ≤ s'.maxCpus

/-! ### Sizes that are shown -/

/-- No two sizes are shown alike. -/
lemma ShowsSizes.unique {ns : List Node} {s s' : Sizes} (h : ShowsSizes ns s)
    (h' : ShowsSizes ns s') : s = s' := by
  have hdecimal {m n : Nat} : decimal m = decimal n ↔ m = n := ⟨decimal_injective, congrArg _⟩
  have hmemory : s.memory = s'.memory := by
    simpa [Node.withText, hdecimal] using h.memory.symm.trans h'.memory
  have hmaxMemory : s.maxMemory = s'.maxMemory := by
    have hinjective : Function.Injective fun n => [Node.text (decimal n)] := fun m n hmn => by
      simpa [hdecimal] using hmn
    have htoList := List.map_injective_iff.mpr hinjective (h.maxMemory.symm.trans h'.maxMemory)
    simpa using congrArg List.head? htoList
  have hcpus : s.cpus = s'.cpus ∧ s.maxCpus = s'.maxCpus := by
    simpa [hdecimal] using h.cpus.symm.trans h'.cpus
  exact Sizes.ext hmemory hmaxMemory hcpus.1 hcpus.2

/-- Elements with one of some names are found by it among those with any of them. -/
lemma filter_name_filter {names : List String} {name : String} (hname : name ∈ names)
    (ns : List Node) :
    (ns.filter (·.name.any (· ∈ names))).filter (·.name = some name) =
      ns.filter (·.name = some name) := by
  rw [List.filter_filter]
  refine List.filter_congr fun n _ => ?_
  by_cases hn : n.name = some name <;> simp [hn, hname]

section

variable {vm : VirtualMachine} {config : BuildConfig}

/-- Nodes with the sizing elements of a machine show its sizes. -/
lemma showsSizes {ns : List Node}
    (h : ns.filter (·.name.any (· ∈ sizeNames)) = sizeNodes vm config) :
    ShowsSizes ns (sizes vm config) := by
  have hfilter {name : String} (hname : name ∈ sizeNames) :
      ns.filter (·.name = some name) = (sizeNodes vm config).filter (·.name = some name) := by
    rw [← h, filter_name_filter hname]
  refine ⟨?_, ?_, ?_⟩
  · rw [hfilter (by decide)]
    by_cases hwritten : config.hotPlugMemory ∧ vm.memory ≠ vm.maxMemory <;>
      simp [sizeNodes, hwritten, Node.name, Node.withText, sizes, memoryKib]
  · rw [hfilter (by decide)]
    by_cases hwritten : config.hotPlugMemory ∧ vm.memory ≠ vm.maxMemory <;>
      simp [sizeNodes, hwritten, Node.name, Node.withText, Node.children, sizes]
  · rw [hfilter (by decide)]
    by_cases hwritten : config.hotPlugMemory ∧ vm.memory ≠ vm.maxMemory <;>
      simp [sizeNodes, hwritten, Node.name, Node.withText, sizes]

/-- A sizing section without overflow shows the sizes of the machine. -/
lemma exists_showsSizes (hcpus : vm.cpuCount? ≠ none) (hmaxCpus : config.maxCpuCount? vm ≠ none) :
    ∃ ns, sizing vm config = pure ns ∧ ShowsSizes ns (sizes vm config) := by
  obtain ⟨current, hcurrent⟩ := Option.ne_none_iff_exists'.mp hcpus
  obtain ⟨greatest, hgreatest⟩ := Option.ne_none_iff_exists'.mp hmaxCpus
  have hpure : ∃ ns, sizing vm config = pure ns := by
    rw [sizing, hcurrent, hgreatest]
    exact ⟨_, rfl⟩
  obtain ⟨ns, hns⟩ := hpure
  have hreturn : (sizing vm config).MayReturn (fun _ _ => False) ns := hns ▸ mayEnd_pure.mpr rfl
  exact ⟨ns, hns, showsSizes (filter_sizing hreturn)⟩

lemma topology_eq_pure (hmaxCpus : config.maxCpuCount? vm ≠ none) :
    topology vm config = pure (topologyNodes vm config) := by
  obtain ⟨greatest, hgreatest⟩ := Option.ne_none_iff_exists'.mp hmaxCpus
  have hpure : ∃ ns, topology vm config = pure ns := by
    rw [topology, hgreatest]
    split
    · exact ⟨_, rfl⟩
    · exact ⟨_, rfl⟩
  obtain ⟨ns, hns⟩ := hpure
  have hreturn : (topology vm config).MayReturn (fun _ _ => False) ns :=
    hns ▸ mayEnd_pure.mpr rfl
  rw [hns, mayReturn_topology hreturn]

lemma sizesInOrder : SizesInOrder vm config (sizes vm config) where
  cpus_eq := BuildConfig.cpus_eq_mostSockets
  cpus_le_iff := BuildConfig.cpus_le_iff
  maxMemory_isSome := by
    unfold sizes
    split <;> simp [*]
  lt_maxMemory_iff := by
    intro n hn
    obtain ⟨⟨-, hne⟩, hn⟩ := Option.ite_none_right_eq_some.mp hn
    cases hn
    rw [ne_eq, ← UInt32.toNat_inj] at hne
    rw [UInt32.lt_iff_toNat_lt]
    unfold sizes memoryKib
    dsimp only
    omega

lemma cpusAgree (hcpus : vm.cpuCount? ≠ none) (hmaxCpus : config.maxCpuCount? vm ≠ none) :
    CpusAgree vm config (topologyNodes vm config) (sizes vm config) where
  topology := by
    unfold topologyNodes
    split
    · exact ⟨config.mostSockets vm, rfl, Nat.mul_comm _ _⟩
    · rfl
  greatest := BuildConfig.isGreatest_mostSockets
  mono := by
    intro config' hplug hplug' hsockets hlimit
    have hmaxCpus' : config'.maxCpuCount? vm ≠ none :=
      mt (BuildConfig.maxCpuCount?_eq_none_congr (hplug.trans hplug'.symm)).mpr hmaxCpus
    obtain ⟨ns, hns, hshows⟩ := exists_showsSizes hcpus hmaxCpus'
    refine ⟨ns, hns, fun s' hs' => ?_⟩
    rw [hs'.unique hshows]
    exact BuildConfig.mostSockets_mono hplug hplug' hsockets hlimit

end

end Descriptor

namespace Request

open Descriptor

variable {fresh : FreshIds} {req : Request} {config : EngineConfig} {stores : Stores}

/-- The numbers of vCPUs of a build that does not overflow fit their width. -/
lemma cpuCounts_ne_none (h : (req.build fresh config stores).result ≠ .error .overflow) :
    req.vm.cpuCount? ≠ none ∧ (BuildConfig.resolve config req.vm).maxCpuCount? req.vm ≠ none := by
  have hoverflow (hsizing : sizing req.vm (.resolve config req.vm) = .fail .overflow) : False := by
    refine h (build_error_iff.mpr ?_)
    rw [root, domain, hsizing]
    rfl
  constructor
  · intro hnone
    exact hoverflow (by rw [sizing, hnone]; rfl)
  · intro hnone
    refine hoverflow ?_
    rw [sizing, hnone]
    cases req.vm.cpuCount? <;> rfl

/-- The sizes and the topology of a root are those of the machine. -/
lemma sizes_of_root {root : Node} (h : req.root fresh config stores = .ok root) :
    ShowsSizes root.children (sizes req.vm (.resolve config req.vm)) ∧
      root.under "cpu" "topology" = topologyNodes req.vm (.resolve config req.vm) := by
  have hshape := wellShaped_of_mayReturn (mayReturn_root h)
  obtain ⟨stored, -, sizingNodes, hsizing, cpuNode, hcpu, ns, -, rfl⟩ := exists_stored h
  refine ⟨showsSizes (childrenIn_sections hsizing hcpu), ?_⟩
  have htopology : (topologyNodes req.vm (.resolve config req.vm)).filter
      (·.name = some "topology") = topologyNodes req.vm (.resolve config req.vm) := by
    unfold topologyNodes
    split <;> rfl
  have hnuma : (numaNodes req.params).filter (·.name = some "topology") = [] := by
    unfold numaNodes
    cases req.params.numaNodes <;> rfl
  have hchildren : cpuNode.childrenNamed "topology" =
      (childrenIn ["topology", "numa"] cpuNode).filter (·.name = some "topology") :=
    (filter_name_filter (by decide) _).symm
  rw [hshape.under_eq (by simp [Node.children, sections]) (name_cpu hcpu), hchildren,
    childrenIn_cpu hcpu, List.filter_append, htopology, hnuma, List.append_nil]

/-- A build shows these sizes and this topology, in the sections that it writes before it looks
anything up and in its document, if it gets to one. -/
structure ShowsResources (fresh : FreshIds) (req : Request) (config : EngineConfig)
    (stores : Stores) (s : Sizes) (topology : List Node) : Prop where
  sizingSection : ∃ ns, sizing req.vm (.resolve config req.vm) = pure ns ∧ ShowsSizes ns s
  topologySection : Descriptor.topology req.vm (.resolve config req.vm) = pure topology
  document : ∀ text, (req.build fresh config stores).result = .ok text →
    ∃ root, req.root fresh config stores = .ok root ∧ root.document = .ok text ∧
      ShowsSizes root.children s ∧ root.under "cpu" "topology" = topology

lemma showsResources (h : (req.build fresh config stores).result ≠ .error .overflow) :
    ShowsResources fresh req config stores (sizes req.vm (.resolve config req.vm))
      (topologyNodes req.vm (.resolve config req.vm)) where
  sizingSection := exists_showsSizes (cpuCounts_ne_none h).1 (cpuCounts_ne_none h).2
  topologySection := topology_eq_pure (cpuCounts_ne_none h).2
  document := by
    intro text htext
    obtain ⟨root, hroot, hdocument⟩ := build_ok_iff.mp htext
    exact ⟨root, hroot, hdocument, sizes_of_root hroot⟩

end Request

/-! ### Builds -/

/-- An engine that plugs in memory and CPUs, with limits on sockets and vCPUs. -/
def EngineConfig.hotPlug (maxSockets maxCpus : UInt32) : EngineConfig :=
  { empty with
    settings := { EngineSettings.standard with maxSockets, maxCpus }
    features := [⟨.hotPlugMemory, [], []⟩, ⟨.hotPlugCpu, [], []⟩] }

/-- A machine with two sockets of three cores with two threads each, which may grow to 1 GiB. -/
def Fixture.withSockets (memory : UInt32) : Fixture :=
  plain { plainMachine none [] [] with
    memory, sockets := 2, coresPerSocket := 3, threadsPerCore := 2 } []

section

open Descriptor Request

variable {fresh : FreshIds} {req : Request} {config : EngineConfig} {stores : Stores}

/-- **Sizes are in order within the limits**: unless a product does not fit its width, a build
shows as many vCPUs to grow to as to start with or more just if the machine is within the limits
of the engine, and more memory to grow to just if the machine's greatest memory is the greater. -/
theorem Request.build_sizesInOrder
    (h : (req.build fresh config stores).result ≠ .error .overflow) :
    ∃ s topology, ShowsResources fresh req config stores s topology ∧
      SizesInOrder req.vm (.resolve config req.vm) s :=
  ⟨_, _, showsResources h, sizesInOrder⟩

/-- Half a GiB and twelve vCPUs are within the limits and may grow. -/
theorem Fixture.build_sizesInOrder_withSockets :
    ∃ s topology, ShowsResources (.constant default) (withSockets 512).request (.hotPlug 16 20)
        (.ofInventory (withSockets 512).inventory) s topology ∧
      s.cpus ≤ s.maxCpus ∧ ∃ n ∈ s.maxMemory, s.memory < n := by
  have hoverflow : ((withSockets 512).build (.constant default) (.hotPlug 16 20)).result ≠
      .error .overflow := by decide +kernel
  obtain ⟨s, topology, hshows, hs⟩ := Request.build_sizesInOrder hoverflow
  obtain ⟨n, hn⟩ := Option.isSome_iff_exists.mp (hs.maxMemory_isSome.mpr (by decide +kernel))
  refine ⟨s, topology, hshows, hs.cpus_le_iff.mpr fun _ => .inr (by decide +kernel), n, hn, ?_⟩
  exact (hs.lt_maxMemory_iff n hn).2.mpr (by decide +kernel)

/-- On an engine with a single socket and less memory than it starts with, a machine has fewer
vCPUs and less memory to grow to. -/
theorem Fixture.build_sizes_outOfOrder :
    ∃ text root s,
      ((withSockets 2048).build (.constant default) (.hotPlug 1 20)).result = .ok text ∧
      (withSockets 2048).root (.constant default) (.hotPlug 1 20) = .ok root ∧
      root.document = .ok text ∧ ShowsSizes root.children s ∧
      ¬ s.cpus ≤ s.maxCpus ∧ ¬ ∀ n ∈ s.maxMemory, s.memory < n := by
  obtain ⟨text, h⟩ := Program.exists_ok
    (r := ((withSockets 2048).build (.constant default) (.hotPlug 1 20)).result)
    (by decide +kernel)
  obtain ⟨root, hroot, hdocument⟩ := Request.build_ok_iff.mp h
  refine ⟨text, root, _, h, hroot, hdocument, (sizes_of_root hroot).1, ?_, ?_⟩
  · decide +kernel
  · decide +kernel

/-- **The topology has the vCPUs of the sizes**: unless a product does not fit its width, a build
shows a topology with just the vCPUs that the machine may grow to, and with sockets to plug in
these are the most within the limits of the engine. -/
theorem Request.build_cpusAgree (h : (req.build fresh config stores).result ≠ .error .overflow) :
    ∃ s topology, ShowsResources fresh req config stores s topology ∧
      CpusAgree req.vm (.resolve config req.vm) topology s :=
  ⟨_, _, showsResources h, cpusAgree (cpuCounts_ne_none h).1 (cpuCounts_ne_none h).2⟩

/-- Three sockets of six vCPUs are the most within twenty. -/
theorem Fixture.build_cpusAgree_withSockets :
    ∃ s topology, ShowsResources (.constant default) (withSockets 512).request (.hotPlug 16 20)
        (.ofInventory (withSockets 512).inventory) s topology ∧ s.maxCpus = 18 ∧
      topology = [.leaf "topology" [("cores", "3"), ("threads", "2"), ("sockets", "3")]] := by
  have hoverflow : ((withSockets 512).build (.constant default) (.hotPlug 16 20)).result ≠
      .error .overflow := by decide +kernel
  have hplug : (BuildConfig.resolve (.hotPlug 16 20) (withSockets 512).vm).hotPlugCpu := by
    decide +kernel
  have hpos : 0 < (withSockets 512).vm.cpusPerSocket := by decide +kernel
  obtain ⟨s, topology, hshows, hs⟩ := Request.build_cpusAgree hoverflow
  have hmaxCpus : s.maxCpus = 18 :=
    (hs.greatest hplug hpos).unique (BuildConfig.isGreatest_mostSockets hplug hpos)
  obtain ⟨sockets, htopology, hproduct⟩ := hs.topology
  obtain rfl : sockets = 3 := by
    change 3 * 2 * sockets = s.maxCpus at hproduct
    omega
  exact ⟨s, topology, hshows, hmaxCpus, htopology⟩

end

end VmDescriptor
