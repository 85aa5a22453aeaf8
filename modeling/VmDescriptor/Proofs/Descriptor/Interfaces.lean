import VmDescriptor.Proofs.Descriptor.DependentSections
import VmDescriptor.Proofs.Descriptor.Notices
import VmDescriptor.Proofs.Exchanges

/-!
Interfaces and what stands behind them.

An interface device is joined to its NIC, and the NIC step by step to its profile and to the
network and the filter of that; each step may find nothing. What is missing is missing in the
element, and each thing that is missing is reported by its own notice.
-/

namespace VmDescriptor

open Program Xml

/-- The notice is about the NIC of an interface device or about what stands behind it. -/
def Notice.isAboutNic : Notice → Bool
  | .interfaceWithoutNic _ | .missingProfile .. | .missingNetwork .. | .invalidVhost .. => true
  | _ => false

namespace Descriptor

/-! ### Steps behind a NIC -/

/-- The filter of a profile with the NIC's parameters, after these exchanges. -/
inductive Filters (nic : Nic) (profile : VnicProfile) :
    List Exchange → Option (NetworkFilter × List FilterParameter) → Prop
  | unnamed (h : profile.filter = none) : Filters nic profile [] none
  | missing {id : Uuid} (h : profile.filter = some id) :
    Filters nic profile [⟨.networkFilter id, none⟩] none
  | found {id : Uuid} {filter : NetworkFilter} {parameters : List FilterParameter}
    (h : profile.filter = some id) :
    Filters nic profile
      [⟨.networkFilter id, some filter⟩, ⟨.filterParameters nic.id, parameters⟩]
      (some (filter, parameters))

/-- What stands behind a NIC, after these exchanges and notices. -/
inductive Backs (nic : Nic) : List Exchange → List Notice → Option NicBacking → Prop
  | unnamed (h : nic.profile = none) : Backs nic [] [] none
  | missing {id : Uuid} (h : nic.profile = some id) :
    Backs nic [⟨.vnicProfile id, none⟩] [.missingProfile nic.id id] none
  | found {id : Uuid} {profile : VnicProfile} {network : Option Network}
    {filter : Option (NetworkFilter × List FilterParameter)} {es : List Exchange}
    (h : nic.profile = some id) (hfilter : Filters nic profile es filter) :
    Backs nic (⟨.vnicProfile id, some profile⟩ :: ⟨.network profile.network, network⟩ :: es)
      (if network.isNone then [.missingNetwork nic.id profile.network] else [])
      (some ⟨profile, network, filter⟩)

/-- The NIC of an interface device: the first one of the machine with the identity of the device. -/
def firstNic? (vm : VirtualMachine) (d : InterfaceDevice) : Option Nic :=
  vm.nics.find? fun nic => nic.id = d.device.id.device ∧ nic.vm = d.device.id.vm

/-- The numbers of a limit. -/
def limitAttributes (b : Bandwidth) : List (String × String) :=
  [("average", Text.decimal b.average.toNat), ("burst", Text.decimal b.burst.toNat),
    ("peak", Text.decimal b.peak.toNat)]

/-- The element shows the device, its NIC and what stands behind that. -/
structure Shows (d : InterfaceDevice) (nic : Nic) (backing : Option NicBacking) (n : Node) :
    Prop where
  name : n.name = some "interface"
  type : n.attribute? "type" =
    match d.kind with
    | .bridge => some "bridge"
    | .hostdev => some "hostdev"
  mac : n.childrenNamed "mac" = [.element "mac" [("address", nic.mac)] []]
  filter : n.childrenNamed "filterref" =
    (backing.bind (·.filter)).toList.map fun (filter, parameters) =>
      .element "filterref" [("filter", filter.name)] <| parameters.map fun p =>
        .element "parameter" [("name", p.name), ("value", p.value)] []
  source : n.childrenNamed "source" =
    match d.kind with
    | .bridge => (backing.bind (·.network)).toList.map fun network =>
      .element "source" [("bridge", network.bridge)] []
    | .hostdev => []
  vlan : n.childrenNamed "vlan" =
    match d.kind with
    | .bridge => []
    | .hostdev => ((backing.bind (·.network)).bind (·.vlan)).toList.map fun id =>
      .element "vlan" [] [.element "tag" [("id", Text.decimal id.toNat)] []]
  bandwidth : n.childrenNamed "bandwidth" =
    let qos := backing.bind (·.profile.qos)
    [.element "bandwidth" [] <|
      (qos.bind (·.inbound)).toList.map (fun b => .element "inbound" (limitAttributes b) []) ++
        (qos.bind (·.outbound)).toList.map (fun b => .element "outbound" (limitAttributes b) [])]

/-- What a build does about an interface device: it is reported if the machine lacks its NIC, and
described with what stands behind the NIC otherwise. -/
inductive Handles (vm : VirtualMachine) (d : InterfaceDevice) : Trace (List Node) → Prop
  | withoutNic (h : firstNic? vm d = none) :
    Handles vm d ⟨[], [.interfaceWithoutNic d.device.id.device], []⟩
  | withNic {nic : Nic} {backing : Option NicBacking} {es : List Exchange} {ns : List Notice}
    {n : Node} (h : firstNic? vm d = some nic) (hbacking : Backs nic es ns backing)
    (hshows : Shows d nic backing n) :
    Handles vm d ⟨es, ns ++ if d.kind = .bridge then invalidVhost vm nic else [], [n]⟩

/-- The interface devices of a list are joined to the NICs of a machine: each is handled in turn,
the elements and the notices about NICs are those of the handled devices, and no other. -/
structure JoinsInterfaces (vm : VirtualMachine) (devices : List Device)
    (exchanges : List Exchange) (notices : List Notice) (root : Node)
    (handled : List (Trace (List Node))) : Prop where
  /-- The plugged devices of a known kind are handled in the order of the list. -/
  inOrder : List.Forall₂ (Handles vm) (devices.filterMap DeviceClasses.interfaceDevice?) handled
  exchanged : handled.flatMap Trace.exchanges <:+: exchanges
  reported : notices.filter Notice.isAboutNic = handled.flatMap Trace.notices
  warnings : ∀ n ∈ notices, n.isAboutNic → n.level = .warning
  described : elementsNamed "interface" [root] = handled.flatMap Trace.value
  /-- There is one element for each device whose NIC the machine has, in the same order. -/
  correspond : List.Forall₂
    (fun d n => ∃ nic backing, firstNic? vm d = some nic ∧ Shows d nic backing n)
    ((devices.filterMap DeviceClasses.interfaceDevice?).filter
      fun d => (firstNic? vm d).isSome)
    (elementsNamed "interface" [root])

section

variable {vm : VirtualMachine} {d : InterfaceDevice} {nic : Nic} {backing : Option NicBacking}
  {es : List Exchange} {ns : List Notice}

lemma filters_of_traces {profile : VnicProfile}
    {filter : Option (NetworkFilter × List FilterParameter)}
    (h : (nicFilter nic profile).Traces es ns filter) :
    ns = [] ∧ Filters nic profile es filter := by
  unfold nicFilter at h
  cases hid : profile.filter with
  | none =>
    simp only [hid, traces_pure] at h
    obtain ⟨rfl, rfl, rfl⟩ := h
    exact ⟨rfl, .unnamed hid⟩
  | some id =>
    simp only [hid, traces_bind, traces_lookup (c := .networkFilter id) rfl] at h
    obtain ⟨found, _, _, es', ns', ⟨rfl, rfl⟩, h, rfl, rfl⟩ := h
    cases found with
    | none =>
      obtain ⟨rfl, rfl, rfl⟩ := h
      exact ⟨rfl, .missing hid⟩
    | some found =>
      simp only [traces_bind, traces_lookup (c := .filterParameters nic.id) rfl, traces_pure] at h
      obtain ⟨parameters, _, _, _, _, ⟨rfl, rfl⟩, ⟨rfl, rfl, rfl⟩, rfl, rfl⟩ := h
      exact ⟨rfl, .found hid⟩

lemma backs_of_traces (h : (nicBacking nic).Traces es ns backing) : Backs nic es ns backing := by
  unfold nicBacking at h
  cases hid : nic.profile with
  | none =>
    simp only [hid, traces_pure] at h
    obtain ⟨rfl, rfl, rfl⟩ := h
    exact .unnamed hid
  | some id =>
    simp only [hid, traces_bind, traces_lookup (c := .vnicProfile id) rfl] at h
    obtain ⟨profile, _, _, es', ns', ⟨rfl, rfl⟩, h, rfl, rfl⟩ := h
    cases profile with
    | none =>
      simp only [traces_bind, traces_notice, traces_pure] at h
      obtain ⟨_, _, _, _, _, ⟨rfl, rfl⟩, ⟨rfl, rfl, rfl⟩, rfl, rfl⟩ := h
      exact .missing hid
    | some profile =>
      simp only [traces_bind, traces_lookup (c := .network profile.network) rfl] at h
      obtain ⟨network, _, _, es'', ns'', ⟨rfl, rfl⟩, h, rfl, rfl⟩ := h
      -- The filter is looked up whether or not the network is missing.
      have hfound {es : List Exchange} {ns : List Notice}
          (h : (do return some ⟨profile, network, ← nicFilter nic profile⟩ :
            Program (Option NicBacking)).Traces es ns backing) :
          ns = [] ∧ ∃ filter, Filters nic profile es filter ∧
            backing = some ⟨profile, network, filter⟩ := by
        simp only [traces_bind, traces_pure] at h
        obtain ⟨filter, es, ns, _, _, hlookups, ⟨rfl, rfl, rfl⟩, rfl, rfl⟩ := h
        obtain ⟨rfl, hfilter⟩ := filters_of_traces hlookups
        rw [List.append_nil, List.append_nil]
        exact ⟨rfl, filter, hfilter, rfl⟩
      cases network with
      | none =>
        simp only [Option.isNone_none, if_true, traces_bind (p := notice _), traces_notice] at h
        obtain ⟨_, _, _, es, ns, ⟨rfl, rfl⟩, h, rfl, rfl⟩ := h
        obtain ⟨rfl, filter, hfilter, rfl⟩ := hfound h
        exact .found hid hfilter
      | some network =>
        obtain ⟨rfl, filter, hfilter, rfl⟩ := hfound h
        exact .found hid hfilter

/-! ### The element -/

/-- The parts of an interface by name, after those that depend on its kind. -/
lemma filter_name_parts (vm : VirtualMachine) (nic : Nic) (backing : Option NicBacking)
    (first : List Node) (a : Address) (position : Nat) (name : String) :
    (first ++ addressNodes a ++ bootNodes position ++ [flag "mac" "address" nic.mac] ++
        filterNodes backing ++ sendBuffer vm ++ [bandwidth backing]).filter
        (·.name = some name) =
      first.filter (·.name = some name) ++
        (if "address" = name then addressNodes a else []) ++
        (if "boot" = name then bootNodes position else []) ++
        (if "mac" = name then [flag "mac" "address" nic.mac] else []) ++
        (if "filterref" = name then filterNodes backing else []) ++
        (if "tune" = name then sendBuffer vm else []) ++
        (if "bandwidth" = name then [bandwidth backing] else []) := by
  have haddress : ∀ n ∈ addressNodes a, n.name = some "address" := by
    unfold addressNodes
    split <;> simp [Node.leaf, Node.name]
  have hboot : ∀ n ∈ bootNodes position, n.name = some "boot" := by
    unfold bootNodes
    split <;> simp [Node.leaf, Node.name]
  have hmac : ∀ n ∈ [flag "mac" "address" nic.mac], n.name = some "mac" :=
    List.forall_mem_singleton.mpr rfl
  have hfilter : ∀ n ∈ filterNodes backing, n.name = some "filterref" :=
    List.forall_mem_map.mpr fun _ _ => rfl
  have htune : ∀ n ∈ sendBuffer vm, n.name = some "tune" :=
    List.forall_mem_map.mpr fun _ _ => rfl
  have hbandwidth : ∀ n ∈ [bandwidth backing], n.name = some "bandwidth" :=
    List.forall_mem_singleton.mpr rfl
  simp only [List.filter_append, filter_name_of_forall haddress, filter_name_of_forall hboot,
    filter_name_of_forall hmac, filter_name_of_forall hfilter, filter_name_of_forall htune,
    filter_name_of_forall hbandwidth]

/-- How an interface shows its network: a bridged one its bridge, and a device of the host its
VLAN. -/
def networkNodes (kind : InterfaceKind) (network : Option Network) : List Node :=
  match kind with
  | .bridge => network.toList.map fun network => flag "source" "bridge" network.bridge
  | .hostdev => (network.bind (·.vlan)).toList.map fun id =>
    .element "vlan" [] [flag "tag" "id" (Text.decimal id.toNat)]

lemma filter_name_networkNodes (kind : InterfaceKind) (network : Option Network) (name : String) :
    (networkNodes kind network).filter (·.name = some name) =
      if (match kind with | .bridge => "source" | .hostdev => "vlan") = name then
        networkNodes kind network
      else [] := by
  cases kind <;>
    exact filter_name_of_forall (List.forall_mem_map.mpr fun _ _ => rfl) name

lemma filter_name_hostdevNodes {name : String} (hname : name ∉ ["model", "link", "driver"]) :
    (hostdevNodes backing).filter (·.name = some name) =
      (networkNodes .hostdev (backing.bind (·.network))).filter (·.name = some name) := by
  simp only [List.mem_cons, List.not_mem_nil, or_false, not_or] at hname
  refine List.filter_cons_of_neg ?_
  simpa [flag, Node.leaf, Node.name] using Ne.symm hname.2.2

lemma of_traces_bridgeNodes {first : List Node}
    (h : (bridgeNodes vm nic backing).Traces es ns first) :
    es = [] ∧ ns = invalidVhost vm nic ∧ ∀ name ∉ ["model", "link", "driver"],
      first.filter (·.name = some name) =
        (networkNodes .bridge (backing.bind (·.network))).filter (·.name = some name) := by
  obtain ⟨driver, hdriver⟩ := driver?_eq vm nic
  simp only [bridgeNodes, hdriver, traces_bind, traces_notices, traces_pure] at h
  obtain ⟨_, _, _, _, _, ⟨_, _, _, _, _, ⟨rfl, rfl⟩, ⟨rfl, rfl, rfl⟩, rfl, rfl⟩, ⟨rfl, rfl, rfl⟩,
    rfl, rfl⟩ := h
  refine ⟨rfl, by simp, fun name hname => ?_⟩
  simp only [List.mem_cons, List.not_mem_nil, or_false, not_or] at hname
  obtain ⟨hmodel, hlink, hdriver⟩ := hname
  have hdrivers (queues driver : Option String) :
      ∀ n ∈ driverNodes queues driver, n.name = some "driver" := by
    cases queues <;> cases driver <;> simp [driverNodes, flag, Node.leaf, Node.name]
  rw [List.filter_append, List.filter_append, filter_name_of_forall (hdrivers _ _),
    if_neg (Ne.symm hdriver), List.append_nil, networkNodes]
  simp [flag, Node.leaf, Node.name, Ne.symm hmodel, Ne.symm hlink]

/-- An interface shows what its parts show. -/
lemma shows_element {attributes : List (String × String)} {first : List Node}
    (htype : attributes.lookup "type" =
      match d.kind with
      | .bridge => some "bridge"
      | .hostdev => some "hostdev")
    (hfirst : ∀ name ∉ ["model", "link", "driver"], first.filter (·.name = some name) =
      (networkNodes d.kind (backing.bind (·.network))).filter (·.name = some name))
    (a : Address) (position : Nat) :
    Shows d nic backing (.element "interface" attributes
      (first ++ addressNodes a ++ bootNodes position ++ [flag "mac" "address" nic.mac] ++
        filterNodes backing ++ sendBuffer vm ++ [bandwidth backing])) := by
  have hchildren (name : String) (hname : name ∉ ["model", "link", "driver"]) :=
    (filter_name_parts vm nic backing first a position name).trans
      (by rw [hfirst name hname, filter_name_networkNodes])
  have hlimit (direction : String) :
      limitNode direction = fun b => .element direction (limitAttributes b) [] := rfl
  exact {
    name := rfl
    type := htype
    mac := by
      refine (hchildren "mac" (by decide)).trans ?_
      cases d.kind <;> simp [flag, Node.leaf]
    filter := by
      refine (hchildren "filterref" (by decide)).trans ?_
      cases d.kind <;> simp [filterNodes, Node.leaf]
    source := by
      refine (hchildren "source" (by decide)).trans ?_
      cases d.kind <;> simp [networkNodes, flag, Node.leaf]
    vlan := by
      refine (hchildren "vlan" (by decide)).trans ?_
      cases d.kind <;> simp [networkNodes, flag, Node.leaf]
    bandwidth := by
      refine (hchildren "bandwidth" (by decide)).trans ?_
      cases d.kind <;> simp [Descriptor.bandwidth, hlimit] }

lemma shows_of_traces {position : Nat} {n : Node}
    (h : (interface vm d nic backing position).Traces es ns n) :
    es = [] ∧ ns = (if d.kind = .bridge then invalidVhost vm nic else []) ∧
      Shows d nic backing n := by
  unfold interface at h
  cases hkind : d.kind with
  | hostdev =>
    simp only [hkind, traces_bind, traces_pure] at h
    obtain ⟨_, _, _, _, _, ⟨rfl, rfl, rfl⟩, ⟨rfl, rfl, rfl⟩, rfl, rfl⟩ := h
    refine ⟨rfl, rfl, shows_element (by rw [hkind]; rfl) (fun name hname => ?_) _ _⟩
    rw [hkind]
    exact filter_name_hostdevNodes hname
  | bridge =>
    simp only [hkind, traces_bind, traces_pure] at h
    obtain ⟨first, _, _, _, _, hfirst, ⟨_, _, _, _, _, ⟨rfl, rfl, rfl⟩, ⟨rfl, rfl, rfl⟩, rfl, rfl⟩,
      rfl, rfl⟩ := h
    obtain ⟨rfl, rfl, hfilter⟩ := of_traces_bridgeNodes hfirst
    refine ⟨rfl, by simp, shows_element (by rw [hkind]; rfl) ?_ _ _⟩
    rwa [hkind]

/-- What a build does about an interface device. -/
theorem handles_of_traces {order : BootOrder} {nodes : List Node}
    (h : (interfaceNodes vm order d).Traces es ns nodes) : Handles vm d ⟨es, ns, nodes⟩ := by
  unfold interfaceNodes at h
  cases hnic : vm.nicOf? d.device.id with
  | none =>
    simp only [hnic, traces_bind, traces_notice, traces_pure] at h
    obtain ⟨_, _, _, _, _, ⟨rfl, rfl⟩, ⟨rfl, rfl, rfl⟩, rfl, rfl⟩ := h
    exact .withoutNic hnic
  | some nic =>
    simp only [hnic, traces_bind, traces_pure] at h
    obtain ⟨backing, es, ns, _, _, hbacking, ⟨n, _, _, _, _, hn, ⟨rfl, rfl, rfl⟩, rfl, rfl⟩, rfl,
      rfl⟩ := h
    obtain ⟨rfl, rfl, hshows⟩ := shows_of_traces hn
    simp only [List.append_nil]
    exact .withNic hnic (backs_of_traces hbacking) hshows

end

/-! ### Handled devices -/

/-- The elements of handled devices are those of the devices with a NIC, one for each. -/
lemma correspond_of_handles {vm : VirtualMachine} {ds : List InterfaceDevice}
    {handled : List (Trace (List Node))} (h : List.Forall₂ (Handles vm) ds handled) :
    List.Forall₂
      (fun d n => ∃ nic backing, firstNic? vm d = some nic ∧ Shows d nic backing n)
      (ds.filter fun d => (firstNic? vm d).isSome) (handled.flatMap Trace.value) := by
  induction h with
  | nil => exact .nil
  | cons hd _ ih =>
    cases hd with
    | withoutNic hnic => rwa [List.filter_cons_of_neg (by simp [hnic])]
    | withNic hnic _ hshows =>
      rw [List.filter_cons_of_pos (by simp [hnic])]
      exact .cons ⟨_, _, hnic, hshows⟩ ih

lemma level_of_isAboutNic {n : Notice} (h : n.isAboutNic) : n.level = .warning := by
  cases n with
  | unusableParameters => cases h
  | _ => rfl

/-- The notices about a handled device are about its NIC. -/
lemma Handles.isAboutNic {vm : VirtualMachine} {d : InterfaceDevice} {t : Trace (List Node)}
    (h : Handles vm d t) : ∀ n ∈ t.notices, n.isAboutNic := by
  cases h with
  | withoutNic h => simp [Notice.isAboutNic]
  | @withNic nic backing es ns n h hbacking hshows =>
    have hvhost : ∀ n ∈ invalidVhost vm nic, n.isAboutNic := by
      unfold invalidVhost
      split
      · split <;> simp [Notice.isAboutNic]
      · simp
    have hns : ∀ n ∈ ns, n.isAboutNic := by
      cases hbacking with
      | unnamed => simp
      | missing => simp [Notice.isAboutNic]
      | found => split <;> simp [Notice.isAboutNic]
    refine List.forall_mem_append.mpr ⟨hns, ?_⟩
    split
    · exact hvhost
    · simp

/-! ### Notices about other things -/

section

variable {vm : VirtualMachine} {config : BuildConfig}

/-- No notice is about a NIC. -/
abbrev AboutOthers (p : Program α) : Prop :=
  p.ReportsOnly fun n => n.isAboutNic = false

lemma reportsOnly_sizing {P : Notice → Prop} : (sizing vm config).ReportsOnly P :=
  (reportsOnly_exact _).bind fun _ => (reportsOnly_exact _).bind fun _ => trivial

lemma reportsOnly_cpu {P : Notice → Prop} {params : CreateParams} :
    (cpu vm config params).ReportsOnly P := by
  have htopology : (topology vm config).ReportsOnly P := by
    unfold topology
    split
    · exact (reportsOnly_exact _).bind fun _ => trivial
    · trivial
  have hnuma : (numa params).ReportsOnly P := by
    unfold numa
    split
    · trivial
    · refine (reportsOnly_mapM fun node _ => ?_).bind fun _ => reportsOnly_pure _
      exact (reportsOnly_exact _).bind fun _ => reportsOnly_pure _
  exact htopology.bind fun _ => hnuma.bind fun _ => trivial

lemma aboutOthers_display {d : Display} {network : Option Network} :
    AboutOthers (display vm config d network) := by
  have hchannels (configured : List String) : AboutOthers (secureChannels configured) :=
    ReportsOnly.bind (reportsOnly_notices.mpr (List.forall_mem_map.mpr fun _ _ => rfl))
      fun _ => trivial
  unfold display
  cases d.type with
  | spice =>
    refine ReportsOnly.bind ?_ fun _ => reportsOnly_pure _
    unfold spiceOptions
    cases config.settings.sslEnabled with
    | false => exact reportsOnly_pure _
    | true => exact (hchannels _).bind fun _ => reportsOnly_pure _
  | vnc => trivial

lemma aboutOthers_peripheral {host : Uuid} {p : Peripheral} :
    AboutOthers (peripheral vm host config p) := by
  have hmissing (n : Notice) (hn : n.isAboutNic = false) :
      AboutOthers (do notice n; return ([] : List Node)) :=
    (reportsOnly_notice.mpr hn).bind fun _ => trivial
  unfold peripheral
  cases p.kind with
  | graphics d => exact fun network => aboutOthers_display.bind fun _ => trivial
  | hostDevice name placeholder =>
    refine reportsOnly_lookup_bind (c := .hostDevices host) fun devices => ?_
    unfold hostDevice
    split
    · exact hmissing _ rfl
    · split
      · trivial
      · trivial
      · trivial
      · exact hmissing _ rfl
  | _ => trivial

lemma reportsOnly_diskStorage {P : Notice → Prop} {disk : Disk} :
    (diskStorage disk).ReportsOnly P := by
  unfold diskStorage
  cases disk.backend with
  | image image =>
    dsimp only
    cases image.domains.head? with
    | none => trivial
    | some domain =>
      refine reportsOnly_lookup_bind (c := .storageDomain domain) fun found => ?_
      cases found with
      | none => trivial
      | some found =>
        cases image.profile with
        | none => trivial
        | some profile => exact fun _ => trivial
  | _ => trivial

lemma aboutOthers_disk {d : PlacedDisk} : AboutOthers (disk config d) := by
  have hdriver : AboutOthers (diskDriver config d) := by
    refine ReportsOnly.bind ?_ fun _ => reportsOnly_pure _
    unfold ioThread
    split
    · trivial
    next e _ =>
      have hnotice : AboutOthers (notice (.ignoredIoThread d.disk.id e)) :=
        reportsOnly_notice.mpr rfl
      exact hnotice.bind fun _ => reportsOnly_pure _
  have hpolicy : AboutOthers (diskPolicy d) := by
    unfold diskPolicy
    split
    · exact (reportsOnly_exact _).bind fun _ => reportsOnly_pure _
    · trivial
    · trivial
  exact hdriver.bind fun _ => hpolicy.bind fun _ => reportsOnly_pure _

lemma aboutOthers_disks {devices : List Device} {order : BootOrder} {ix : DiskIndices} :
    AboutOthers (disks vm config devices order ix) :=
  reportsOnly_mapM fun _ _ => reportsOnly_diskStorage.bind fun _ => aboutOthers_disk

/-- Devices that are left out are not about NICs. -/
lemma isAboutNic_notices_ofDevices (ix : DiskIndices) (devices : List Device) :
    ∀ n ∈ (DeviceClasses.ofDevices ix devices).notices, n.isAboutNic = false := by
  intro n hn
  obtain ⟨d, -, hreports⟩ :=
    exists_mem_of_forall₂ (DeviceClasses.notices_ofDevices ix devices) hn
  obtain ⟨-, ⟨htype, -⟩ | ⟨htype, -⟩ | ⟨htype, -⟩⟩ :=
    DeviceClasses.isSkipped_iff.mp hreports.skipped
  · rw [hreports.disk htype]
    rfl
  · rw [hreports.interface htype]
    rfl
  · obtain ⟨e, ix, -, rfl⟩ := hreports.peripheral htype
    rfl

end

/-! ### The devices -/

section

variable {req : Request} {config : BuildConfig} {es : List Exchange} {ns : List Notice}

lemma filter_isAboutNic_eq_nil {ns : List Notice} (h : ∀ n ∈ ns, n.isAboutNic = false) :
    ns.filter Notice.isAboutNic = [] :=
  List.filter_eq_nil_iff.mpr fun n hn => by simp [h n hn]

/-- No interface is inside another one. -/
lemma elementsNamed_interfaceNodes {given : Answers} {vm : VirtualMachine} {order : BootOrder}
    {d : InterfaceDevice} {nodes : List Node}
    (h : (interfaceNodes vm order d).MayReturn given nodes) :
    elementsNamed "interface" nodes = nodes := by
  unfold interfaceNodes at h
  split at h
  · simp only [mayReturn_bind, mayEnd_pure, Except.ok.injEq] at h
    obtain ⟨-, -, rfl⟩ := h
    rfl
  · simp only [mayReturn_bind, mayEnd_pure, Except.ok.injEq] at h
    obtain ⟨backing, -, n, hn, rfl⟩ := h
    obtain ⟨attributes, before, after, -, hbefore, hafter, rfl⟩ := mayReturn_interface hn
    have hboot : EveryIn (Regular (· ∈ ["boot"])) (bootNodes (order.position d.device)) :=
      every_bootNodes (by decide) _
    rw [elementsNamed_element, if_pos rfl, elementsNamed_append, elementsNamed_append,
      elementsNamed_eq_nil hbefore (by decide), elementsNamed_eq_nil hboot (by decide),
      elementsNamed_eq_nil hafter (by decide)]
    rfl

/-- Of the devices, those of the class of interfaces are handled, one after the other. -/
lemma exists_handled {cs : DeviceClasses} {devices : List Node}
    (hcs : ∀ n ∈ cs.notices, n.isAboutNic = false)
    (h : (deviceNodes req config cs).Traces es ns devices) :
    ∃ handled : List (Trace (List Node)), List.Forall₂ (Handles req.vm) cs.interfaces handled ∧
      handled.flatMap Trace.exchanges <:+: es ∧
      ns.filter Notice.isAboutNic = handled.flatMap Trace.notices ∧
      elementsNamed "interface" devices = handled.flatMap Trace.value := by
  simp only [deviceNodes, traces_bind, traces_notices, traces_pure] at h
  obtain ⟨_, _, _, _, _, ⟨rfl, rfl⟩, ⟨peripherals, esPeripherals, nsPeripherals, _, _,
    hperipherals, ⟨interfaces, _, _, _, _, hinterfaces, ⟨diskNodes, esDisks, nsDisks, _, _,
    hdisks, ⟨rfl, rfl, rfl⟩, rfl, rfl⟩, rfl, rfl⟩, rfl, rfl⟩, rfl, rfl⟩ := h
  obtain ⟨handled, hhandled, rfl, rfl, rfl⟩ := exists_traces_of_mapM hinterfaces
  refine ⟨handled, hhandled.imp fun _ _ => handles_of_traces, ⟨esPeripherals, esDisks, ?_⟩, ?_, ?_⟩
  · simp only [List.nil_append, List.append_nil, List.append_assoc]
  · have hhandledNotices : ∀ n ∈ handled.flatMap Trace.notices, n.isAboutNic := by
      intro n hn
      obtain ⟨t, ht, hn⟩ := List.mem_flatMap.mp hn
      obtain ⟨d, -, hd⟩ := exists_mem_of_forall₂ hhandled ht
      exact (handles_of_traces hd).isAboutNic n hn
    have hnsPeripherals :=
      (reportsOnly_mapM fun p _ => aboutOthers_peripheral (p := p)).forall_mem hperipherals
    have hnsDisks := aboutOthers_disks.forall_mem hdisks
    simp only [List.filter_append, filter_isAboutNic_eq_nil hcs,
      filter_isAboutNic_eq_nil hnsPeripherals, filter_isAboutNic_eq_nil hnsDisks,
      List.filter_eq_self.mpr hhandledNotices, List.nil_append, List.append_nil]
  · have hvalues : ∀ t ∈ handled, elementsNamed "interface" t.value = t.value := by
      intro t ht
      obtain ⟨d, -, hd⟩ := exists_mem_of_forall₂ hhandled ht
      exact elementsNamed_interfaceNodes (mayReturn_of_traces hd)
    have hflat : elementsNamed "interface" (handled.map Trace.value).flatten =
        handled.flatMap Trace.value := by
      rw [elementsNamed_flatten, List.flatMap_map]
      exact List.flatMap_congr hvalues
    have hnil {V : List String} {nodes : List Node} (h : EveryIn (Regular (· ∈ V)) nodes)
        (hV : "interface" ∉ V) : elementsNamed "interface" nodes = [] := elementsNamed_eq_nil h hV
    have hremovable := hnil (every_removableNodes req.vm cs) (by decide)
    simp only [removableNodes, elementsNamed_append, List.append_eq_nil_iff] at hremovable
    simp only [elementsNamed_append, hflat, hremovable,
      hnil (every_fixedDevices req.vm) (by decide),
      hnil (every_peripherals (mayReturn_of_traces hperipherals)) (by decide),
      hnil (every_dependentDevices req.vm cs) (by decide),
      hnil (every_disks (mayReturn_of_traces hdisks)) (by decide), List.nil_append,
      List.append_nil]

/-- The domain element describes the interfaces of the stored devices as they are at the start. -/
lemma exists_interfaces {fresh : FreshIds} {root : Node}
    (h : (domain fresh req config).Traces es ns root) :
    ∃ stored rest handled, es = ⟨.devicesForVm req.vm.id, stored⟩ :: rest ∧
      JoinsInterfaces req.vm (RunOnce.devices fresh req.vm req.payload stored) rest ns root
        handled := by
  simp only [domain, traces_bind, traces_lookup (c := .devicesForVm req.vm.id) rfl,
    traces_pure] at h
  obtain ⟨sizingNodes, esSizing, nsSizing, _, _, hsizing, ⟨cpuNode, esCpu, nsCpu, _, _, hcpu,
    ⟨stored, _, _, _, _, ⟨rfl, rfl⟩, ⟨devices, esDevices, nsDevices, _, _, hdevices,
    ⟨rfl, rfl, rfl⟩, rfl, rfl⟩, rfl, rfl⟩, rfl, rfl⟩, rfl, rfl⟩ := h
  obtain rfl := exchanges_eq_nil (fun _ => not_mayAsk_sizing) hsizing
  obtain rfl := exchanges_eq_nil (fun _ => not_mayAsk_cpu) hcpu
  have hnsSizing := (reportsOnly_sizing (P := (·.isAboutNic = false))).forall_mem hsizing
  have hnsCpu := (reportsOnly_cpu (P := (·.isAboutNic = false))).forall_mem hcpu
  obtain ⟨handled, hhandled, hexchanges, hnotices, helements⟩ :=
    exists_handled (isAboutNic_notices_ofDevices _ _) hdevices
  rw [DeviceClasses.interfaces_ofDevices] at hhandled
  refine ⟨stored, esDevices, handled, ?_, ?_⟩
  · simp only [List.nil_append, List.append_nil, List.singleton_append]
  have hdescribed : elementsNamed "interface" [.element "domain" rootAttributes
      (sections req config sizingNodes cpuNode devices
        (classified fresh req config stored).serialConsole?.isSome)] =
      handled.flatMap Trace.value :=
    (elementsNamed_sections (isDeviceName (by decide) (by decide) (by decide))
      (mayReturn_of_traces hsizing) (mayReturn_of_traces hcpu)).trans helements
  have hcorrespond := correspond_of_handles hhandled
  rw [← hdescribed] at hcorrespond
  exact {
    inOrder := hhandled
    exchanged := hexchanges
    reported := by
      simp only [List.filter_append, filter_isAboutNic_eq_nil hnsSizing,
        filter_isAboutNic_eq_nil hnsCpu, hnotices, List.nil_append, List.append_nil]
    warnings := fun _ _ => level_of_isAboutNic
    described := hdescribed
    correspond := hcorrespond }

end

end Descriptor

open Descriptor

namespace Request

variable {fresh : FreshIds} {req : Request} {config : EngineConfig} {stores : Stores}

/-- A build that succeeds has described its root on the way. -/
lemma exists_traces_root {text : String} (h : (req.build fresh config stores).result = .ok text) :
    ∃ root es, req.root fresh config stores = .ok root ∧ root.document = .ok text ∧
      (domain fresh req (.resolve config req.vm)).Traces es
        (req.build fresh config stores).notices root ∧
      (req.build fresh config stores).lookups = es.map Sigma.fst ∧ stores.Give [] es := by
  obtain ⟨root, hroot, hdocument⟩ := build_ok_iff.mp h
  obtain ⟨es, htraces, hlookups, hgive⟩ := exists_traces (fun _ h => by cases h) hroot
  rw [build_eq]
  exact ⟨root, es, hroot, hdocument, htraces, hlookups, hgive⟩

/-- **Interfaces and their NICs**: a build that succeeds has joined the interface devices of its
machine, as they are at the start, to the NICs, and each NIC to what the stores have told of its
profile, network and filter. -/
theorem build_interfaces {text : String}
    (h : (req.build fresh config stores).result = .ok text) :
    ∃ root stored rest handled,
      req.root fresh config stores = .ok root ∧ root.document = .ok text ∧
      (req.build fresh config stores).lookups =
        .devicesForVm req.vm.id :: rest.map Sigma.fst ∧
      stores.Give [] (⟨.devicesForVm req.vm.id, stored⟩ :: rest) ∧
      JoinsInterfaces req.vm (RunOnce.devices fresh req.vm req.payload stored) rest
        (req.build fresh config stores).notices root handled := by
  obtain ⟨root, es, hroot, hdocument, htraces, hlookups, hgive⟩ := exists_traces_root h
  obtain ⟨stored, rest, handled, rfl, hjoins⟩ := exists_interfaces htraces
  exact ⟨root, stored, rest, handled, hroot, hdocument, hlookups, hgive, hjoins⟩

end Request

namespace Fixture

/-- A machine with four interface devices, one of them without a NIC. Of the others the first one
has two NICs with its identifiers, a profile with limits and a filter but without its network, and
a setting for its network that is neither true nor false; the second one has a profile that is not
known; nothing is missing behind the last one. -/
def withInterfaces : Fixture :=
  let nic (id : Uuid) (mac : String) (profile : Uuid) (network : Option String) : Nic :=
    ⟨id, default, "", mac, true, true, some profile, network, none⟩
  let vm : VirtualMachine :=
    { plainMachine none [] [nic ⟨1⟩ "56:6f" ⟨8⟩ "lan", nic ⟨1⟩ "56:70" ⟨9⟩ none,
        nic ⟨2⟩ "56:71" ⟨9⟩ none, nic ⟨4⟩ "56:72" ⟨7⟩ none] with
      customProperties := SortedMap.empty.insert "vhost" "lan:maybe" }
  let fixture := plain vm [.plain ⟨⟨1⟩, default⟩ .interface "bridge",
    .plain ⟨⟨2⟩, default⟩ .interface "hostdev", .plain ⟨⟨3⟩, default⟩ .interface "bridge",
    .plain ⟨⟨4⟩, default⟩ .interface "hostdev"]
  { fixture with
    inventory := { fixture.inventory with
      vnicProfiles := [⟨⟨8⟩, ⟨5⟩, some ⟨6⟩, some ⟨some ⟨10, 30, 20⟩, some ⟨1, 3, 2⟩⟩, .empty⟩,
        ⟨⟨7⟩, ⟨4⟩, none, none, .empty⟩]
      networks := [⟨⟨4⟩, "vlan", "br0", some 12⟩]
      networkFilters := [⟨⟨6⟩, "clean-traffic"⟩]
      filterParameters := .ofList [(⟨1⟩, [⟨"IP", "10.0.0.1"⟩])] } }

/-- Three of the devices are described, each with what stands behind its NIC; four things are
reported, one of them the network that the first profile names. -/
theorem build_interfaces_withInterfaces :
    ∃ text root rest handled,
      (withInterfaces.build (.constant default) .empty).result = .ok text ∧
      root.document = .ok text ∧
      JoinsInterfaces withInterfaces.vm (withInterfaces.startDevices (.constant default)) rest
        (withInterfaces.build (.constant default) .empty).notices root handled ∧
      (withInterfaces.build (.constant default) .empty).notices =
        [.missingNetwork ⟨1⟩ ⟨5⟩, .invalidVhost "lan" "maybe", .missingProfile ⟨2⟩ ⟨9⟩,
          .interfaceWithoutNic ⟨3⟩] ∧
      elementsNamed "interface" [root] = [
        .element "interface" [("type", "bridge")] [
          .element "model" [("type", "rtl8139")] [],
          .element "link" [("state", "up")] [],
          .element "mac" [("address", "56:6f")] [],
          .element "filterref" [("filter", "clean-traffic")]
            [.element "parameter" [("name", "IP"), ("value", "10.0.0.1")] []],
          .element "bandwidth" [] [
            .element "inbound" [("average", "10"), ("burst", "30"), ("peak", "20")] [],
            .element "outbound" [("average", "1"), ("burst", "3"), ("peak", "2")] []]],
        .element "interface" [("type", "hostdev"), ("managed", "no")] [
          .element "driver" [("name", "vfio")] [],
          .element "mac" [("address", "56:71")] [],
          .element "bandwidth" [] []],
        .element "interface" [("type", "hostdev"), ("managed", "no")] [
          .element "driver" [("name", "vfio")] [],
          .element "vlan" [] [.element "tag" [("id", "12")] []],
          .element "mac" [("address", "56:72")] [],
          .element "bandwidth" [] []]] := by
  obtain ⟨text, h⟩ := exists_ok
    (r := (withInterfaces.build (.constant default) .empty).result) (by decide +kernel)
  obtain ⟨root, stored, rest, handled, hroot, hdocument, -, ⟨hstored, -⟩, hjoins⟩ :=
    Request.build_interfaces h
  obtain rfl : withInterfaces.inventory.devicesOf withInterfaces.vm.id = stored :=
    Except.ok.inj hstored
  refine ⟨text, root, rest, handled, h, hdocument, hjoins, by decide +kernel, ?_⟩
  exact eq_of_map_eq_ok (f := fun root => elementsNamed "interface" [root]) hroot
    (by decide +kernel)

end Fixture

end VmDescriptor
