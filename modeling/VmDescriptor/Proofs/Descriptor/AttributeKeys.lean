import VmDescriptor.Proofs.Address
import VmDescriptor.Proofs.Descriptor.Failures

/-!
The keys of attributes.

All keys of a descriptor are fixed ones, but for those of `address` elements: an address has the
keys that it was stored with. Such an address is that of a plugged device, since what is not
plugged is not described.
-/

namespace VmDescriptor

open Program Xml

/-- The keys of an address. -/
def Address.keys (a : Address) : List String :=
  a.attributes.map Prod.fst

/-- The keys of an address that is put together are among those given. -/
lemma Address.keys_ofList {attributes : List (String × String)} {key : String}
    (h : key ∈ (ofList attributes).keys) : key ∈ attributes.map Prod.fst := by
  obtain ⟨entry, hentry, rfl⟩ := List.mem_map.mp h
  exact List.mem_map_of_mem (mem_attributes_ofList hentry)

/-- A plugged device among some devices has the key in its address. -/
def IsAddressKey (devices : List Device) (key : String) : Prop :=
  ∃ d ∈ devices, d.plugged ∧ key ∈ d.address.keys

namespace Descriptor

/-- The keys that do not come from a request. -/
def fixedKeys : List String :=
  ["action", "address", "adjustment", "arch", "auth", "autoport", "average", "burst", "bus",
    "bridge", "bytes", "cache", "cellid", "controller", "copypaste", "cores", "cpus", "cpuset",
    "current", "dev", "device", "discard", "domain", "enable", "error_policy", "file", "filter",
    "function", "heads", "id", "index", "io", "iothread", "keymap", "listen", "machine",
    "managed", "match", "memory", "mode", "model", "name", "network", "nodeset", "offset",
    "order", "passwd", "passwdValidTo", "path", "peak", "period", "port", "ports", "present",
    "protocol", "queues", "ram", "rawio", "read_bytes_sec", "read_iops_sec", "retries", "sgio",
    "slot", "slots", "snapshot", "sockets", "startupPolicy", "state", "target", "text",
    "threads", "tickpolicy", "timeout", "tlsPort", "total_bytes_sec", "total_iops_sec", "type",
    "unit", "useserial", "username", "uuid", "value", "vcpu", "vgamem", "vram",
    "write_bytes_sec", "write_iops_sec", "xmlns:ovirt-tune", "xmlns:ovirt-vm"]

/-- The keys of the element are fixed ones, or it is an address with keys that are allowed. -/
def Keyed (K : String → Prop) (e : Node) : Prop :=
  ∀ key ∈ e.attributes.map Prod.fst, key ∈ fixedKeys ∨ e.name = some "address" ∧ K key

variable {given : Answers} {K : String → Prop}

@[simp] lemma keyed_element {name : String} {attributes : List (String × String)}
    {children : List Node} :
    Keyed K (.element name attributes children) ↔
      ∀ key ∈ attributes.map Prod.fst, key ∈ fixedKeys ∨ name = "address" ∧ K key := by
  simp only [Keyed, Node.name, Node.attributes, Option.some.injEq]

lemma Keyed.imp {L : String → Prop} {e : Node} (h : Keyed K e) (hKL : ∀ key, K key → L key) :
    Keyed L e :=
  fun key hkey => (h key hkey).imp_right fun h => ⟨h.1, hKL key h.2⟩

/-- An address has its own keys. -/
lemma keyed_addressNodes {a : Address} (ha : ∀ key ∈ a.keys, K key) :
    EveryIn (Keyed K) (addressNodes a) := by
  simp only [addressNodes, everyIn_ite, everyIn_nil, implies_true, true_and, everyIn_cons,
    every_leaf, keyed_element, and_true]
  exact fun _ key hkey => .inr (ha key hkey)

lemma keyed_bootNodes (position : Nat) : EveryIn (Keyed K) (bootNodes position) := by
  simp +decide [bootNodes]

/-! ### Sections -/

lemma keyed_sizing {vm : VirtualMachine} {config : BuildConfig} {ns : List Node}
    (h : (sizing vm config).MayReturn given ns) : EveryIn (Keyed K) ns := by
  simp only [sizing, mayReturn_bind, mayEnd_pure, Except.ok.injEq] at h
  obtain ⟨current, -, greatest, -, rfl⟩ := h
  simp +decide

lemma keyed_metadata (vm : VirtualMachine) : (metadata vm).Every (Keyed K) := by
  simp +decide [metadata]

lemma keyed_sysinfo (vm : VirtualMachine) : EveryIn (Keyed K) (sysinfo vm) := by
  unfold sysinfo
  cases vm.arch.family <;> simp +decide

lemma keyed_clock (vm : VirtualMachine) (config : BuildConfig) :
    (clock vm config).Every (Keyed K) := by
  unfold clock
  cases vm.arch.family <;> cases config.hyperv <;> simp +decide

lemma keyed_powerEvents (isVolatile : Bool) : EveryIn (Keyed K) (powerEvents isVolatile) := by
  simp +decide [powerEvents]

lemma keyed_features (vm : VirtualMachine) (config : BuildConfig) :
    EveryIn (Keyed K) (features vm config) := by
  unfold features
  cases vm.acpi <;> cases config.hyperv <;> simp +decide [flag]

lemma keyed_cpu {vm : VirtualMachine} {config : BuildConfig} {params : CreateParams} {n : Node}
    (h : (cpu vm config params).MayReturn given n) : n.Every (Keyed K) := by
  simp only [cpu, mayReturn_bind, mayEnd_pure, Except.ok.injEq] at h
  obtain ⟨topologyNodes, htopology, numaNodes, hnuma, rfl⟩ := h
  have hmodel : (∀ key ∈ (cpuModel vm params).1.map Prod.fst, key ∈ fixedKeys) ∧
      EveryIn (Keyed K) (cpuModel vm params).2 := by
    unfold cpuModel
    cases vm.arch.family
    · dsimp only
      split_ifs <;> simp +decide
    · simp +decide
  have htopology : EveryIn (Keyed K) topologyNodes := by
    unfold topology at htopology
    split at htopology
    · simp only [mayReturn_bind, mayEnd_pure, Except.ok.injEq] at htopology
      obtain ⟨greatest, -, rfl⟩ := htopology
      simp +decide
    · cases htopology
      simp
  have hnuma : EveryIn (Keyed K) numaNodes := by
    unfold numa at hnuma
    split at hnuma
    · cases hnuma
      simp
    · simp only [mayReturn_bind, mayEnd_pure, Except.ok.injEq] at hnuma
      obtain ⟨cells, hcells, rfl⟩ := hnuma
      have hcell : EveryIn (Keyed K) cells := by
        intro n hn
        obtain ⟨node, -, hnode⟩ := exists_mem_of_mayReturn_mapM hcells hn
        simp only [numaCell, mayReturn_bind, mayEnd_pure, Except.ok.injEq] at hnode
        obtain ⟨memory, -, rfl⟩ := hnode
        simp +decide
      simpa using hcell
  simp only [every_element, keyed_element, everyIn_append]
  exact ⟨fun key hkey => .inl (hmodel.1 key hkey), ⟨hmodel.2, htopology⟩, hnuma⟩

lemma keyed_cpuTune (params : CreateParams) : EveryIn (Keyed K) (cpuTune params) := by
  unfold cpuTune
  cases params.cpuPinning <;> simp +decide

lemma keyed_numaTune (params : CreateParams) : EveryIn (Keyed K) (numaTune params) := by
  unfold numaTune
  split
  · simp
  · split
    · simp
    · simp +decide

lemma keyed_os (vm : VirtualMachine) (config : BuildConfig) (isSerial : Bool) :
    (os vm config isSerial).Every (Keyed K) := by
  unfold os
  cases nonEmpty vm.kernel <;> simp +decide [flag]

lemma keyed_sections {req : Request} {config : BuildConfig} {sizingNodes devices : List Node}
    {cpuNode : Node} {serial : Bool}
    (hsizing : (sizing req.vm config).MayReturn given sizingNodes)
    (hcpu : (cpu req.vm config req.params).MayReturn given cpuNode)
    (hdevices : EveryIn (Keyed K) devices) :
    (Node.element "domain" rootAttributes
      (sections req config sizingNodes cpuNode devices serial)).Every (Keyed K) := by
  have hroot : ∀ key ∈ rootAttributes.map Prod.fst, key ∈ fixedKeys := by decide
  simp only [every_element, keyed_element, sections, everyIn_append, everyIn_cons, everyIn_nil,
    and_true]
  exact ⟨fun key hkey => .inl (hroot key hkey), ⟨⟨⟨⟨⟨⟨⟨⟨⟨keyed_sizing hsizing,
    keyed_metadata _⟩, keyed_sysinfo _⟩, keyed_clock _ _⟩, keyed_powerEvents _⟩,
    keyed_features _ _⟩, keyed_cpu hcpu⟩, keyed_cpuTune _⟩, keyed_numaTune _⟩, by simp,
    hdevices⟩, keyed_os _ _ _⟩

/-! ### Peripherals -/

lemma keyed_fixedDevices (vm : VirtualMachine) : EveryIn (Keyed K) (fixedDevices vm) := by
  unfold fixedDevices emulator input
  cases vm.arch.family <;> simp +decide [agentChannel, flag]

lemma keyed_hostEnd (socket : Option String) :
    (∀ key ∈ (hostEnd socket).1.map Prod.fst, key ∈ fixedKeys) ∧
      EveryIn (Keyed K) (hostEnd socket).2 := by
  cases socket <;> simp +decide [hostEnd]

lemma keyed_console (vm : Uuid) (c : Console) : (console vm c).Every (Keyed K) := by
  have h := keyed_hostEnd (K := K) (socket? vm c)
  simp only [console, every_element, keyed_element, everyIn_append]
  exact ⟨fun key hkey => .inl (h.1 key hkey), h.2, by simp +decide⟩

lemma keyed_serial (vm : Uuid) (c : Console) : (serial vm c).Every (Keyed K) := by
  have h := keyed_hostEnd (K := K) (socket? vm c)
  simp only [serial, every_element, keyed_element, everyIn_append]
  exact ⟨fun key hkey => .inl (h.1 key hkey), h.2, by simp +decide [flag]⟩

lemma keyed_lease (vm : Uuid) (l : Lease) : (lease vm l).Every (Keyed K) := by
  unfold lease
  cases l.offset <;> cases l.path <;> simp +decide [keys_numberIf, keys_attributeIf]

lemma keyed_dependentDevices (vm : VirtualMachine) (cs : DeviceClasses) :
    EveryIn (Keyed K) (dependentDevices vm cs) := by
  simp +decide [dependentDevices, noBalloon, spiceChannel, flag, keyed_serial, keyed_lease]

lemma keyed_placed {name : String} {attributes : List (String × String)}
    (hkeys : ∀ key ∈ attributes.map Prod.fst, key ∈ fixedKeys) {a : Address}
    (ha : ∀ key ∈ a.keys, K key) : (placed name attributes a).Every (Keyed K) := by
  simp only [placed, every_element, keyed_element]
  exact ⟨fun key hkey => .inl (hkeys key hkey), keyed_addressNodes ha⟩

lemma keyed_controller (c : Controller) {a : Address} (ha : ∀ key ∈ a.keys, K key) :
    (controller c a).Every (Keyed K) := by
  refine keyed_placed ?_ ha
  cases c.model <;> cases c.index <;> cases c.ports <;>
    simp +decide [keys_numberIf, keys_attributeIf]

lemma keyed_video (v : Video) {a : Address} (ha : ∀ key ∈ a.keys, K key) :
    (video v a).Every (Keyed K) := by
  have ha := keyed_addressNodes ha
  unfold video
  cases v.ram <;> cases v.vgamem <;> simp +decide [keys_numberIf, ha]

lemma keyed_rng (r : Rng) : (rng r).Every (Keyed K) := by
  unfold rng
  cases r.bytes <;> cases r.period <;> simp +decide [keys_numberIf]

lemma keyed_listen (d : Display) (network : Network) : (listen d network).Every (Keyed K) := by
  unfold listen
  cases d.ip <;> simp +decide

lemma keyed_spiceOptions {vm : VirtualMachine} {config : BuildConfig} {ns : List Node}
    (h : (spiceOptions vm config).MayReturn given ns) : EveryIn (Keyed K) ns := by
  unfold spiceOptions at h
  cases hssl : config.settings.sslEnabled <;>
  · simp only [hssl, if_true, Bool.false_eq_true, if_false, mayReturn_bind, mayEnd_pure,
      Except.ok.injEq] at h
    obtain ⟨channels, -, rfl⟩ := h
    simp +decide [flag]

lemma keyed_display {vm : VirtualMachine} {config : BuildConfig} {d : Display}
    {network : Option Network} {n : Node}
    (h : (display vm config d network).MayReturn given n) : n.Every (Keyed K) := by
  unfold display at h
  cases htype : d.type with
  | spice =>
    simp only [htype, mayReturn_bind, mayEnd_pure, Except.ok.injEq] at h
    obtain ⟨options, hoptions, rfl⟩ := h
    have := keyed_spiceOptions (K := K) hoptions
    cases network <;> simp +decide [ticketAttributes, keyed_listen, this]
  | vnc =>
    simp only [htype, mayEnd_pure, Except.ok.injEq] at h
    subst h
    cases network <;> simp +decide [ticketAttributes, keyed_listen]

/-- The address of a device on its host has fixed keys. -/
lemma keys_sourceAddress? {capability : HostCapability} {source : Address}
    (h : capability.sourceAddress? = some source) : ∀ key ∈ source.keys, key ∈ fixedKeys := by
  have hfixed (attributes : List (String × String))
      (hkeys : ∀ key ∈ attributes.map Prod.fst, key ∈ fixedKeys) :
      ∀ key ∈ (Address.ofList attributes).keys, key ∈ fixedKeys :=
    fun key hkey => hkeys key (Address.keys_ofList hkey)
  unfold HostCapability.sourceAddress? at h
  split at h
  · cases h
    exact hfixed _ (by simp +decide)
  · cases h
    exact hfixed _ (by simp +decide)
  · cases h
    exact hfixed _ (by simp +decide)
  · cases h

lemma keyed_passthrough (type : String) (adapter : Option String) {source a : Address}
    (hsource : ∀ key ∈ source.keys, key ∈ fixedKeys) (ha : ∀ key ∈ a.keys, K key) :
    (passthrough type adapter source a).Every (Keyed K) := by
  have ha := keyed_addressNodes ha
  have hsource : ∀ key ∈ source.attributes.map Prod.fst, key ∈ fixedKeys ∨ K key :=
    fun key hkey => .inl (hsource key hkey)
  unfold passthrough
  cases adapter <;> simpa +decide [flag, ha] using hsource

lemma keyed_hostDevice {name : String} {placeholder : Bool} {found : Option HostDevice}
    {a : Address} (ha : ∀ key ∈ a.keys, K key) {ns : List Node}
    (h : (hostDevice name placeholder found a).MayReturn given ns) : EveryIn (Keyed K) ns := by
  rcases mayReturn_hostDevice h with rfl | ⟨d, type, adapter, source, hsource, rfl⟩
  · exact everyIn_nil
  · exact List.forall_mem_singleton.mpr (keyed_passthrough _ _ (keys_sourceAddress? hsource) ha)

/-- A peripheral has fixed keys and those of its address. -/
lemma keyed_peripheral {vm : VirtualMachine} {host : Uuid} {config : BuildConfig}
    {p : Peripheral} (ha : ∀ key ∈ p.address.keys, K key) {ns : List Node}
    (h : (peripheral vm host config p).MayReturn given ns) : EveryIn (Keyed K) ns := by
  unfold peripheral at h
  cases hkind : p.kind with
  | graphics d =>
    simp only [hkind, mayReturn_bind, mayEnd_pure, Except.ok.injEq] at h
    obtain ⟨network, -, n, hn, rfl⟩ := h
    simpa using keyed_display hn
  | hostDevice name placeholder =>
    simp only [hkind, mayReturn_bind] at h
    obtain ⟨devices, -, h⟩ := h
    exact keyed_hostDevice ha h
  | video v =>
    simp only [hkind, mayEnd_pure, Except.ok.injEq] at h
    subst h
    simp [keyed_video v ha]
  | controller c =>
    simp only [hkind, mayEnd_pure, Except.ok.injEq] at h
    subst h
    simp [keyed_controller c ha]
  | rng r =>
    simp only [hkind, mayEnd_pure, Except.ok.injEq] at h
    subst h
    simp [keyed_rng]
  | console c =>
    simp only [hkind, mayEnd_pure, Except.ok.injEq] at h
    subst h
    simp [keyed_console]
  | _ =>
    simp only [hkind, mayEnd_pure, Except.ok.injEq] at h
    subst h
    simpa using keyed_placed (by simp +decide) ha

/-! ### Interfaces -/

lemma keyed_bridgeNodes {vm : VirtualMachine} {nic : Nic} {backing : Option NicBacking}
    {ns : List Node} (h : (bridgeNodes vm nic backing).MayReturn given ns) :
    EveryIn (Keyed K) ns := by
  simp only [bridgeNodes, mayReturn_bind, mayEnd_pure, Except.ok.injEq] at h
  obtain ⟨driver, -, rfl⟩ := h
  have hdriver (queues : Option String) : EveryIn (Keyed K) (driverNodes queues driver) := by
    cases queues <;> cases driver <;> simp +decide [driverNodes, flag]
  simp +decide [flag, hdriver]

lemma keyed_interface {vm : VirtualMachine} {d : InterfaceDevice} {nic : Nic}
    {backing : Option NicBacking} {position : Nat} {n : Node}
    (ha : ∀ key ∈ d.device.address.keys, K key)
    (h : (interface vm d nic backing position).MayReturn given n) : n.Every (Keyed K) := by
  have ha := keyed_addressNodes ha
  have hmac : (flag "mac" "address" nic.mac).Every (Keyed K) := by simp +decide [flag]
  have hfilter : EveryIn (Keyed K) (filterNodes backing) := by simp +decide [filterNodes]
  have hbuffer : EveryIn (Keyed K) (sendBuffer vm) := by simp +decide [sendBuffer]
  have hbandwidth : (bandwidth backing).Every (Keyed K) := by
    simp +decide [bandwidth, limitNode]
  unfold interface at h
  cases hkind : d.kind with
  | bridge =>
    simp only [hkind, mayReturn_bind, mayEnd_pure, Except.ok.injEq] at h
    obtain ⟨nodes, hnodes, -, rfl, rfl⟩ := h
    simp +decide [keyed_bridgeNodes hnodes, ha, keyed_bootNodes, hmac, hfilter, hbuffer,
      hbandwidth]
  | hostdev =>
    simp only [hkind, mayReturn_bind, mayEnd_pure, Except.ok.injEq] at h
    obtain ⟨-, rfl, rfl⟩ := h
    have hfirst : EveryIn (Keyed K) (hostdevNodes backing) := by
      simp +decide [hostdevNodes, flag]
    simp +decide [hfirst, ha, keyed_bootNodes, hmac, hfilter, hbuffer, hbandwidth]

lemma keyed_interfaceNodes {vm : VirtualMachine} {order : BootOrder} {d : InterfaceDevice}
    {ns : List Node} (ha : ∀ key ∈ d.device.address.keys, K key)
    (h : (interfaceNodes vm order d).MayReturn given ns) : EveryIn (Keyed K) ns := by
  unfold interfaceNodes at h
  split at h
  · simp only [mayReturn_bind, mayEnd_pure, Except.ok.injEq] at h
    obtain ⟨-, -, rfl⟩ := h
    exact everyIn_nil
  · simp only [mayReturn_bind, mayEnd_pure, Except.ok.injEq] at h
    obtain ⟨backing, -, n, hn, rfl⟩ := h
    simpa using keyed_interface ha hn

/-! ### Disks -/

lemma keyed_target (bus : TargetBus) (index : Nat) : (target bus index).Every (Keyed K) := by
  simp +decide [target]

lemma keyed_removable (device source : String) (bus : TargetBus) (index : Nat) {rest : List Node}
    (hrest : EveryIn (Keyed K) rest) :
    (removable device source (target bus index) rest).Every (Keyed K) := by
  simp +decide [removable, keyed_target, hrest]

/-- The address of a disk on a drive controller has fixed keys. -/
lemma keyed_driveNodes (controller unit : Nat) :
    EveryIn (Keyed K) (addressNodes (.drive controller unit)) := by
  simp only [addressNodes, everyIn_ite, everyIn_nil, implies_true, true_and, everyIn_cons,
    every_leaf, keyed_element, and_true]
  have hfixed : ∀ key ∈ ["type", "controller", "bus", "target", "unit"], key ∈ fixedKeys := by
    decide
  exact fun _ key hkey => .inl (hfixed key (Address.keys_ofList hkey))

lemma keyed_removableNodes {vm : VirtualMachine} {cs : DeviceClasses}
    (hcdroms : ∀ d ∈ cs.cdroms, ∀ key ∈ d.address.keys, K key)
    (hfloppy : ∀ d ∈ cs.floppy, ∀ key ∈ d.address.keys, K key) :
    EveryIn (Keyed K) (removableNodes vm cs) := by
  have hpayload (cd : CdInterface) (index : Nat) : (payloadCdrom cd index).Every (Keyed K) := by
    refine keyed_removable _ _ _ _ ?_
    split
    · exact keyed_driveNodes 0 index
    · exact everyIn_nil
  have huser (index : Nat) (order : BootOrder) :
      (userCdrom vm cs.indices.cd index (userDevice? cs.cdroms) order).Every (Keyed K) := by
    refine keyed_removable _ _ _ _ ?_
    split
    next d hd =>
      have ha := hcdroms d (List.mem_of_find?_eq_some hd)
      exact everyIn_append.mpr ⟨keyed_addressNodes ha, keyed_bootNodes _⟩
    · exact everyIn_nil
  rw [removableNodes_eq]
  simp only [everyIn_append, everyIn_ite, everyIn_cons, everyIn_nil, everyIn_map, Option.mem_toList,
    huser, implies_true, and_true]
  refine ⟨fun n hn => ?_, fun d hd => ?_⟩
  · exact List.eq_of_mem_replicate hn ▸ hpayload _ _
  · exact keyed_removable _ _ _ _ (keyed_addressNodes (hfloppy d hd))

lemma keyed_diskAttributes (d : PlacedDisk) :
    ∀ key ∈ (diskAttributes d).map Prod.fst, key ∈ fixedKeys := by
  unfold diskAttributes
  cases d.disk.attachment.interface with
  | virtioScsi =>
    by_cases hpass : (d.disk.backend.isLun && d.disk.scsiPassthrough) = true
    · simp only [hpass, if_true]
      cases d.disk.sgio <;> simp +decide [keys_attributeIf]
    · simp +decide [hpass]
  | _ => simp +decide

lemma keyed_diskTarget (d : PlacedDisk) : (diskTarget d).Every (Keyed K) := by
  unfold diskTarget
  split
  · exact keyed_target _ _
  · simp

lemma keyed_diskSource (d : PlacedDisk) : (diskSource d).Every (Keyed K) := by
  unfold diskSource
  split
  case h_1 image _ =>
    cases d.block <;>
    · cases image.domains.head? <;> simp +decide [keys_attributeIf]
  all_goals simp +decide

lemma keyed_diskDriver {config : BuildConfig} {d : PlacedDisk} {n : Node}
    (h : (diskDriver config d).MayReturn given n) : n.Every (Keyed K) := by
  simp only [diskDriver, mayReturn_bind, mayEnd_pure, Except.ok.injEq] at h
  obtain ⟨thread, -, rfl⟩ := h
  unfold backendAttributes
  cases thread <;> cases d.disk.backend <;>
    cases config.passDiscard && d.disk.attachment.passDiscard <;>
    simp +decide [keys_attributeIf]

/-- The limits of a profile have fixed names. -/
lemma keys_limits {q : StorageQos} {limits : List (String × Nat)} (h : q.limits? = some limits) :
    ∀ key ∈ limits.map Prod.fst, key ∈ fixedKeys := by
  have hlimit (name : String) (value : Option Nat) (hname : name ∈ fixedKeys) :
      ∀ key ∈ (StorageQos.limit name value).map Prod.fst, key ∈ fixedKeys := by
    cases value <;> simp [StorageQos.limit, hname]
  simp only [StorageQos.limits?, Option.bind_eq_bind, Option.bind_eq_some_iff, Option.pure_def,
    Option.some.injEq] at h
  obtain ⟨total, -, read, -, write, -, rfl⟩ := h
  simp only [List.map_append, List.forall_mem_append]
  exact ⟨⟨⟨⟨⟨hlimit _ _ (by decide), hlimit _ _ (by decide)⟩, hlimit _ _ (by decide)⟩,
    hlimit _ _ (by decide)⟩, hlimit _ _ (by decide)⟩, hlimit _ _ (by decide)⟩

lemma keyed_diskPolicy {d : PlacedDisk} {ns : List Node}
    (h : (diskPolicy d).MayReturn given ns) : EveryIn (Keyed K) ns := by
  unfold diskPolicy at h
  split at h
  · simp only [mayReturn_bind, mayReturn_exact, mayEnd_pure, Except.ok.injEq] at h
    obtain ⟨limits, hlimits, rfl⟩ := h
    have hkeys := keys_limits hlimits
    simp only [everyIn_cons, every_leaf, keyed_element, everyIn_nil, and_true, List.map_map]
    exact fun key hkey => .inl (hkeys key hkey)
  · cases h
    simp +decide
  · cases h
    exact everyIn_nil

lemma keyed_disk {config : BuildConfig} {d : PlacedDisk} {n : Node}
    (ha : ∀ key ∈ d.device.address.keys, K key)
    (h : (disk config d).MayReturn given n) : n.Every (Keyed K) := by
  simp only [disk, mayReturn_bind, mayEnd_pure, Except.ok.injEq] at h
  obtain ⟨driver, hdriver, policy, hpolicy, rfl⟩ := h
  have hkeys : ∀ key ∈ (diskAttributes d).map Prod.fst,
      key ∈ fixedKeys ∨ "disk" = "address" ∧ K key :=
    fun key hkey => .inl (keyed_diskAttributes d key hkey)
  simp only [every_element, keyed_element, everyIn_append, everyIn_cons, everyIn_nil, and_true]
  refine ⟨hkeys, ⟨⟨⟨⟨⟨⟨keyed_diskTarget d, keyed_diskSource d, keyed_diskDriver hdriver⟩,
    keyed_addressNodes ha⟩, keyed_bootNodes _⟩, ?_⟩, ?_⟩, ?_⟩, keyed_diskPolicy hpolicy⟩
  · simp +decide
  · simp +decide
  · simp +decide

lemma keyed_disks {vm : VirtualMachine} {config : BuildConfig} {devices : List Device}
    {order : BootOrder} {ix : DiskIndices} {ns : List Node}
    (ha : ∀ d ∈ devices, ∀ key ∈ d.address.keys, K key)
    (h : (disks vm config devices order ix).MayReturn given ns) : EveryIn (Keyed K) ns := by
  intro n hn
  obtain ⟨x, hx, hnode⟩ := exists_mem_of_mayReturn_mapM h hn
  simp only [mayReturn_bind] at hnode
  obtain ⟨storage, -, hnode⟩ := hnode
  have hdevice : x.2.1 ∈ devices := by
    have hx := (List.mem_filter.mp hx).1
    rw [indexedDisks_eq] at hx
    exact (mem_pluggedDisks (mem_of_mem_numbered hx)).2.1
  exact keyed_disk (ha x.2.1 hdevice) hnode

/-! ### The root -/

lemma keyed_deviceNodes {req : Request} {config : BuildConfig} {ix : DiskIndices}
    {started : List Device} {devices : List Node}
    (h : (deviceNodes req config (.ofDevices ix started)).MayReturn given devices) :
    EveryIn (Keyed (IsAddressKey started)) devices := by
  obtain ⟨hperipheral, hfloppy⟩ := DeviceClasses.madeOf_ofDevices ix started
  obtain ⟨peripherals, hperipherals, interfaces, hinterfaces, diskNodes, hdisks, rfl⟩ :=
    mayReturn_deviceNodes.mp h
  have hallowed {d : Device} (hd : d ∈ started) (hplugged : d.plugged) :
      ∀ key ∈ d.address.keys, IsAddressKey started key :=
    fun key hkey => ⟨d, hd, hplugged, hkey⟩
  have hdisk {subtype : String} {d : Device}
      (hd : d ∈ started.filter (DeviceClasses.isDiskOf subtype)) :
      ∀ key ∈ d.address.keys, IsAddressKey started key := by
    obtain ⟨hd, hof⟩ := List.mem_filter.mp hd
    exact hallowed hd (DeviceClasses.plugged_of_isDiskOf hof)
  have hperipherals : EveryIn (Keyed (IsAddressKey started)) peripherals.flatten := by
    refine everyIn_flatten.mpr fun ns hns => ?_
    obtain ⟨p, hp, hns⟩ := exists_mem_of_mayReturn_mapM hperipherals hns
    obtain ⟨d, hd, hplugged, haddress⟩ := hperipheral p hp
    exact keyed_peripheral (haddress ▸ hallowed hd hplugged) hns
  have hinterfaces : EveryIn (Keyed (IsAddressKey started)) interfaces.flatten := by
    refine everyIn_flatten.mpr fun ns hns => ?_
    obtain ⟨i, hi, hns⟩ := exists_mem_of_mayReturn_mapM hinterfaces hns
    rw [DeviceClasses.interfaces_ofDevices] at hi
    obtain ⟨d, hd, hid⟩ := List.mem_filterMap.mp hi
    have hplugged := DeviceClasses.plugged_of_interfaceDevice? hid
    rw [← DeviceClasses.device_of_interfaceDevice? hid] at hd hplugged
    exact keyed_interfaceNodes (hallowed hd hplugged) hns
  rw [DeviceClasses.disks_ofDevices] at hdisks
  have hremovable : EveryIn (Keyed (IsAddressKey started))
      (removableNodes req.vm (.ofDevices ix started)) := by
    refine keyed_removableNodes ?_ fun d hd => hallowed (hfloppy d hd).1 (hfloppy d hd).2
    rw [DeviceClasses.cdroms_ofDevices]
    exact fun d => hdisk
  simp only [everyIn_append]
  exact ⟨⟨⟨⟨⟨keyed_fixedDevices _, hperipherals⟩, keyed_dependentDevices _ _⟩, hinterfaces⟩,
    hremovable⟩, keyed_disks (fun d => hdisk) hdisks⟩

end Descriptor

/-- **Keys are fixed ones, but for those of addresses**, which plugged devices have. -/
theorem Request.keyed_root {fresh : FreshIds} {req : Request} {config : EngineConfig}
    {stores : Stores} {root : Node} (h : req.root fresh config stores = .ok root) :
    ∃ stored, stores [] (.devicesForVm req.vm.id) = .ok stored ∧
      root.Every (Descriptor.Keyed
        (IsAddressKey (RunOnce.devices fresh req.vm req.payload stored))) := by
  obtain ⟨stored, hstored, sizingNodes, hsizing, cpuNode, hcpu, devices, hdevices, rfl⟩ :=
    exists_stored h
  exact ⟨stored, hstored,
    Descriptor.keyed_sections hsizing hcpu (Descriptor.keyed_deviceNodes hdevices)⟩

lemma Fixture.keyed_root {f : Fixture} {fresh : FreshIds} {config : EngineConfig} {root : Node}
    (h : f.root fresh config = .ok root) :
    root.Every (Descriptor.Keyed (IsAddressKey (f.startDevices fresh))) := by
  obtain ⟨stored, hstored, hkeyed⟩ := Request.keyed_root h
  obtain rfl : f.inventory.devicesOf f.vm.id = stored := Except.ok.inj hstored
  exact hkeyed

end VmDescriptor
