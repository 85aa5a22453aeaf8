import VmDescriptor.Proofs.Descriptor.Failures

/-!
Encoders are balanced.

Whatever an encoder looks up on its way, it writes complete trees. So it never misuses the writer,
and the elements that are open when it starts are the ones that are open when it is done. This
holds of the encoder of every section and device, and of the loops over them.
-/

namespace VmDescriptor.Encoder

open Program Text Xml

/-- What the encoder does to a draft, when some lookups have been made and some answers are
remembered from before. -/
def resultOn {α : Type} (e : Encoder α) (d : Draft) (memory : Memory) (stores : Stores)
    (past : List Lookup) : Except BuildError (α × Draft) :=
  (runFrom stores past (remembering memory (e.run d))).result

/-- Wherever the encoder is carried out, and whatever is remembered and the stores answer, it does
not misuse the writer, and if it succeeds then the elements are open that were open before. -/
structure KeepsOpen {α : Type} (e : Encoder α) : Prop where
  noMisuse : ∀ d memory stores past misuse,
    e.resultOn d memory stores past ≠ .error (.document misuse)
  openNames : ∀ d memory stores past a d', e.resultOn d memory stores past = .ok (a, d') →
    d'.writer.openNames = d.writer.openNames

/-- The encoders of sections and devices, of the parts that these have in common, and the loops
over them. -/
inductive IsEncoder : {α : Type} → Encoder α → Prop
  | sizing (vm : VirtualMachine) (config : BuildConfig) : IsEncoder (sizing vm config)
  | metadata (vm : VirtualMachine) : IsEncoder (metadata vm)
  | sysinfo (vm : VirtualMachine) : IsEncoder (sysinfo vm)
  | clock (vm : VirtualMachine) (config : BuildConfig) : IsEncoder (clock vm config)
  | powerEvents (isVolatile : Bool) : IsEncoder (powerEvents isVolatile)
  | features (vm : VirtualMachine) (config : BuildConfig) : IsEncoder (features vm config)
  | cpu (vm : VirtualMachine) (config : BuildConfig) (params : CreateParams) :
    IsEncoder (cpu vm config params)
  | cpuTune (params : CreateParams) : IsEncoder (cpuTune params)
  | numaTune (params : CreateParams) : IsEncoder (numaTune params)
  | os (vm : VirtualMachine) (config : BuildConfig) (serial : Bool) :
    IsEncoder (os vm config serial)
  | address (a : Address) : IsEncoder (address a)
  | bootOrder (position : Nat) : IsEncoder (bootOrder position)
  | input (vm : VirtualMachine) : IsEncoder (input vm)
  | agentChannels (vm : Uuid) (names : List String) : IsEncoder (each names (agentChannel vm))
  | emulator (vm : VirtualMachine) : IsEncoder (emulator vm)
  | console (vm : Uuid) (c : Console) : IsEncoder (console vm c)
  | serial (path : String) : IsEncoder (serial path)
  | spiceChannel : IsEncoder spiceChannel
  | balloon (model : String) (a : Address) : IsEncoder (balloon model a)
  | noBalloon : IsEncoder noBalloon
  | smartcard (mode type : String) (a : Address) : IsEncoder (smartcard mode type a)
  | watchdog (model action : String) (a : Address) : IsEncoder (watchdog model action a)
  | video (v : Video) (a : Address) : IsEncoder (video v a)
  | controller (c : Controller) (a : Address) : IsEncoder (controller c a)
  | sound (model : String) (a : Address) : IsEncoder (sound model a)
  | rng (r : Rng) : IsEncoder (rng r)
  | redirection (a : Address) : IsEncoder (redirection a)
  | lease (vm : Uuid) (l : Lease) : IsEncoder (lease vm l)
  | display (vm : VirtualMachine) (config : BuildConfig) (d : Display)
    (network : Option Network) : IsEncoder (display vm config d network)
  | hostDevice (name : String) (iommuPlaceholder : Bool) (found : Option HostDevice)
    (a : Address) : IsEncoder (hostDevice name iommuPlaceholder found a)
  | peripheral (vm : VirtualMachine) (host : Uuid) (config : BuildConfig) (p : Peripheral) :
    IsEncoder (peripheral vm host config p)
  | peripherals (vm : VirtualMachine) (host : Uuid) (config : BuildConfig)
    (ps : List Peripheral) : IsEncoder (peripherals vm host config ps)
  | interface (vm : VirtualMachine) (d : InterfaceDevice) (nic : Nic)
    (backing : Option Descriptor.NicBacking) (position : Nat) :
    IsEncoder (interface vm d nic backing position)
  | interfaces (vm : VirtualMachine) (order : BootOrder) (devices : List InterfaceDevice) :
    IsEncoder (each devices (interfaceOf vm order))
  | payloadCdrom (cd : CdInterface) (index : Nat) : IsEncoder (payloadCdrom cd index)
  | userCdrom (vm : VirtualMachine) (cd : CdInterface) (index : Nat) (device : Option Device)
    (order : BootOrder) : IsEncoder (userCdrom vm cd index device order)
  | payloadCdroms (cdroms : List Device) (ix : DiskIndices) : IsEncoder (payloadCdroms cdroms ix)
  | userCdroms (vm : VirtualMachine) (cdroms : List Device) (order : BootOrder)
    (ix : DiskIndices) : IsEncoder (userCdroms vm cdroms order ix)
  | floppy (vm : VirtualMachine) (d : Device) : IsEncoder (floppy vm d)
  | disk (config : BuildConfig) (d : Descriptor.PlacedDisk) : IsEncoder (disk config d)
  | disks (vm : VirtualMachine) (config : BuildConfig) (devices : List Device)
    (order : BootOrder) (ds : List Disk) (ix : DiskIndices) :
    IsEncoder (disks vm.id config devices order ds ix)
  | devices (fresh : FreshIds) (req : Request) (config : BuildConfig) :
    IsEncoder (devices fresh req config)

section

variable {α β : Type} {e : Encoder α}

/-- An encoder that finds out what to write by a program of its own, and that writes it as
complete trees, is balanced if that program is no misuse of the writer. -/
lemma keepsOpen_of_run {p : Program β} (result : β → α) (nodes : β → List Node)
    (hrun : ∀ d, e.run d = p >>= fun b => pure (result b, d.add (nodes b)))
    (hown : ∀ {cause}, p.MayFail (fun _ _ => True) cause → cause.IsOwn) : KeepsOpen e := by
  have hend (d : Draft) (memory : Memory) (stores : Stores) (past : List Lookup) :
      (∃ b, e.resultOn d memory stores past = .ok (result b, d.add (nodes b))) ∨
        ∃ cause, e.resultOn d memory stores past = .error cause ∧
          (cause.IsOwn ∨ ∃ lookup, cause = .lookup lookup) := by
    have h : (e.run d).MayEnd (fun _ _ => True) (e.resultOn d memory stores past) ∨
        ∃ lookup, e.resultOn d memory stores past = .error (.lookup lookup) :=
      mayEnd_of_runFrom_remembering memory stores past (e.run d)
    rw [hrun, mayEnd_bind] at h
    rcases h with (⟨b, -, h⟩ | ⟨cause, hcause, h⟩) | ⟨lookup, h⟩
    · exact .inl ⟨b, mayEnd_pure.mp h⟩
    · exact .inr ⟨cause, h, .inl (hown hcause)⟩
    · exact .inr ⟨_, h, .inr ⟨lookup, rfl⟩⟩
  constructor
  · intro d memory stores past misuse h
    rcases hend d memory stores past with ⟨b, hb⟩ | ⟨cause, hcause, hown | ⟨lookup, rfl⟩⟩
    · cases hb.symm.trans h
    · cases hcause.symm.trans h
      exact hown
    · cases hcause.symm.trans h
  · intro d memory stores past a d' h
    rcases hend d memory stores past with ⟨b, hb⟩ | ⟨cause, hcause, -⟩
    · cases hb.symm.trans h
      exact d.openNames_add (nodes b)
    · cases hcause.symm.trans h

lemma keepsOpen_of_encodes {e : Encoder Unit} {p : Program (List Node)} (h : Encodes e p)
    (hown : ∀ {cause}, p.MayFail (fun _ _ => True) cause → cause.IsOwn) : KeepsOpen e :=
  keepsOpen_of_run (fun _ => ()) id h hown

lemma keepsOpen_of_run_pure {a : α} {ns : List Node}
    (hrun : ∀ d, e.run d = pure (a, d.add ns)) : KeepsOpen e := by
  refine keepsOpen_of_run (p := pure ()) (fun _ => a) (fun _ => ns) (fun d => ?_) nofun
  rw [hrun, pure_bind]

lemma keepsOpen_of_writes {e : Encoder Unit} {ns : List Node} (h : Writes e ns) : KeepsOpen e :=
  keepsOpen_of_run_pure h

end

/-- What the devices are is looked up before they are written. -/
lemma keepsOpen_devices (fresh : FreshIds) (req : Request) (config : BuildConfig) :
    KeepsOpen (devices fresh req config) := by
  let classified := Descriptor.classified fresh req config
  let p : Program (List Device × List Node) := do
    let stored ← Program.lookup (.devicesForVm req.vm.id)
    let ns ← Descriptor.deviceNodes req config (classified stored)
    return (stored, ns)
  refine keepsOpen_of_run (p := p)
    (fun r => (classified r.1).serialConsole?.map (socketPath req.vm.id))
    (fun r => [.element "devices" [] r.2]) (fun d => ?_) fun h => ?_
  · rw [run_devices]
    simp [p, classified]
  · simp only [p, mayFail_bind, mayEnd_pure, reduceCtorEq, and_false, exists_false, or_false] at h
    rcases h with h | ⟨stored, -, h⟩
    · exact absurd h (not_mayFail_lookup _)
    · exact Descriptor.isOwn_of_deviceNodes h

/-- **Encoders are balanced**: each leaves the elements open that it finds open. -/
lemma keepsOpen_of_isEncoder {α : Type} {e : Encoder α} (h : IsEncoder e) : KeepsOpen e := by
  cases h with
  | sizing vm config =>
    exact keepsOpen_of_encodes (encodes_sizing vm config) fun h =>
      BuildError.isOwn_of_eq_overflow (Descriptor.eq_overflow_of_sizing h)
  | metadata vm => exact keepsOpen_of_writes (writes_metadata vm)
  | sysinfo vm => exact keepsOpen_of_writes (writes_sysinfo vm)
  | clock vm config => exact keepsOpen_of_writes (writes_clock vm config)
  | powerEvents isVolatile => exact keepsOpen_of_writes (writes_powerEvents isVolatile)
  | features vm config => exact keepsOpen_of_writes (writes_features vm config)
  | cpu vm config params =>
    exact keepsOpen_of_encodes (encodes_cpu vm config params) fun h => by
      simp only [bind_pure_comp, mayFail_map] at h
      exact BuildError.isOwn_of_eq_overflow (Descriptor.eq_overflow_of_cpu h)
  | cpuTune params => exact keepsOpen_of_writes (writes_cpuTune params)
  | numaTune params => exact keepsOpen_of_writes (writes_numaTune params)
  | os vm config serial => exact keepsOpen_of_writes (writes_os vm config serial)
  | address a => exact keepsOpen_of_writes (writes_address a)
  | bootOrder position => exact keepsOpen_of_writes (writes_bootOrder position)
  | input vm => exact keepsOpen_of_writes (writes_input vm)
  | agentChannels vm names =>
    exact keepsOpen_of_writes (writes_each (writes_agentChannel vm) names)
  | emulator vm => exact keepsOpen_of_writes (writes_emulator vm)
  | console vm c => exact keepsOpen_of_writes (writes_console vm c)
  | serial path => exact keepsOpen_of_writes (writes_serial path)
  | spiceChannel => exact keepsOpen_of_writes writes_spiceChannel
  | balloon model a => exact keepsOpen_of_writes (writes_balloon model a)
  | noBalloon => exact keepsOpen_of_writes writes_noBalloon
  | smartcard mode type a => exact keepsOpen_of_writes (writes_smartcard mode type a)
  | watchdog model action a => exact keepsOpen_of_writes (writes_watchdog model action a)
  | video v a => exact keepsOpen_of_writes (writes_video v a)
  | controller c a => exact keepsOpen_of_writes (writes_controller c a)
  | sound model a => exact keepsOpen_of_writes (writes_sound model a)
  | rng r => exact keepsOpen_of_writes (writes_rng r)
  | redirection a => exact keepsOpen_of_writes (writes_redirection a)
  | lease vm l => exact keepsOpen_of_writes (writes_lease vm l)
  | display vm config d network =>
    exact keepsOpen_of_encodes (encodes_display vm config d network) fun h => by
      simp only [bind_pure_comp, mayFail_map] at h
      exact absurd h Descriptor.not_mayFail_display
  | hostDevice name iommuPlaceholder found a =>
    exact keepsOpen_of_encodes (encodes_hostDevice name iommuPlaceholder found a) fun h =>
      absurd h Descriptor.not_mayFail_hostDevice
  | peripheral vm host config p =>
    exact keepsOpen_of_run (fun _ => serialPath? vm.id p) id
      (fun d => run_peripheral vm host config d p)
      fun h => absurd h Descriptor.not_mayFail_peripheral
  | peripherals vm host config ps =>
    exact keepsOpen_of_run (fun _ => ps.reverse.findSome? (serialPath? vm.id)) List.flatten
      (fun d => run_peripherals vm host config d ps) fun h => by
        obtain ⟨p, -, h⟩ := mayFail_mapM h
        exact absurd h Descriptor.not_mayFail_peripheral
  | interface vm d nic backing position =>
    exact keepsOpen_of_encodes (encodes_interface vm d nic backing position) fun h => by
      simp only [bind_pure_comp, mayFail_map] at h
      exact absurd h Descriptor.not_mayFail_interface
  | interfaces vm order devices =>
    exact keepsOpen_of_encodes (encodes_each (encodes_interfaceOf vm order) devices) fun h => by
      simp only [bind_pure_comp, mayFail_map] at h
      obtain ⟨d, -, h⟩ := mayFail_mapM h
      exact absurd h Descriptor.not_mayFail_interfaceNodes
  | payloadCdrom cd index => exact keepsOpen_of_writes (writes_payloadCdrom cd index)
  | userCdrom vm cd index device order =>
    exact keepsOpen_of_writes (writes_userCdrom vm cd index device order)
  | payloadCdroms cdroms ix =>
    exact keepsOpen_of_run_pure fun d => run_payloadCdroms d cdroms ix
  | userCdroms vm cdroms order ix =>
    exact keepsOpen_of_run_pure fun d => run_userCdroms d vm cdroms order ix
  | floppy vm d => exact keepsOpen_of_writes (writes_floppy vm d)
  | disk config d =>
    exact keepsOpen_of_encodes (encodes_disk d config) fun h => by
      simp only [bind_pure_comp, mayFail_map] at h
      exact BuildError.isOwn_of_eq_overflow (Descriptor.eq_overflow_of_disk h)
  | disks vm config devices order ds ix =>
    exact keepsOpen_of_encodes (run_disks vm config devices order ds ix) fun h => by
      obtain ⟨x, -, h⟩ := mayFail_mapM h
      rcases mayFail_bind.mp h with hstorage | ⟨_, -, hdisk⟩
      · exact Descriptor.isOwn_of_diskStorage hstorage
      · exact BuildError.isOwn_of_eq_overflow (Descriptor.eq_overflow_of_disk hdisk)
  | devices fresh req config => exact keepsOpen_devices fresh req config

end VmDescriptor.Encoder
