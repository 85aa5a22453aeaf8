import VmDescriptor.Encoder.Peripherals
import VmDescriptor.Proofs.Encoder.Basic
import VmDescriptor.Proofs.SortedMap

/-!
What the encoders of peripherals write: input devices, channels, consoles, emulated devices,
remote displays and devices of the host.

The loop over the peripherals also returns something: the path of the last serial console.
-/

namespace VmDescriptor.Encoder

open Program Text Xml

/-! ### Consoles -/

section

variable (vm : VirtualMachine)

/-- One display that is a VNC display is the same as the list of displays being that one. -/
lemma onlyVnc_iff :
    (vm.graphics.size = 1 ∧ vm.graphics.contains .vnc) ↔ vm.graphics.keys = [.vnc] := by
  rw [SortedMap.contains_iff_mem_keys, SortedMap.size, ← List.length_map Prod.fst]
  constructor
  · rintro ⟨hsize, hvnc⟩
    obtain ⟨type, h⟩ := List.length_eq_one_iff.mp hsize
    have hkeys : vm.graphics.keys = [type] := h
    rw [hkeys, List.mem_singleton] at hvnc
    rw [hkeys, hvnc]
  · intro h
    exact ⟨congrArg List.length h, h ▸ List.mem_singleton_self _⟩

lemma writes_input : Writes (input vm) [Descriptor.input vm] := by
  intro d
  unfold input Descriptor.input
  simp only [onlyVnc_iff]
  split
  · simp
  · cases vm.arch.family <;> simp

lemma writes_agentChannel (id : Uuid) (name : String) :
    Writes (agentChannel id name) [Descriptor.agentChannel id name] := by
  intro d
  simp [agentChannel, Descriptor.agentChannel, Node.leaf]

lemma writes_emulator : Writes (emulator vm) (Descriptor.emulator vm) := by
  intro d
  unfold emulator Descriptor.emulator
  cases vm.arch.family with
  | x86 => simp
  | ppc => simp [Descriptor.flag]

/-- The socket at a path; the empty path stands for a pseudo-terminal. -/
def socketAt? (path : String) : Option String :=
  if path = "" then none else some path

lemma socketAt?_socketPath (id : Uuid) (c : Console) :
    socketAt? (socketPath id c) = Descriptor.socket? id c := by
  unfold socketAt? socketPath Descriptor.socket?
  by_cases hsocket : c.enableSocket
  · have hpath : "/var/run/ovirt-vmconsole-console/" ++ id.text ++ ".sock" ≠ "" := by
      simp [String.ext_iff]
    simp [hsocket, hpath]
  · simp [hsocket]

/-- The host's end of a console is written in an element without content. -/
lemma run_hostEnd (d : Draft) (name path : String) :
    (hostEnd path).run (d.opened name []) =
      pure ((), (d.opened name (Descriptor.hostEnd (socketAt? path)).1).add
        (Descriptor.hostEnd (socketAt? path)).2) := by
  unfold hostEnd socketAt?
  split
  · simp [Descriptor.hostEnd]
  · simp [Descriptor.hostEnd]

lemma writes_console (id : Uuid) (c : Console) :
    Writes (console id c) [Descriptor.console id c] := by
  intro d
  simp [console, Descriptor.console, run_hostEnd, socketAt?_socketPath]

lemma writes_serial (path : String) :
    Writes (serial path) [.element "serial" (Descriptor.hostEnd (socketAt? path)).1
      ((Descriptor.hostEnd (socketAt? path)).2 ++ [.leaf "target" [("port", "0")]])] := by
  intro d
  simp [serial, run_hostEnd]

lemma writes_serial_socketPath (id : Uuid) (c : Console) :
    Writes (serial (socketPath id c)) [Descriptor.serial id c] := by
  have hserial := writes_serial (socketPath id c)
  rwa [socketAt?_socketPath] at hserial

lemma writes_spiceChannel : Writes spiceChannel [Descriptor.spiceChannel] := by
  intro d
  simp [spiceChannel, Descriptor.spiceChannel]

end

/-! ### Emulated devices -/

lemma writes_balloon (model : String) (a : Address) :
    Writes (balloon model a) [Descriptor.placed "memballoon" [("model", model)] a] := by
  intro d
  simp [balloon, Descriptor.placed]

lemma writes_noBalloon : Writes noBalloon [Descriptor.noBalloon] :=
  writes_leaf "memballoon" [("model", "none")]

lemma writes_smartcard (mode type : String) (a : Address) :
    Writes (smartcard mode type a)
      [Descriptor.placed "smartcard" [("mode", mode), ("type", type)] a] := by
  intro d
  simp [smartcard, Descriptor.placed]

lemma writes_watchdog (model action : String) (a : Address) :
    Writes (watchdog model action a)
      [Descriptor.placed "watchdog" [("model", model), ("action", action)] a] := by
  intro d
  simp [watchdog, Descriptor.placed]

lemma writes_video (v : Video) (a : Address) : Writes (video v a) [Descriptor.video v a] := by
  intro d
  simp [video, Descriptor.video, Node.leaf]

lemma writes_controller (c : Controller) (a : Address) :
    Writes (controller c a) [Descriptor.controller c a] := by
  intro d
  simp [controller, Descriptor.controller, Descriptor.placed]

lemma writes_sound (model : String) (a : Address) :
    Writes (sound model a) [Descriptor.placed "sound" [("model", model)] a] := by
  intro d
  simp [sound, Descriptor.placed]

lemma writes_rate (period : Option Nat) (bytes : Nat) :
    Writes (rate bytes period)
      [.leaf "rate" ([("bytes", decimal bytes)] ++ Descriptor.numberIf "period" period)] := by
  intro d
  simp [rate, Node.leaf]

lemma writes_rng (r : Rng) : Writes (rng r) [Descriptor.rng r] := by
  intro d
  simp [rng, Descriptor.rng, writes_whenSome (writes_rate r.period) r.bytes]

lemma writes_redirection (a : Address) :
    Writes (redirection a)
      [Descriptor.placed "redirdev" [("type", "spicevmc"), ("bus", "usb")] a] := by
  intro d
  simp [redirection, Descriptor.placed]

lemma writes_lease (id : Uuid) (l : Lease) : Writes (lease id l) [Descriptor.lease id l] := by
  intro d
  simp [lease, Descriptor.lease, Node.leaf]

/-! ### Remote displays -/

section

variable (vm : VirtualMachine) (config : BuildConfig)

lemma writes_secureChannels (names : List String) :
    Writes (each names secureChannel)
      (names.map fun name => .leaf "channel" [("name", name), ("mode", "secure")]) :=
  writes_each (fun name => writes_leaf "channel" [("name", name), ("mode", "secure")]) names

/-- The options of a SPICE display are written in an element without content. -/
lemma run_spiceOptions (d : Draft) (attributes : List (String × String)) :
    (spiceOptions vm config).run (d.opened "graphics" attributes) =
      Descriptor.spiceOptions vm config >>= fun ns =>
        pure ((), (d.opened "graphics"
          (attributes ++ [("tlsPort", Descriptor.autoPort)])).add ns) := by
  unfold spiceOptions Descriptor.spiceOptions
  by_cases hssl : config.settings.sslEnabled
  · have hchannels (e : Encoder Unit) : when (config.settings.sslEnabled = true) e = e :=
      if_pos hssl
    simp [hssl, hchannels, writes_secureChannels, Descriptor.flag, -Bool.not_eq_true]
  · have hnone (e : Encoder Unit) : when (config.settings.sslEnabled = true) e = pure () :=
      if_neg hssl
    simp [hssl, hnone, Descriptor.flag, -Bool.not_eq_true]

lemma writes_listen (disp : Display) (network : Network) :
    Writes (listen disp network) [Descriptor.listen disp network] := by
  intro d
  unfold listen Descriptor.listen
  cases disp.ip with
  | none => simp [Node.leaf]
  | some ip => simp [Node.leaf]

lemma encodes_display (disp : Display) (network : Option Network) :
    Encodes (display vm config disp network)
      (do return [← Descriptor.display vm config disp network]) := by
  intro d
  have hlisten := writes_whenSome (writes_listen disp) network
  unfold display Descriptor.display
  cases disp.type with
  | spice => simp [hlisten, run_spiceOptions, Descriptor.ticketAttributes]
  | vnc => simp [hlisten, Descriptor.ticketAttributes]

end

/-! ### Devices of the host -/

lemma writes_passthrough (type : String) (adapter : Option String) (source a : Address) :
    Writes (passthrough type adapter source a)
      [Descriptor.passthrough type adapter source a] := by
  intro d
  simp [passthrough, Descriptor.passthrough]
  rfl

lemma encodes_notice (n : Notice) :
    Encodes (Program.notice n) (do Program.notice n; return []) := by
  intro d
  rfl

lemma encodes_hostDevice (name : String) (iommuPlaceholder : Bool) (found : Option HostDevice)
    (a : Address) :
    Encodes (hostDevice name iommuPlaceholder found a)
      (Descriptor.hostDevice name iommuPlaceholder found a) := by
  intro d
  unfold hostDevice Descriptor.hostDevice
  cases found with
  | none => exact encodes_notice _ d
  | some device =>
    cases hcapability : device.capability with
    | pci =>
      have hpassthrough := writes_passthrough "pci" none
      cases iommuPlaceholder <;>
        simp [hcapability, HostCapability.sourceAddress?, when, hpassthrough]
    | usb => simp [hcapability, HostCapability.sourceAddress?, writes_passthrough]
    | scsi => simp [hcapability, HostCapability.sourceAddress?, writes_passthrough]
    | unsupported =>
      simp only [hcapability]
      exact encodes_notice _ d

/-! ### All kinds -/

/-- The path of the socket of a serial console. -/
def serialPath? (id : Uuid) (p : Peripheral) : Option String :=
  match p.kind with
  | .console c => if c.isSerial then some (socketPath id c) else none
  | _ => none

section

variable (vm : VirtualMachine) (host : Uuid) (config : BuildConfig)

lemma run_peripheral (d : Draft) (p : Peripheral) :
    (peripheral vm host config p).run d =
      Descriptor.peripheral vm host config p >>= fun ns =>
        pure (serialPath? vm.id p, d.add ns) := by
  obtain ⟨kind, a⟩ := p
  cases kind with
  | balloon => simp [peripheral, Descriptor.peripheral, serialPath?, writes_balloon]
  | smartcard => simp [peripheral, Descriptor.peripheral, serialPath?, writes_smartcard]
  | watchdog => simp [peripheral, Descriptor.peripheral, serialPath?, writes_watchdog]
  | video => simp [peripheral, Descriptor.peripheral, serialPath?, writes_video]
  | controller => simp [peripheral, Descriptor.peripheral, serialPath?, writes_controller]
  | graphics => simp [peripheral, Descriptor.peripheral, serialPath?, encodes_display]
  | sound => simp [peripheral, Descriptor.peripheral, serialPath?, writes_sound]
  | rng => simp [peripheral, Descriptor.peripheral, serialPath?, writes_rng]
  | console => simp [peripheral, Descriptor.peripheral, serialPath?, writes_console]
  | redirection => simp [peripheral, Descriptor.peripheral, serialPath?, writes_redirection]
  | hostDevice => simp [peripheral, Descriptor.peripheral, serialPath?, encodes_hostDevice]

lemma run_nextPeripheral (d : Draft) (found : Option String) (p : Peripheral) :
    (nextPeripheral vm host config found p).run d =
      Descriptor.peripheral vm host config p >>= fun ns =>
        pure ((serialPath? vm.id p).or found, d.add ns) := by
  simp [nextPeripheral, run_peripheral]

lemma findSome?_reverse_cons {α β : Type} (f : α → Option β) (x : α) (xs : List α) :
    (x :: xs).reverse.findSome? f = (xs.reverse.findSome? f).or (f x) := by
  rw [List.reverse_cons, List.findSome?_append, List.findSome?_singleton]

/-- The loop writes the elements of all peripherals, and it returns the last path found. -/
lemma run_peripherals (d : Draft) (ps : List Peripheral) :
    (peripherals vm host config ps).run d =
      ps.mapM (Descriptor.peripheral vm host config) >>= fun nss =>
        pure (ps.reverse.findSome? (serialPath? vm.id), d.add nss.flatten) := by
  have hloop (found : Option String) (d : Draft) :
      (ps.foldlM (nextPeripheral vm host config) found).run d =
        ps.mapM (Descriptor.peripheral vm host config) >>= fun nss =>
          pure ((ps.reverse.findSome? (serialPath? vm.id)).or found, d.add nss.flatten) := by
    induction ps generalizing found d with
    | nil => simp
    | cons p rest ih =>
      rw [findSome?_reverse_cons]
      simp [run_nextPeripheral, ih, Option.or_assoc]
  simpa [peripherals] using hloop none d

end

end VmDescriptor.Encoder
