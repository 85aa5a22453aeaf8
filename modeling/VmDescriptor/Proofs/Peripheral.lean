import Mathlib.Data.List.Basic
import VmDescriptor.Peripheral
import VmDescriptor.Proofs.Results

/-!
Devices that can be read as peripherals.

A device of a type of peripherals is read just when each parameter that its type is read for can
be read; a remote display must besides have a known protocol and a source of random numbers be a
known one. Reading goes by the indices given out before only to complete a controller.
-/

namespace VmDescriptor

lemma exists_recognize_iff {α : Type} {kind : String} {all : List α} {name : α → String}
    {s : String} : (∃ a, recognize kind all name s = .ok a) ↔ s ∈ all.map name := by
  have hfound : s ∈ all.map name ↔ (all.find? (name · == s)).isSome := by simp
  unfold recognize
  rw [hfound]
  cases all.find? (name · == s) <;> simp

lemma name_of_recognize {α : Type} {kind : String} {all : List α} {name : α → String}
    {s : String} {a : α} (h : recognize kind all name s = .ok a) : name a = s := by
  unfold recognize at h
  split at h
  next hfound =>
    cases h
    have ha := List.find?_some hfound
    exact eq_of_beq ha
  next => cases h

namespace Peripheral

/-! ### Usable parameters -/

/-- How a parameter of a peripheral is read. -/
inductive Reading where
  /-- As a text that must be there. -/
  | text
  | optionalText
  | number
  | truthValue

/-- Whether a parameter can be read. -/
def Reading.succeeds (p : Parameters) (key : String) : Reading → Bool
  | .text => (p.string key).isOk
  | .optionalText => (p.string? key).isOk
  | .number => (p.nat? key).isOk
  | .truthValue => (p.boolean? key).isOk

/-- The parameters that the devices of a type are read for. -/
def readings : DeviceType → List (String × Reading)
  | .balloon => [("model", .text)]
  | .smartcard => [("mode", .text), ("type", .text)]
  | .watchdog => [("model", .optionalText), ("action", .optionalText)]
  | .video => [("vram", .number), ("heads", .number), ("ram", .number), ("vgamem", .number)]
  | .controller => [("model", .optionalText), ("index", .number), ("ports", .number)]
  | .graphics => [("displayIp", .optionalText)]
  | .rng => [("source", .text), ("bytes", .number), ("period", .number)]
  | .console => [("consoleType", .optionalText), ("enableSocket", .truthValue)]
  | .hostdev => [("iommuPlaceholder", .truthValue)]
  | _ => []

/-- The parameters that a type is read for can be read. -/
def Readable (type : DeviceType) (p : Parameters) : Prop :=
  ∀ r ∈ readings type, r.2.succeeds p r.1

instance (type : DeviceType) : DecidablePred (Readable type) :=
  fun p => inferInstanceAs (Decidable (∀ r ∈ readings type, r.2.succeeds p r.1))

/-- The device is of a type of peripherals and its parameters can be used. -/
structure Usable (d : Device) : Prop where
  type : isType d.type
  readable : Readable d.type d.parameters
  protocol : d.type = .graphics → d.subtype ∈ GraphicsType.all.map (·.name)
  source : d.type = .rng → ∃ s ∈ RandomSource.all, d.parameters.string "source" = .ok s.name

variable {d : Device} {ix : DiskIndices}

lemma usable_iff : Usable d ↔ isType d.type ∧ Readable d.type d.parameters ∧
    (d.type = .graphics → d.subtype ∈ GraphicsType.all.map (·.name)) ∧
    (d.type = .rng → ∃ s ∈ RandomSource.all, d.parameters.string "source" = .ok s.name) :=
  ⟨fun ⟨type, readable, protocol, source⟩ => ⟨type, readable, protocol, source⟩,
    fun ⟨type, readable, protocol, source⟩ => ⟨type, readable, protocol, source⟩⟩

instance : DecidablePred Usable :=
  fun _ => decidable_of_iff _ usable_iff.symm

lemma exists_video_iff : (∃ v, video d = .ok v) ↔ Readable .video d.parameters := by
  simp [video, Readable, readings, Reading.succeeds, isOk_iff, bind_eq_ok_iff, pure, Except.pure]

lemma exists_controller_iff : (∃ c, controller d = .ok c) ↔ Readable .controller d.parameters := by
  simp [controller, Readable, readings, Reading.succeeds, isOk_iff, bind_eq_ok_iff, pure,
    Except.pure]

lemma exists_console_iff : (∃ c, console d = .ok c) ↔ Readable .console d.parameters := by
  simp [console, Readable, readings, Reading.succeeds, isOk_iff, bind_eq_ok_iff, pure, Except.pure]

lemma exists_display_iff : (∃ g, display d = .ok g) ↔
    Readable .graphics d.parameters ∧ d.subtype ∈ GraphicsType.all.map (·.name) := by
  have hprotocol : (∃ type, GraphicsType.parse d.subtype = .ok type) ↔
      d.subtype ∈ GraphicsType.all.map (·.name) := exists_recognize_iff
  rw [← hprotocol]
  unfold display
  cases GraphicsType.parse d.subtype with
  | error e => simp [throw, throwThe, MonadExceptOf.throw]
  | ok type =>
    simp [Readable, readings, Reading.succeeds, isOk_iff, bind_eq_ok_iff, pure, Except.pure]

lemma exists_rng_iff : (∃ r, rng d = .ok r) ↔ Readable .rng d.parameters ∧
    ∃ s ∈ RandomSource.all, d.parameters.string "source" = .ok s.name := by
  unfold rng
  cases hname : d.parameters.string "source" with
  | error e => simp [bind, Except.bind]
  | ok name =>
    have hsource : (∃ s ∈ RandomSource.all,
        (.ok name : Except ParameterError String) = .ok s.name) ↔
          (RandomSource.all.find? (·.name == name)).isSome := by
      simp only [Except.ok.injEq, List.find?_isSome, beq_iff_eq]
      exact exists_congr fun s => and_congr_right fun _ => eq_comm
    rw [hsource]
    dsimp only [bind, Except.bind]
    cases RandomSource.all.find? (·.name == name) with
    | none => simp [throw, throwThe, MonadExceptOf.throw]
    | some source =>
      cases hbytes : d.parameters.nat? "bytes" <;> cases hperiod : d.parameters.nat? "period" <;>
        simp [Readable, readings, Reading.succeeds, isOk_iff, hname, hbytes, hperiod, pure,
          Except.pure]

/-! ### Readings -/

lemma kind?_eq_none_iff : kind? d ix = .ok none ↔ isType d.type = false := by
  unfold kind?
  cases htype : d.type <;> simp [isType, bind_eq_ok_iff, pure, Except.pure]

/-- **Usable parameters**: a device is read as a peripheral just when its parameters can be used. -/
theorem exists_kind?_iff : (∃ k, kind? d ix = .ok (some k)) ↔ Usable d := by
  rw [usable_iff]
  unfold kind?
  cases htype : d.type with
  | video => simp [isType, exists_video_iff, bind_eq_ok_iff, pure, Except.pure]
  | controller => simp [isType, exists_controller_iff, bind_eq_ok_iff, pure, Except.pure]
  | console => simp [isType, exists_console_iff, bind_eq_ok_iff, pure, Except.pure]
  | graphics => simp [isType, exists_display_iff, bind_eq_ok_iff, pure, Except.pure]
  | rng => simp [isType, exists_rng_iff, bind_eq_ok_iff, pure, Except.pure]
  | _ =>
    simp [isType, Readable, readings, Reading.succeeds, isOk_iff, bind_eq_ok_iff, pure, Except.pure]

/-- A device that is of a type of peripherals and cannot be used has an error to be reported. -/
lemma exists_error_iff :
    (∃ e, kind? d ix = .error e) ↔ isType d.type ∧ ¬ Usable d := by
  have husable : Usable d ↔ ∃ k, kind? d ix = .ok (some k) := exists_kind?_iff.symm
  have htype : isType d.type = false ↔ kind? d ix = .ok none := kind?_eq_none_iff.symm
  rw [husable, ← Bool.not_eq_false, htype]
  rcases kind? d ix with e | (_ | k) <;> simp

/-- A controller is completed with the indices given out before. -/
lemma kind?_of_controller (h : d.type = .controller) :
    kind? d ix = (controller d).map fun c =>
      some (.controller (c.complete ix).1, (c.complete ix).2) := by
  unfold kind?
  rw [h]
  cases controller d <;> rfl

/-- The indices given out before count for controllers alone. -/
lemma kind?_of_ne (h : d.type ≠ .controller) (ix ix' : DiskIndices) :
    kind? d ix' = (kind? d ix).map (Option.map fun k => (k.1, ix')) := by
  unfold kind?
  dsimp only
  cases htype : d.type with
  | controller => exact absurd htype h
  | balloon => cases d.parameters.string "model" <;> rfl
  | smartcard =>
    cases d.parameters.string "mode" <;> cases d.parameters.string "type" <;> rfl
  | watchdog =>
    cases d.parameters.string? "model" <;> cases d.parameters.string? "action" <;> rfl
  | video => cases video d <;> rfl
  | graphics => cases display d <;> rfl
  | rng => cases rng d <;> rfl
  | console => cases console d <;> rfl
  | hostdev => cases d.parameters.boolean? "iommuPlaceholder" <;> rfl
  | _ => rfl

lemma indices_of_kind?_of_ne {ix' : DiskIndices} {kind : PeripheralKind}
    (htype : d.type ≠ .controller) (h : kind? d ix = .ok (some (kind, ix'))) : ix' = ix := by
  rw [kind?_of_ne htype ix ix] at h
  obtain ⟨k, -, hk⟩ := map_eq_ok_iff.mp h
  obtain ⟨_, -, heq⟩ := Option.map_eq_some_iff.mp hk
  exact (congrArg Prod.snd heq).symm

end Peripheral

end VmDescriptor
