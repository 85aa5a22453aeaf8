import VmDescriptor.Program
import VmDescriptor.Proofs.Results

/-!
What programs may return and how they may fail.

Which answers a lookup may get is a parameter. The outcomes of a composed program are read off
those of its parts, so a program is taken apart by rewriting. A run ends in an outcome that its
stores admit, whether or not shared lookups are remembered.
-/

namespace VmDescriptor.Program

variable {α β γ : Type}

/-- The answers that lookups may get. -/
abbrev Answers := (c : Lookup) → c.Answer → Prop

/-- The program may end in a result of its own; lookups that fail do not count. -/
def MayEnd (given : Answers) : Program α → Except BuildError α → Prop
  | .done a, r => r = .ok a
  | .fail e, r => r = .error e
  | .report _ p, r => p.MayEnd given r
  | .ask c p, r => ∃ a, given c a ∧ (p a).MayEnd given r

/-- The program may return a value. -/
abbrev MayReturn (given : Answers) (p : Program α) (a : α) : Prop := p.MayEnd given (.ok a)

/-- The program may fail of itself with an error. -/
abbrev MayFail (given : Answers) (p : Program α) (e : BuildError) : Prop :=
  p.MayEnd given (.error e)

/-! ### The monad -/

lemma bind_eq (p : Program α) (k : α → Program β) : p >>= k = p.bind k := rfl

lemma bind_done (p : Program α) : p.bind .done = p := by
  induction p with
  | done a => rfl
  | fail e => rfl
  | report n p ih => simp only [bind, ih]
  | ask c p ih => simp only [bind, ih]

lemma bind_bind (p : Program α) (k : α → Program β) (l : β → Program γ) :
    (p.bind k).bind l = p.bind fun a => (k a).bind l := by
  induction p with
  | done a => rfl
  | fail e => rfl
  | report n p ih => simp only [bind, ih]
  | ask c p ih => simp only [bind, ih]

instance : LawfulMonad Program :=
  LawfulMonad.mk' Program (fun p => bind_done p) (fun _ _ => rfl) (fun p k l => bind_bind p k l)

/-! ### Outcomes of composed programs -/

section

variable {given : Answers}

@[simp] lemma mayEnd_pure {a : α} {r : Except BuildError α} :
    (pure a : Program α).MayEnd given r ↔ r = .ok a := Iff.rfl

@[simp] lemma mayEnd_fail {e : BuildError} {r : Except BuildError α} :
    (Program.fail e).MayEnd given r ↔ r = .error e := Iff.rfl

lemma mayEnd_bind {p : Program α} {k : α → Program β} {r : Except BuildError β} :
    (p >>= k).MayEnd given r ↔
      (∃ a, p.MayReturn given a ∧ (k a).MayEnd given r) ∨
        ∃ e, p.MayFail given e ∧ r = .error e := by
  rw [bind_eq]
  induction p with
  | done a => simp [bind, MayEnd]
  | fail e => simp [bind]
  | report n p ih => exact ih
  | ask c p ih =>
    simp only [bind, MayEnd, ih]
    constructor
    · rintro ⟨x, hx, ⟨a, ha, h⟩ | ⟨e, he, h⟩⟩
      · exact .inl ⟨a, ⟨x, hx, ha⟩, h⟩
      · exact .inr ⟨e, ⟨x, hx, he⟩, h⟩
    · rintro (⟨a, ⟨x, hx, ha⟩, h⟩ | ⟨e, ⟨x, hx, he⟩, h⟩)
      · exact ⟨x, hx, .inl ⟨a, ha, h⟩⟩
      · exact ⟨x, hx, .inr ⟨e, he, h⟩⟩

@[simp] lemma mayReturn_bind {p : Program α} {k : α → Program β} {b : β} :
    (p >>= k).MayReturn given b ↔ ∃ a, p.MayReturn given a ∧ (k a).MayReturn given b := by
  simp [MayReturn, mayEnd_bind]

@[simp] lemma mayFail_bind {p : Program α} {k : α → Program β} {e : BuildError} :
    (p >>= k).MayFail given e ↔
      p.MayFail given e ∨ ∃ a, p.MayReturn given a ∧ (k a).MayFail given e := by
  simp [MayFail, mayEnd_bind, or_comm]

@[simp] lemma mayFail_map {p : Program α} {f : α → β} {e : BuildError} :
    (f <$> p).MayFail given e ↔ p.MayFail given e := by
  rw [← bind_pure_comp, mayFail_bind]
  simp

@[simp] lemma mayEnd_lookup {c : Lookup} {r : Except BuildError c.Answer} :
    (lookup c).MayEnd given r ↔ ∃ a, given c a ∧ r = .ok a := Iff.rfl

lemma mayReturn_lookup {c : Lookup} {a : c.Answer} :
    (lookup c).MayReturn given a ↔ given c a := by
  simp [MayReturn]

lemma not_mayFail_lookup (c : Lookup) {e : BuildError} : ¬ (lookup c).MayFail given e := by
  simp [MayFail]

@[simp] lemma mayEnd_notice {n : Notice} {r : Except BuildError Unit} :
    (notice n).MayEnd given r ↔ r = .ok () := Iff.rfl

@[simp] lemma mayEnd_notices {ns : List Notice} {r : Except BuildError Unit} :
    (notices ns).MayEnd given r ↔ r = .ok () := by
  induction ns with
  | nil => rfl
  | cons n rest ih => exact ih

@[simp] lemma mayReturn_exact {n : Option α} {a : α} :
    (exact n).MayReturn given a ↔ n = some a := by
  cases n <;> simp [exact, MayReturn, MayEnd, eq_comm]

@[simp] lemma mayFail_exact {n : Option α} {e : BuildError} :
    (exact n).MayFail given e ↔ n = none ∧ e = .overflow := by
  cases n <;> simp [exact, MayFail, MayEnd]

lemma mayReturn_mapM {f : α → Program β} {xs : List α} {ys : List β} :
    (xs.mapM f).MayReturn given ys ↔
      List.Forall₂ (fun x y => (f x).MayReturn given y) xs ys := by
  induction xs generalizing ys with
  | nil => simp [MayReturn]
  | cons x xs ih =>
    simp only [List.mapM_cons, mayReturn_bind, ih, List.forall₂_cons_left_iff]
    constructor
    · rintro ⟨y, hy, rest, hrest, h⟩
      exact ⟨y, rest, hy, hrest, Except.ok.inj h⟩
    · rintro ⟨y, rest, hy, hrest, rfl⟩
      exact ⟨y, hy, rest, hrest, rfl⟩

lemma exists_mem_of_mayReturn_mapM {f : α → Program β} {xs : List α} {ys : List β}
    (h : (xs.mapM f).MayReturn given ys) {y : β} (hy : y ∈ ys) :
    ∃ x ∈ xs, (f x).MayReturn given y :=
  exists_mem_of_forall₂ (mayReturn_mapM.mp h) hy

lemma mayFail_mapM {f : α → Program β} {xs : List α} {e : BuildError}
    (h : (xs.mapM f).MayFail given e) : ∃ x ∈ xs, (f x).MayFail given e := by
  induction xs with
  | nil => simp [MayFail] at h
  | cons x xs ih =>
    simp only [List.mapM_cons, mayFail_bind] at h
    rcases h with h | ⟨y, -, h | ⟨rest, -, h⟩⟩
    · exact ⟨x, List.mem_cons_self, h⟩
    · obtain ⟨x', hx', h⟩ := ih h
      exact ⟨x', List.mem_cons_of_mem _ hx', h⟩
    · cases h

end

/-- With more answers to get, a program may end in more ways. -/
lemma MayEnd.mono {given given' : Answers} (hgiven : ∀ c a, given c a → given' c a)
    {p : Program α} {r : Except BuildError α} (h : p.MayEnd given r) : p.MayEnd given' r := by
  induction p with
  | done a => exact h
  | fail e => exact h
  | report n p ih => exact ih h
  | ask c p ih =>
    obtain ⟨a, ha, h⟩ := h
    exact ⟨a, hgiven c a ha, ih a h⟩

/-! ### Remembered lookups -/

section

variable {given : Answers}

/-- What is remembered are answers that lookups may get. -/
def Memory.Admissible (given : Answers) (m : Memory) : Prop :=
  ∀ c a, m c = some a → given c a

lemma Memory.Admissible.learn {m : Memory} (h : m.Admissible given) {c : Lookup} {a : c.Answer}
    (ha : given c a) : (m.learn c a).Admissible given := by
  intro c' a' h'
  unfold Memory.learn at h'
  split at h'
  next hc =>
    subst hc
    cases h'
    exact ha
  next => exact h c' a' h'

lemma Memory.Admissible.keep {m : Memory} (h : m.Admissible given) {c : Lookup} {a : c.Answer}
    (ha : given c a) : (if isShared c then m.learn c a else m).Admissible given := by
  split
  · exact h.learn ha
  · exact h

lemma mayEnd_of_remembering {p : Program α} {r : Except BuildError α} :
    ∀ {m : Memory}, m.Admissible given → (remembering m p).MayEnd given r →
      p.MayEnd given r := by
  induction p with
  | done a => exact fun _ h => h
  | fail e => exact fun _ h => h
  | report n p ih => exact fun hm h => ih hm h
  | ask c p ih =>
    intro m hm h
    unfold remembering at h
    split at h
    next a ha => exact ⟨a, hm c a ha, ih a hm h⟩
    next =>
      obtain ⟨a, ha, h⟩ := h
      exact ⟨a, ha, ih a (hm.keep ha) h⟩

/-- Nothing is remembered at first. -/
lemma admissible_none : Memory.Admissible given (fun _ => none) := by
  intro c a h
  cases h

end

/-! ### Runs -/

/-- The answers that stores give at one time or another. -/
def givenBy (stores : Stores) : Answers :=
  fun c a => ∃ past, stores past c = .ok a

lemma mayEnd_of_runFrom {stores : Stores} {p : Program α} :
    ∀ {past : List Lookup},
      p.MayEnd (givenBy stores) (runFrom stores past p).result ∨
        ∃ cause, (runFrom stores past p).result = .error (.lookup cause) := by
  induction p with
  | done a => exact .inl rfl
  | fail e => exact .inl rfl
  | report n p ih => exact ih
  | ask c p ih =>
    intro past
    unfold runFrom
    split
    next a ha => exact (ih a).imp_left fun h => ⟨a, ⟨past, ha⟩, h⟩
    next cause _ => exact .inr ⟨cause, rfl⟩

/-- However a program is run and whatever is remembered, it ends as it may end if any answer may
be given, or because a lookup fails. -/
lemma mayEnd_of_runFrom_remembering (m : Memory) (stores : Stores) (past : List Lookup)
    (p : Program α) :
    p.MayEnd (fun _ _ => True) (runFrom stores past (remembering m p)).result ∨
      ∃ cause, (runFrom stores past (remembering m p)).result = .error (.lookup cause) :=
  mayEnd_of_runFrom.imp_left fun h =>
    mayEnd_of_remembering (fun _ _ _ => trivial) (h.mono fun _ _ _ => trivial)

/-- A run that shares lookups ends as the program may end, or because a lookup fails. -/
theorem mayEnd_of_run_sharing (stores : Stores) (p : Program α) :
    p.MayEnd (givenBy stores) (p.sharing.run stores).result ∨
      ∃ cause, (p.sharing.run stores).result = .error (.lookup cause) :=
  mayEnd_of_runFrom.imp_left (mayEnd_of_remembering admissible_none)

lemma mayReturn_of_run_sharing {stores : Stores} {p : Program α} {a : α}
    (h : (p.sharing.run stores).result = .ok a) : p.MayReturn (givenBy stores) a := by
  rcases mayEnd_of_run_sharing stores p with hp | ⟨cause, hp⟩
  · rwa [h] at hp
  · rw [h] at hp
    cases hp

lemma mayFail_of_run_sharing {stores : Stores} {p : Program α} {e : BuildError}
    (h : (p.sharing.run stores).result = .error e) :
    p.MayFail (givenBy stores) e ∨ ∃ cause, e = .lookup cause := by
  rcases mayEnd_of_run_sharing stores p with hp | ⟨cause, hp⟩
  · rw [h] at hp
    exact .inl hp
  · rw [h] at hp
    exact .inr ⟨cause, Except.error.inj hp⟩

lemma exists_ok {ε : Type} {r : Except ε α} (h : r.toBool = true) : ∃ a, r = .ok a := by
  cases r with
  | ok a => exact ⟨a, rfl⟩
  | error e => cases h

/-! ### A last step without lookups -/

/-- A program that makes no lookup and reports nothing. -/
def ofExcept : Except BuildError α → Program α
  | .ok a => .done a
  | .error e => .fail e

lemma remembering_bind_ofExcept {p : Program α} {f : α → Except BuildError β} :
    ∀ {m : Memory}, remembering m (p.bind fun a => ofExcept (f a)) =
      (remembering m p).bind fun a => ofExcept (f a) := by
  induction p with
  | done a =>
    intro m
    simp only [bind, remembering]
    cases f a <;> rfl
  | fail e => exact rfl
  | report n p ih =>
    intro m
    simp only [bind, remembering, ih]
  | ask c p ih =>
    intro m
    simp only [bind, remembering]
    split
    · exact ih _
    · simp only [bind, ih]

lemma runFrom_bind_ofExcept {stores : Stores} {p : Program α} {f : α → Except BuildError β}
    {past : List Lookup} :
    runFrom stores past (p.bind fun a => ofExcept (f a)) =
      ⟨(runFrom stores past p).result >>= f, (runFrom stores past p).lookups,
        (runFrom stores past p).notices⟩ := by
  induction p generalizing past with
  | done a =>
    simp only [bind, runFrom]
    cases h : f a <;> simp [ofExcept, runFrom, Bind.bind, Except.bind, h]
  | fail e => exact rfl
  | report n p ih =>
    simp only [bind, runFrom, ih]
  | ask c p ih =>
    simp only [bind, runFrom]
    split
    · simp only [ih]
    · rfl

end VmDescriptor.Program
