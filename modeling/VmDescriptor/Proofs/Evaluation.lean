import VmDescriptor.Proofs.Outcomes

/-!
Programs under fixed answers.

If a lookup is answered alike whenever it is made, the result of a run is determined by the
answers, and remembering shared lookups does not change it. The result depends only on the
lookups that a program may make; how a composed program ends is read off its parts.
-/

namespace VmDescriptor.Program

variable {α β : Type}

/-- One answer for each lookup, or the reason why it fails. -/
abbrev FixedAnswers := (c : Lookup) → Except LookupError c.Answer

/-- The result of a program whose lookups have fixed answers. -/
def eval (answer : FixedAnswers) : Program α → Except BuildError α
  | .done a => .ok a
  | .fail e => .error e
  | .report _ p => p.eval answer
  | .ask c p =>
    match answer c with
    | .ok a => (p a).eval answer
    | .error e => .error (.lookup e)

/-- The answers that lookups get if they are fixed. -/
def fixed (answer : FixedAnswers) : Answers :=
  fun c a => answer c = .ok a

/-! ### Runs -/

section

variable {answer : FixedAnswers} {stores : Stores}

lemma eval_remembering {p : Program α} :
    ∀ {m : Memory}, m.Admissible (fixed answer) →
      (remembering m p).eval answer = p.eval answer := by
  induction p with
  | done a => exact fun _ => rfl
  | fail e => exact fun _ => rfl
  | report n p ih => exact fun hm => ih hm
  | ask c p ih =>
    intro m hm
    unfold remembering
    split
    next a ha =>
      have hanswer : answer c = .ok a := hm c a ha
      rw [ih a hm]
      simp only [eval, hanswer]
    next =>
      simp only [eval]
      split
      next a ha => exact ih a (hm.keep ha)
      next => rfl

lemma result_runFrom (hstores : ∀ past c, stores past c = answer c) {p : Program α} :
    ∀ {past : List Lookup}, (runFrom stores past p).result = p.eval answer := by
  induction p with
  | done a => exact rfl
  | fail e => exact rfl
  | report n p ih => exact ih
  | ask c p ih =>
    intro past
    simp only [runFrom, eval, hstores]
    cases answer c with
    | ok a => exact ih a
    | error e => rfl

/-- **Sharing is invisible**: with fixed answers a run that shares lookups has the result of the
program. -/
theorem result_run_sharing (hstores : ∀ past c, stores past c = answer c) (p : Program α) :
    (p.sharing.run stores).result = p.eval answer := by
  have hrun : (p.sharing.run stores).result = p.sharing.eval answer := result_runFrom hstores
  rw [hrun]
  exact eval_remembering admissible_none

lemma eval_bind (p : Program α) (k : α → Program β) :
    (p >>= k).eval answer = p.eval answer >>= fun a => (k a).eval answer := by
  rw [bind_eq]
  induction p with
  | done a => rfl
  | fail e => rfl
  | report n p ih => exact ih
  | ask c p ih =>
    simp only [bind, eval]
    split
    next a ha => exact ih a
    next => rfl

end

/-! ### The lookups that may be made -/

/-- The program may make a lookup. -/
def MayAsk (given : Answers) : Program α → Lookup → Prop
  | .done _, _ | .fail _, _ => False
  | .report _ p, c => p.MayAsk given c
  | .ask c p, c' => c' = c ∨ ∃ a, given c a ∧ (p a).MayAsk given c'

section

variable {given : Answers} {c : Lookup}

@[simp] lemma not_mayAsk_pure (a : α) : ¬ (pure a : Program α).MayAsk given c := id

@[simp] lemma not_mayAsk_fail (e : BuildError) : ¬ (Program.fail e : Program α).MayAsk given c := id

@[simp] lemma mayAsk_bind {p : Program α} {k : α → Program β} :
    (p >>= k).MayAsk given c ↔
      p.MayAsk given c ∨ ∃ a, p.MayReturn given a ∧ (k a).MayAsk given c := by
  rw [bind_eq]
  induction p with
  | done a => simp [bind, MayAsk, MayReturn, MayEnd]
  | fail e => simp [bind, MayAsk, MayReturn, MayEnd]
  | report n p ih => exact ih
  | ask c' p ih =>
    simp only [bind, MayAsk, ih]
    constructor
    · rintro (h | ⟨x, hx, h | ⟨a, ha, h⟩⟩)
      · exact .inl (.inl h)
      · exact .inl (.inr ⟨x, hx, h⟩)
      · exact .inr ⟨a, ⟨x, hx, ha⟩, h⟩
    · rintro ((h | ⟨x, hx, h⟩) | ⟨a, ⟨x, hx, ha⟩, h⟩)
      · exact .inl h
      · exact .inr ⟨x, hx, .inl h⟩
      · exact .inr ⟨x, hx, .inr ⟨a, ha, h⟩⟩

@[simp] lemma mayAsk_map {p : Program α} {f : α → β} :
    (f <$> p).MayAsk given c ↔ p.MayAsk given c := by
  rw [← bind_pure_comp, mayAsk_bind]
  simp

lemma mayAsk_lookup (c' : Lookup) : (lookup c').MayAsk given c ↔ c = c' := by
  simp [lookup, MayAsk]

@[simp] lemma not_mayAsk_notice (n : Notice) : ¬ (notice n).MayAsk given c := id

@[simp] lemma not_mayAsk_notices (ns : List Notice) : ¬ (notices ns).MayAsk given c := by
  induction ns with
  | nil => exact id
  | cons n rest ih => exact ih

@[simp] lemma not_mayAsk_exact (n : Option α) : ¬ (exact n).MayAsk given c := by
  cases n <;> exact id

lemma mayAsk_mapM {f : α → Program β} {xs : List α} (h : (xs.mapM f).MayAsk given c) :
    ∃ x ∈ xs, (f x).MayAsk given c := by
  induction xs with
  | nil => simp at h
  | cons x xs ih =>
    simp only [List.mapM_cons, mayAsk_bind] at h
    rcases h with h | ⟨y, -, h | ⟨rest, -, h⟩⟩
    · exact ⟨x, List.mem_cons_self, h⟩
    · obtain ⟨x', hx', h⟩ := ih h
      exact ⟨x', List.mem_cons_of_mem _ hx', h⟩
    · exact absurd h (not_mayAsk_pure _)

/-- A run gets through a part without lookups as the stores were before it. -/
lemma exists_of_runFrom_bind {stores : Stores} {past : List Lookup} {m : Memory}
    {p : Program α} {k : α → Program β} {b : β} (hp : ∀ c, ¬ p.MayAsk (givenBy stores) c)
    (h : (runFrom stores past (remembering m (p >>= k))).result = .ok b) :
    ∃ a, p.MayReturn (givenBy stores) a ∧
      (runFrom stores past (remembering m (k a))).result = .ok b := by
  rw [bind_eq] at h
  induction p with
  | done a => exact ⟨a, rfl, h⟩
  | fail e => cases h
  | report n p ih => exact ih hp h
  | ask c p ih => exact absurd (.inl rfl) (hp c)

/-- A run that makes a lookup gets through a part without lookups, and reports what the rest
reports at its end. -/
lemma exists_of_mem_lookups_bind {stores : Stores} {past : List Lookup} {m : Memory}
    {p : Program α} {k : α → Program β} {c : Lookup} (hp : ∀ c, ¬ p.MayAsk (givenBy stores) c)
    (h : c ∈ (runFrom stores past (remembering m (p >>= k))).lookups) :
    ∃ a, c ∈ (runFrom stores past (remembering m (k a))).lookups ∧
      (runFrom stores past (remembering m (k a))).notices <:+
        (runFrom stores past (remembering m (p >>= k))).notices := by
  rw [bind_eq] at h ⊢
  induction p with
  | done a => exact ⟨a, h, List.suffix_rfl⟩
  | fail e => cases h
  | report n p ih =>
    obtain ⟨a, ha, hsuffix⟩ := ih hp h
    exact ⟨a, ha, hsuffix.trans (List.suffix_cons n _)⟩
  | ask c p ih => exact absurd (.inl rfl) (hp c)

/-- A lookup that succeeds and is not remembered reports nothing. -/
lemma notices_runFrom_lookup_bind {stores : Stores} {past : List Lookup} {m : Memory} {c : Lookup}
    {k : c.Answer → Program β} {a : c.Answer} (hc : m c = none) (ha : stores past c = .ok a) :
    (runFrom stores past (remembering m (lookup c >>= k))).notices =
      (runFrom stores (c :: past)
        (remembering (if isShared c then m.learn c a else m) (k a))).notices := by
  have hask : lookup c >>= k = .ask c k := rfl
  simp only [hask, remembering, hc, runFrom, ha]

lemma prefix_notices {stores : Stores} {past : List Lookup} {m : Memory} (ns : List Notice)
    (k : Unit → Program β) :
    ns <+: (runFrom stores past (remembering m (notices ns >>= k))).notices := by
  induction ns with
  | nil => exact List.nil_prefix
  | cons n rest ih => exact List.cons_prefix_cons.mpr ⟨rfl, ih⟩

/-- A run goes on with the answer to a lookup that it does not remember. -/
lemma exists_of_runFrom_lookup_bind {stores : Stores} {past : List Lookup} {m : Memory}
    {k : c.Answer → Program β} {b : β} (hm : m.Admissible (givenBy stores)) (hc : m c = none)
    (h : (runFrom stores past (remembering m (lookup c >>= k))).result = .ok b) :
    ∃ a, stores past c = .ok a ∧ (k a).MayReturn (givenBy stores) b := by
  have hask : lookup c >>= k = .ask c k := rfl
  simp only [hask, remembering, hc, runFrom] at h
  cases ha : stores past c with
  | error e => simp [ha] at h
  | ok a =>
    simp only [ha] at h
    rcases mayEnd_of_runFrom (p := remembering _ (k a)) with hend | ⟨cause, hcause⟩
    · rw [h] at hend
      exact ⟨a, rfl, mayEnd_of_remembering (hm.keep ⟨past, ha⟩) hend⟩
    · cases h.symm.trans hcause

/-- The result depends on the answers to the lookups that may be made, and on no other. -/
theorem eval_congr {answer answer' : FixedAnswers} {p : Program α}
    (h : ∀ c, p.MayAsk (fixed answer) c → answer c = answer' c) :
    p.eval answer = p.eval answer' := by
  induction p with
  | done a => rfl
  | fail e => rfl
  | report n p ih => exact ih h
  | ask c p ih =>
    have hc : answer c = answer' c := h c (.inl rfl)
    simp only [eval, ← hc]
    split
    next a ha => exact ih a fun c' hc' => h c' (.inr ⟨a, ha, hc'⟩)
    next => rfl

end

/-! ### What a program fails with -/

/-- What the program fails with under these answers. -/
def failure? (answer : FixedAnswers) (p : Program α) : Option BuildError :=
  match p.eval answer with
  | .ok _ => none
  | .error e => some e

section

variable {answer : FixedAnswers}

lemma failure?_eq_some_iff {p : Program α} {e : BuildError} :
    p.failure? answer = some e ↔ p.eval answer = .error e := by
  unfold failure?
  cases p.eval answer <;> simp

lemma failure?_eq_none_iff {p : Program α} :
    p.failure? answer = none ↔ ∃ a, p.eval answer = .ok a := by
  unfold failure?
  cases p.eval answer <;> simp

@[simp] lemma failure?_pure (a : α) : (pure a : Program α).failure? answer = none := rfl

@[simp] lemma failure?_fail (e : BuildError) :
    (Program.fail e : Program α).failure? answer = some e := rfl

lemma failure?_exact (n : Option α) :
    (exact n).failure? answer = if n = none then some .overflow else none := by
  cases n <;> simp [exact, failure?, eval]

/-- A program that goes on with another one fails as the first that fails. -/
lemma failure?_bind {p : Program α} {k : α → Program β} {failure : Option BuildError}
    (hk : ∀ a, p.eval answer = .ok a → (k a).failure? answer = failure) :
    (p >>= k).failure? answer = (p.failure? answer).or failure := by
  unfold failure?
  rw [eval_bind]
  cases hp : p.eval answer with
  | ok a => exact hk a hp
  | error e => rfl

lemma failure?_bind_pure {p : Program α} {k : α → β} :
    (p >>= fun a => pure (k a)).failure? answer = p.failure? answer := by
  rw [failure?_bind fun _ _ => failure?_pure _, Option.or_none]

lemma failure?_lookup_eq_none_iff {c : Lookup} :
    (lookup c).failure? answer = none ↔ ∃ a, answer c = .ok a := by
  unfold failure?
  simp only [lookup, eval]
  cases answer c <;> simp

lemma failure?_lookup_bind {c : Lookup} {a : c.Answer} {k : c.Answer → Program β}
    (h : answer c = .ok a) : (lookup c >>= k).failure? answer = (k a).failure? answer := by
  unfold failure?
  rw [eval_bind]
  simp only [lookup, eval, h]
  rfl

lemma failure?_mapM {f : α → Program β} {xs : List α} :
    (xs.mapM f).failure? answer = xs.findSome? fun x => (f x).failure? answer := by
  induction xs with
  | nil => rfl
  | cons x xs ih =>
    have hrest (y : β) : (do let ys ← xs.mapM f; return y :: ys).failure? answer =
        xs.findSome? fun x => (f x).failure? answer := by
      rw [failure?_bind_pure, ih]
    rw [List.mapM_cons, failure?_bind fun y _ => hrest y, List.findSome?_cons]
    cases (f x).failure? answer <;> rfl

/-- A program fails of itself, or because a lookup fails. -/
lemma mayEnd_eval (p : Program α) :
    p.MayEnd (fixed answer) (p.eval answer) ∨ ∃ cause, p.eval answer = .error (.lookup cause) := by
  induction p with
  | done a => exact .inl rfl
  | fail e => exact .inl rfl
  | report n p ih => exact ih
  | ask c p ih =>
    simp only [eval]
    split
    next a ha => exact (ih a).imp_left fun h => ⟨a, ha, h⟩
    next cause _ => exact .inr ⟨cause, rfl⟩

lemma mayReturn_of_eval {p : Program α} {a : α} (h : p.eval answer = .ok a) :
    p.MayReturn (fixed answer) a := by
  have hend : p.MayEnd (fixed answer) (p.eval answer) ∨ _ := mayEnd_eval p
  rw [h] at hend
  rcases hend with hend | ⟨cause, hcause⟩
  · exact hend
  · cases hcause

lemma failure?_ne_overflow {p : Program α} (h : ¬ p.MayFail (fixed answer) .overflow) :
    p.failure? answer ≠ some .overflow := by
  rw [ne_eq, failure?_eq_some_iff]
  intro heval
  have hend : p.MayEnd (fixed answer) (p.eval answer) ∨ _ := mayEnd_eval p
  rw [heval] at hend
  rcases hend with hend | ⟨cause, hcause⟩
  · exact h hend
  · cases hcause

end

/-! ### How a program ends -/

/-- With these answers the program ends with the given failure, or with a value if there is none,
unless a product does not fit its width. -/
def EndsWith (answer : FixedAnswers) (p : Program α) (failure : Option BuildError) : Prop :=
  p.eval answer = .error .overflow ∨
    match failure with
    | none => ∃ a, p.eval answer = .ok a
    | some e => p.eval answer = .error e

section

variable {answer : FixedAnswers}

lemma endsWith_pure (a : α) : EndsWith answer (pure a) none := .inr ⟨a, rfl⟩

lemma endsWith_fail (e : BuildError) : EndsWith answer (.fail e : Program α) (some e) := .inr rfl

lemma EndsWith.bind {p : Program α} {k : α → Program β} {failure failure' : Option BuildError}
    (hp : EndsWith answer p failure)
    (hk : ∀ a, p.eval answer = .ok a → EndsWith answer (k a) failure') :
    EndsWith answer (p >>= k) (failure.or failure') := by
  unfold EndsWith
  rw [eval_bind]
  rcases hp with hp | hp
  · exact .inl (by rw [hp]; rfl)
  · cases failure with
    | some e => exact .inr (by rw [hp]; rfl)
    | none =>
      obtain ⟨a, ha⟩ := hp
      rw [ha]
      exact hk a ha

lemma EndsWith.bind_none {p : Program α} {k : α → Program β} {failure : Option BuildError}
    (hp : EndsWith answer p failure)
    (hk : ∀ a, p.eval answer = .ok a → EndsWith answer (k a) none) :
    EndsWith answer (p >>= k) failure := by
  have h := hp.bind hk
  rwa [Option.or_none] at h

lemma endsWith_lookup_bind {c : Lookup} {a : c.Answer} {k : c.Answer → Program β}
    {failure : Option BuildError} (h : answer c = .ok a) (hk : EndsWith answer (k a) failure) :
    EndsWith answer (lookup c >>= k) failure := by
  have heval : (lookup c >>= k).eval answer = (k a).eval answer := by
    rw [eval_bind]
    simp only [lookup, eval, h]
    rfl
  unfold EndsWith
  rwa [heval]

/-- A list of programs ends with the first failure of one of them. -/
lemma endsWith_mapM {f : α → Program β} {failure : α → Option BuildError} {xs : List α}
    (h : ∀ x ∈ xs, EndsWith answer (f x) (failure x)) :
    EndsWith answer (xs.mapM f) (xs.findSome? failure) := by
  induction xs with
  | nil => exact endsWith_pure []
  | cons x xs ih =>
    have hrest := ih fun y hy => h y (List.mem_cons_of_mem x hy)
    have hor : (x :: xs).findSome? failure = (failure x).or (xs.findSome? failure) := by
      rw [List.findSome?_cons]
      cases failure x <;> rfl
    rw [List.mapM_cons, hor]
    exact (h x List.mem_cons_self).bind fun y _ =>
      hrest.bind_none fun ys _ => endsWith_pure (y :: ys)

/-- A program all of whose lookups are answered and that fails of itself only when a product does
not fit ends with a value. -/
lemma endsWith_none {p : Program α}
    (hasks : ∀ c, p.MayAsk (fixed answer) c → ∃ a, answer c = .ok a)
    (hfails : ∀ e, p.MayFail (fixed answer) e → e = .overflow) : EndsWith answer p none := by
  induction p with
  | done a => exact .inr ⟨a, rfl⟩
  | fail e => exact .inl (congrArg _ (hfails e rfl))
  | report n p ih => exact ih hasks hfails
  | ask c p ih =>
    obtain ⟨a, ha⟩ := hasks c (.inl rfl)
    have heval : (Program.ask c p).eval answer = (p a).eval answer := by
      simp only [eval, ha]
    unfold EndsWith
    rw [heval]
    exact ih a (fun c' hc' => hasks c' (.inr ⟨a, ha, hc'⟩)) fun e he => hfails e ⟨a, ha, he⟩

lemma EndsWith.eq_error {p : Program α} {e : BuildError} (h : EndsWith answer p (some e))
    (hoverflow : p.eval answer ≠ .error .overflow) : p.eval answer = .error e :=
  h.resolve_left hoverflow

lemma EndsWith.failure?_none_or {p : Program α} (h : EndsWith answer p none) :
    p.failure? answer = none ∨ p.failure? answer = some .overflow := by
  rw [failure?_eq_none_iff, failure?_eq_some_iff]
  exact h.symm

lemma EndsWith.failure?_eq {p : Program α} {failure : Option BuildError}
    (h : EndsWith answer p failure) (hoverflow : ¬ p.MayFail (fixed answer) .overflow) :
    p.failure? answer = failure := by
  have hne := failure?_ne_overflow hoverflow
  rw [ne_eq, failure?_eq_some_iff] at hne
  have h := h.resolve_left hne
  cases failure with
  | none => exact failure?_eq_none_iff.mpr h
  | some e => exact failure?_eq_some_iff.mpr h

/-- A program all of whose lookups are answered and that never fails of itself does not fail. -/
lemma failure?_eq_none {p : Program α}
    (hasks : ∀ c, p.MayAsk (fixed answer) c → ∃ a, answer c = .ok a)
    (hfails : ∀ e, ¬ p.MayFail (fixed answer) e) : p.failure? answer = none :=
  (endsWith_none hasks fun e he => absurd he (hfails e)).failure?_eq (hfails _)

lemma EndsWith.exists_ok {p : Program α} (h : EndsWith answer p none)
    (hoverflow : p.eval answer ≠ .error .overflow) : ∃ a, p.eval answer = .ok a :=
  h.resolve_left hoverflow

end

end VmDescriptor.Program
