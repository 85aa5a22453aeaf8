import VmDescriptor.Proofs.Evaluation

/-!
The lookups of a run.

With fixed answers a program makes its lookups in one order. A run that shares lookups makes the
same ones, except that a shared lookup is not made again.
-/

namespace VmDescriptor.Program

variable {α β : Type}

/-- The lookups that a program makes if they have fixed answers; one that fails is the last. -/
def asked (answer : FixedAnswers) : Program α → List Lookup
  | .done _ | .fail _ => []
  | .report _ p => p.asked answer
  | .ask c p =>
    c :: match answer c with
      | .ok a => (p a).asked answer
      | .error _ => []

section

variable {answer : FixedAnswers} {c : Lookup}

@[simp] lemma asked_pure (a : α) : (pure a : Program α).asked answer = [] := rfl

lemma asked_lookup (c : Lookup) : (lookup c).asked answer = [c] := by
  simp only [lookup, asked]
  cases answer c <;> rfl

/-- A program goes on to the lookups of another one unless it fails. -/
lemma asked_bind {p : Program α} {k : α → Program β} {cs : List Lookup}
    (hk : ∀ a, p.eval answer = .ok a → (k a).asked answer = cs) :
    (p >>= k).asked answer = p.asked answer ++ if p.failure? answer = none then cs else [] := by
  rw [bind_eq]
  induction p with
  | done a => exact hk a rfl
  | fail e => rfl
  | report n p ih => exact ih hk
  | ask c p ih =>
    unfold failure? at ih ⊢
    simp only [bind, asked, eval] at hk ⊢
    cases hc : answer c with
    | ok a =>
      rw [hc] at hk
      exact congrArg (List.cons c) (ih a hk)
    | error e => rfl

lemma mayAsk_of_mem_asked {p : Program α} (h : c ∈ p.asked answer) :
    p.MayAsk (fixed answer) c := by
  induction p with
  | done a => cases h
  | fail e => cases h
  | report n p ih => exact ih h
  | ask c' p ih =>
    unfold asked at h
    rcases List.mem_cons.mp h with rfl | h
    · exact .inl rfl
    · split at h
      next a ha => exact .inr ⟨a, ha, ih a h⟩
      next => cases h

lemma asked_eq_nil {p : Program α} (h : ∀ c, ¬ p.MayAsk (fixed answer) c) :
    p.asked answer = [] :=
  List.eq_nil_iff_forall_not_mem.mpr fun c hc => h c (mayAsk_of_mem_asked hc)

/-- Going on without lookups adds none. -/
lemma asked_bind_eq_self {p : Program α} {k : α → Program β}
    (hk : ∀ a c, ¬ (k a).MayAsk (fixed answer) c) : (p >>= k).asked answer = p.asked answer := by
  rw [asked_bind fun a _ => asked_eq_nil (hk a), ite_self, List.append_nil]

lemma asked_lookup_bind (c : Lookup) (k : c.Answer → Program β) :
    (lookup c >>= k).asked answer = c :: match answer c with
      | .ok a => (k a).asked answer
      | .error _ => [] := by
  rw [bind_eq]
  simp only [lookup, bind, asked]

lemma asked_notices_bind (ns : List Notice) (k : Unit → Program β) :
    (notices ns >>= k).asked answer = (k ()).asked answer := by
  induction ns with
  | nil => rfl
  | cons n rest ih => exact ih

/-- A lookup that the rest never makes is made by the first part if at all. -/
lemma mem_asked_bind {p : Program α} {k : α → Program β}
    (hk : ∀ a, ¬ (k a).MayAsk (fixed answer) c) :
    c ∈ (p >>= k).asked answer ↔ c ∈ p.asked answer := by
  rw [bind_eq]
  induction p with
  | done a => exact iff_of_false (fun h => hk a (mayAsk_of_mem_asked h)) List.not_mem_nil
  | fail e => rfl
  | report n p ih => exact ih
  | ask c' p ih =>
    simp only [bind, asked, List.mem_cons]
    cases answer c' with
    | ok a => exact or_congr_right (ih a)
    | error e => rfl

/-- Of programs one after the other those are run before which none fails. -/
lemma mem_asked_mapM {f : α → Program β} {xs : List α} :
    c ∈ (xs.mapM f).asked answer ↔ ∃ before x after, xs = before ++ x :: after ∧
      (∀ y ∈ before, (f y).failure? answer = none) ∧ c ∈ (f x).asked answer := by
  induction xs with
  | nil => simp
  | cons x xs ih =>
    have hrest (y : β) : (do let ys ← xs.mapM f; return y :: ys).asked answer =
        (xs.mapM f).asked answer :=
      asked_bind_eq_self fun _ _ => not_mayAsk_pure _
    rw [List.mapM_cons, asked_bind fun y _ => hrest y, List.mem_append]
    constructor
    · rintro (h | h)
      · exact ⟨[], x, xs, rfl, nofun, h⟩
      · split at h
        next hx =>
          obtain ⟨before, y, after, rfl, hbefore, hy⟩ := ih.mp h
          exact ⟨x :: before, y, after, rfl, List.forall_mem_cons.mpr ⟨hx, hbefore⟩, hy⟩
        next => cases h
    · rintro ⟨_ | ⟨x', before⟩, y, after, hxs, hbefore, hy⟩
      · obtain ⟨rfl, rfl⟩ := List.cons.inj hxs
        exact .inl hy
      · obtain ⟨rfl, rfl⟩ := List.cons.inj hxs
        obtain ⟨hx, hbefore⟩ := List.forall_mem_cons.mp hbefore
        rw [if_pos hx]
        exact .inr (ih.mpr ⟨before, y, after, rfl, hbefore, hy⟩)

end

/-! ### Sharing -/

/-- Lookups of which a shared one is left out if it is known or was made before. -/
def withoutRepeats : List Lookup → List Lookup → List Lookup
  | _, [] => []
  | known, c :: rest =>
    if c ∈ known then withoutRepeats known rest
    else c :: withoutRepeats (if isShared c then c :: known else known) rest

section

variable {c : Lookup} {known made : List Lookup}

lemma mem_withoutRepeats : c ∈ withoutRepeats known made ↔ c ∈ made ∧ c ∉ known := by
  induction made generalizing known with
  | nil => simp [withoutRepeats]
  | cons c' rest ih =>
    unfold withoutRepeats
    split
    next hknown =>
      rw [ih, List.mem_cons, or_and_right]
      refine (or_iff_right ?_).symm
      rintro ⟨rfl, hc⟩
      exact hc hknown
    next hknown =>
      rw [List.mem_cons, ih, List.mem_cons]
      by_cases hc : c = c'
      · subst hc
        simp [hknown]
      · have hkeep : c ∈ (if isShared c' then c' :: known else known) ↔ c ∈ known := by
          split
          · rw [List.mem_cons, or_iff_right hc]
          · rfl
        rw [hkeep, or_iff_right hc, or_iff_right hc]

/-- A shared lookup is made once at most. -/
lemma count_withoutRepeats_le (hc : isShared c) : (withoutRepeats known made).count c ≤ 1 := by
  induction made generalizing known with
  | nil => simp [withoutRepeats]
  | cons c' rest ih =>
    unfold withoutRepeats
    split
    · exact ih
    · by_cases h : c' = c
      · subst h
        -- It is known from here on, so the rest leaves it out.
        have hrest : (withoutRepeats (c' :: known) rest).count c' = 0 := by
          rw [List.count_eq_zero, mem_withoutRepeats]
          exact fun hrest => hrest.2 List.mem_cons_self
        have hcount : (c' :: withoutRepeats (c' :: known) rest).count c' = 1 := by
          rw [List.count_cons_self, hrest]
        rw [if_pos hc]
        exact Nat.le_of_eq hcount
      · rw [List.count_cons_of_ne h]
        exact ih

lemma Memory.isSome_learn {m : Memory} (c : Lookup) (a : c.Answer) (c' : Lookup) :
    (m.learn c a c').isSome ↔ c' = c ∨ (m c').isSome := by
  unfold Memory.learn
  split
  next h => simp [h]
  next h => simp [Ne.symm h]

/-- **Each shared lookup once**: a run that remembers makes the lookups of the program without
those shared ones whose answer it knows by then. -/
theorem lookups_runFrom_remembering {answer : FixedAnswers} {stores : Stores}
    (hstores : ∀ past c, stores past c = answer c) {p : Program α} {past : List Lookup}
    {m : Memory} (hm : m.Admissible (fixed answer)) (hknown : ∀ c, (m c).isSome ↔ c ∈ known) :
    (runFrom stores past (remembering m p)).lookups = withoutRepeats known (p.asked answer) := by
  induction p generalizing past m known with
  | done a => rfl
  | fail e => rfl
  | report n p ih => exact ih hm hknown
  | ask c p ih =>
    unfold remembering asked withoutRepeats
    split
    next a ha =>
      have hmem : c ∈ known := (hknown c).mp (by rw [ha]; rfl)
      have hanswer : answer c = .ok a := hm c a ha
      rw [if_pos hmem, hanswer]
      exact ih a hm hknown
    next ha =>
      have hmem : c ∉ known := by
        rw [← hknown, ha]
        exact Bool.false_ne_true
      rw [if_neg hmem, runFrom, hstores]
      cases hanswer : answer c with
      | error e => rfl
      | ok a =>
        refine congrArg (List.cons c) (ih a (hm.keep hanswer) fun c' => ?_)
        split
        · rw [Memory.isSome_learn, hknown, List.mem_cons]
        · exact hknown c'

/-- A run that shares lookups makes those of the program, without repeating shared ones. -/
theorem lookups_run_sharing {answer : FixedAnswers} {stores : Stores}
    (hstores : ∀ past c, stores past c = answer c) (p : Program α) :
    (p.sharing.run stores).lookups = withoutRepeats [] (p.asked answer) :=
  lookups_runFrom_remembering hstores admissible_none (by simp)

end

end VmDescriptor.Program
