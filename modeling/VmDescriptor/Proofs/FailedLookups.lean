import VmDescriptor.Proofs.Outcomes

/-!
Runs in which a lookup fails.

A lookup that fails is the last one of its run, and the run ends with its error. So a run in which
one lookup is made to fail is the run without the failure, cut off at this lookup.
-/

namespace VmDescriptor.Program

variable {α : Type}

/-- The run makes the `n`th lookup of some name: it is `c`, made after the lookups `before`. -/
structure Run.MakesNth (run : Run α) (name : String) (n : Nat) (before : List Lookup)
    (c : Lookup) : Prop where
  made : (before ++ [c]) <+: run.lookups
  named : c.name = name
  count : before.countP (·.name = name) + 1 = n

/-- The run is another one up to the lookup `c` after the lookups `before`, and ends with the
failure of that lookup. -/
structure Run.CutOff (run whole : Run α) (before : List Lookup) (c : Lookup) (e : LookupError) :
    Prop where
  result : run.result = .error (.lookup e)
  lookups : run.lookups = before ++ [c]
  made : (before ++ [c]) <+: whole.lookups
  notices : run.notices <+: whole.notices

section

variable {stores : Stores} {name : String} {n : Nat} {error : Lookup → LookupError}

/-- A run is cut off at the lookup that is made to fail. -/
theorem cutOff_failing {p : Program α} {past before : List Lookup} {c : Lookup}
    (hmade : (before ++ [c]) <+: (runFrom stores past p).lookups) (hname : c.name = name)
    (hcount : (before.reverse ++ past).countP (·.name = name) + 1 = n) :
    (runFrom (stores.failing name n error) past p).CutOff (runFrom stores past p) before c
      (error c) := by
  induction p generalizing past before with
  | done a => exact absurd (List.prefix_nil.mp hmade) (by simp)
  | fail e => exact absurd (List.prefix_nil.mp hmade) (by simp)
  | report notice p ih =>
    obtain ⟨hresult, hlookups, hmade, hnotices⟩ := ih hmade hcount
    exact ⟨hresult, hlookups, hmade, (List.prefix_cons_inj notice).mpr hnotices⟩
  | ask c' p ih =>
    cases before with
    | nil =>
      -- This is the lookup that fails.
      obtain rfl : c = c' := by
        unfold runFrom at hmade
        split at hmade <;> exact (List.cons_prefix_cons.mp hmade).1
      have hfails : stores.failing name n error past c = .error (error c) :=
        if_pos ⟨hname, hcount⟩
      refine ⟨?_, ?_, hmade, ?_⟩ <;> simp only [runFrom, hfails]
      · rfl
      · exact List.nil_prefix
    | cons first rest =>
      -- This lookup is answered as before, as one of the name is still to come.
      have hkept : stores.failing name n error past c' = stores past c' := by
        refine if_neg fun h => ?_
        have hbefore : (c' :: past).countP (·.name = name) = past.countP (·.name = name) + 1 :=
          List.countP_cons_of_pos (by simpa using h.1)
        have hfirst : first = c' := by
          unfold runFrom at hmade
          split at hmade <;> exact (List.cons_prefix_cons.mp hmade).1
        simp only [List.reverse_cons, List.append_assoc, List.singleton_append,
          List.countP_append, hfirst, hbefore] at hcount
        omega
      simp only [runFrom, hkept] at hmade ⊢
      cases hanswer : stores past c' with
      | error e => simp [hanswer, List.cons_prefix_cons] at hmade
      | ok a =>
        simp only [hanswer, List.cons_append, List.cons_prefix_cons] at hmade ⊢
        obtain ⟨rfl, hrest⟩ := hmade
        obtain ⟨hresult, hlookups, hmade, hnotices⟩ := ih a hrest (by simpa using hcount)
        exact ⟨hresult, congrArg _ hlookups, List.cons_prefix_cons.mpr ⟨rfl, hmade⟩, hnotices⟩

/-- A run that does not get to the lookup that would fail is not changed. -/
theorem runFrom_failing_eq {p : Program α} {past : List Lookup}
    (h : ∀ before c, (before ++ [c]) <+: (runFrom stores past p).lookups → c.name = name →
      (before.reverse ++ past).countP (·.name = name) + 1 ≠ n) :
    runFrom (stores.failing name n error) past p = runFrom stores past p := by
  induction p generalizing past with
  | done a => rfl
  | fail e => rfl
  | report notice p ih => simp only [runFrom, ih h]
  | ask c p ih =>
    have hkept : stores.failing name n error past c = stores past c := by
      refine if_neg fun hc => h [] c ?_ hc.1 hc.2
      unfold runFrom
      split <;> exact List.cons_prefix_cons.mpr ⟨rfl, List.nil_prefix⟩
    simp only [runFrom, hkept] at h ⊢
    cases hanswer : stores past c with
    | error e => rfl
    | ok a =>
      simp only [hanswer] at h ⊢
      rw [ih a fun before c' hmade hname => ?_]
      have hcount := h (c :: before) c' (List.cons_prefix_cons.mpr ⟨rfl, hmade⟩) hname
      simpa using hcount

/-- A run ends with the error of a lookup just when its last lookup has failed with it. -/
theorem result_eq_lookup_iff {p : Program α} {past : List Lookup} {e : LookupError}
    (hown : ∀ e, ¬ p.MayFail (givenBy stores) (.lookup e)) :
    (runFrom stores past p).result = .error (.lookup e) ↔
      ∃ before c, (runFrom stores past p).lookups = before ++ [c] ∧
        stores (before.reverse ++ past) c = .error e := by
  induction p generalizing past with
  | done a => simp [runFrom]
  | fail e' =>
    have hne : e' ≠ .lookup e := fun he => hown e (by rw [he]; rfl)
    simp [runFrom, hne]
  | report notice p ih => exact ih hown
  | ask c p ih =>
    simp only [runFrom]
    cases hanswer : stores past c with
    | error e' =>
      simp only [Except.error.injEq, BuildError.lookup.injEq]
      constructor
      · rintro rfl
        exact ⟨[], c, rfl, hanswer⟩
      · rintro ⟨before, c', hlookups, hfailed⟩
        obtain ⟨rfl, hc⟩ := List.append_eq_singleton_iff.mp hlookups.symm |>.resolve_right (by simp)
        obtain rfl : c' = c := List.singleton_inj.mp hc
        exact Except.error.inj (hanswer.symm.trans hfailed)
    | ok a =>
      dsimp only
      rw [ih a fun e he => hown e ⟨a, ⟨past, hanswer⟩, he⟩]
      constructor
      · rintro ⟨before, c', hlookups, hfailed⟩
        exact ⟨c :: before, c', congrArg _ hlookups, by simpa using hfailed⟩
      · rintro ⟨_ | ⟨first, before⟩, c', hlookups, hfailed⟩
        · obtain ⟨rfl, -⟩ := List.cons.inj hlookups
          cases hanswer.symm.trans hfailed
        · obtain ⟨rfl, hrest⟩ := List.cons.inj hlookups
          exact ⟨before, c', hrest, by simpa using hfailed⟩

end

section

variable (stores : Stores) (name : String) (n : Nat) (error : Lookup → LookupError)
  (p : Program α)

/-- **Failures cut runs off**: a run in which the `n`th lookup of some name is made to fail is cut
off there if it gets that far, and else not changed. -/
theorem run_failing :
    (∀ before c, (p.run stores).MakesNth name n before c →
      (p.run (stores.failing name n error)).CutOff (p.run stores) before c (error c)) ∧
    ((∀ before c, ¬ (p.run stores).MakesNth name n before c) →
      p.run (stores.failing name n error) = p.run stores) := by
  constructor
  · rintro before c ⟨hmade, hname, hcount⟩
    exact cutOff_failing hmade hname (by simpa using hcount)
  · intro h
    refine runFrom_failing_eq fun before c hmade hname hcount => ?_
    exact h before c ⟨hmade, hname, by simpa using hcount⟩

end

end VmDescriptor.Program
