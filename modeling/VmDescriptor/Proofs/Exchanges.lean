import VmDescriptor.Proofs.Lookups

/-!
What programs do on the way to a value.

A run that returns a value has had all its lookups answered. What it does in between are exchanges
with the stores and notices; those of a composed program are those of its parts, one after the
other. An answer that is remembered is used without an exchange.
-/

namespace VmDescriptor

/-- A lookup with the answer to it. -/
abbrev Exchange := (c : Lookup) × c.Answer

/-- After the lookups `past`, the latest first, the stores answer as in these exchanges. -/
def Stores.Give (stores : Stores) : List Lookup → List Exchange → Prop
  | _, [] => True
  | past, ⟨c, a⟩ :: rest => stores past c = .ok a ∧ stores.Give (c :: past) rest

/-- What is done on the way to a value. -/
structure Trace (α : Type) where
  exchanges : List Exchange
  notices : List Notice
  value : α

namespace Program

variable {α β : Type}

/-- The program may return a value after some exchanges and notices; answers to shared lookups may
be remembered. -/
def Traces : Program α → List Exchange → List Notice → α → Prop
  | .done a, es, ns, b => es = [] ∧ ns = [] ∧ b = a
  | .fail _, _, _, _ => False
  | .report n p, es, ns, b => ∃ rest, ns = n :: rest ∧ p.Traces es rest b
  | .ask c p, es, ns, b => ∃ a, (∃ rest, es = ⟨c, a⟩ :: rest ∧ (p a).Traces rest ns b) ∨
      isShared c ∧ (p a).Traces es ns b

/-! ### Runs -/

/-- A run that returns a value has exchanged its lookups for answers on the way. -/
theorem exists_traces {stores : Stores} {p : Program α} {past : List Lookup} {m : Memory} {b : α}
    (hm : ∀ c, (m c).isSome → isShared c)
    (h : (runFrom stores past (remembering m p)).result = .ok b) :
    ∃ es, p.Traces es (runFrom stores past (remembering m p)).notices b ∧
      (runFrom stores past (remembering m p)).lookups = es.map Sigma.fst ∧
      stores.Give past es := by
  induction p generalizing past m with
  | done a =>
    obtain rfl : a = b := Except.ok.inj h
    exact ⟨[], ⟨rfl, rfl, rfl⟩, rfl, trivial⟩
  | fail e => cases h
  | report n p ih =>
    obtain ⟨es, htraces, hlookups, hgive⟩ := ih hm h
    exact ⟨es, ⟨_, rfl, htraces⟩, hlookups, hgive⟩
  | ask c p ih =>
    cases hc : m c with
    | some a =>
      simp only [remembering, hc] at h ⊢
      obtain ⟨es, htraces, hlookups, hgive⟩ := ih a hm h
      have hshared : isShared c := hm c (by rw [hc]; rfl)
      exact ⟨es, ⟨a, .inr ⟨hshared, htraces⟩⟩, hlookups, hgive⟩
    | none =>
      simp only [remembering, hc, runFrom] at h ⊢
      cases ha : stores past c with
      | error e => simp [ha] at h
      | ok a =>
        simp only [ha] at h ⊢
        have hkeep (c' : Lookup) :
            ((if isShared c then m.learn c a else m) c').isSome → isShared c' := by
          split
          next hshared =>
            rw [Memory.isSome_learn]
            rintro (rfl | h')
            · exact hshared
            · exact hm c' h'
          next => exact hm c'
        obtain ⟨es, htraces, hlookups, hgive⟩ := ih a hkeep h
        exact ⟨⟨c, a⟩ :: es, ⟨a, .inl ⟨es, rfl, htraces⟩⟩, congrArg (List.cons c) hlookups,
          ha, hgive⟩

/-! ### Composed programs -/

section

variable {es : List Exchange} {ns : List Notice}

@[simp] lemma traces_pure {a b : α} :
    (pure a : Program α).Traces es ns b ↔ es = [] ∧ ns = [] ∧ b = a := Iff.rfl

lemma traces_bind {p : Program α} {k : α → Program β} {b : β} :
    (p >>= k).Traces es ns b ↔ ∃ a es₁ ns₁ es₂ ns₂, p.Traces es₁ ns₁ a ∧
      (k a).Traces es₂ ns₂ b ∧ es = es₁ ++ es₂ ∧ ns = ns₁ ++ ns₂ := by
  rw [bind_eq]
  induction p generalizing es ns with
  | done a => simp [bind, Traces]
  | fail e => simp [bind, Traces]
  | report n p ih =>
    simp only [bind, Traces, ih]
    constructor
    · rintro ⟨rest, rfl, a, es₁, ns₁, es₂, ns₂, h₁, h₂, rfl, rfl⟩
      exact ⟨a, es₁, n :: ns₁, es₂, ns₂, ⟨ns₁, rfl, h₁⟩, h₂, rfl, rfl⟩
    · rintro ⟨a, es₁, -, es₂, ns₂, ⟨ns₁, rfl, h₁⟩, h₂, rfl, rfl⟩
      exact ⟨ns₁ ++ ns₂, rfl, a, es₁, ns₁, es₂, ns₂, h₁, h₂, rfl, rfl⟩
  | ask c p ih =>
    simp only [bind, Traces, ih]
    constructor
    · rintro ⟨x, ⟨rest, rfl, a, es₁, ns₁, es₂, ns₂, h₁, h₂, rfl, rfl⟩ |
        ⟨hc, a, es₁, ns₁, es₂, ns₂, h₁, h₂, rfl, rfl⟩⟩
      · exact ⟨a, ⟨c, x⟩ :: es₁, ns₁, es₂, ns₂, ⟨x, .inl ⟨es₁, rfl, h₁⟩⟩, h₂, rfl, rfl⟩
      · exact ⟨a, es₁, ns₁, es₂, ns₂, ⟨x, .inr ⟨hc, h₁⟩⟩, h₂, rfl, rfl⟩
    · rintro ⟨a, es₁, ns₁, es₂, ns₂, ⟨x, ⟨rest, rfl, h₁⟩ | ⟨hc, h₁⟩⟩, h₂, rfl, rfl⟩
      · exact ⟨x, .inl ⟨rest ++ es₂, rfl, a, rest, ns₁, es₂, ns₂, h₁, h₂, rfl, rfl⟩⟩
      · exact ⟨x, .inr ⟨hc, a, es₁, ns₁, es₂, ns₂, h₁, h₂, rfl, rfl⟩⟩

/-- A lookup that is not shared is an exchange. -/
lemma traces_lookup {c : Lookup} (hc : isShared c = false) {a : c.Answer} :
    (lookup c).Traces es ns a ↔ es = [⟨c, a⟩] ∧ ns = [] := by
  simp only [lookup, Traces, hc]
  constructor
  · rintro ⟨_, ⟨rest, rfl, rfl, rfl, rfl⟩ | ⟨h, -⟩⟩
    · exact ⟨rfl, rfl⟩
    · cases h
  · rintro ⟨rfl, rfl⟩
    exact ⟨a, .inl ⟨[], rfl, rfl, rfl, rfl⟩⟩

@[simp] lemma traces_notice {n : Notice} {u : Unit} :
    (notice n).Traces es ns u ↔ es = [] ∧ ns = [n] := by
  simp [notice, Traces, and_comm]

@[simp] lemma traces_notices {reported : List Notice} {u : Unit} :
    (notices reported).Traces es ns u ↔ es = [] ∧ ns = reported := by
  induction reported generalizing ns with
  | nil => simp [notices, Traces]
  | cons n rest ih =>
    have hreport : notices (n :: rest) = .report n (notices rest) := rfl
    simp [hreport, Traces, ih, and_comm]

/-- Programs that run one after the other do what each of them does. -/
lemma exists_traces_of_mapM {f : α → Program β} {xs : List α} {ys : List β}
    (h : (xs.mapM f).Traces es ns ys) :
    ∃ ts : List (Trace β),
      List.Forall₂ (fun x t => (f x).Traces t.exchanges t.notices t.value) xs ts ∧
      es = ts.flatMap Trace.exchanges ∧ ns = ts.flatMap Trace.notices ∧
      ys = ts.map Trace.value := by
  induction xs generalizing es ns ys with
  | nil =>
    obtain ⟨rfl, rfl, rfl⟩ := h
    exact ⟨[], .nil, rfl, rfl, rfl⟩
  | cons x xs ih =>
    simp only [List.mapM_cons, traces_bind, traces_pure] at h
    obtain ⟨y, es₁, ns₁, _, _, hx, ⟨rest, es₂, ns₂, _, _, hrest, ⟨rfl, rfl, rfl⟩, rfl, rfl⟩,
      rfl, rfl⟩ := h
    obtain ⟨ts, hts, rfl, rfl, rfl⟩ := ih hrest
    exact ⟨⟨es₁, ns₁, y⟩ :: ts, .cons hx hts, by simp, by simp, rfl⟩

end

/-! ### Values and notices -/

/-- A value that is reached is one that may be returned. -/
lemma mayReturn_of_traces {p : Program α} {es : List Exchange} {ns : List Notice} {b : α}
    (h : p.Traces es ns b) : p.MayReturn (fun _ _ => True) b := by
  induction p generalizing es ns with
  | done a => exact congrArg Except.ok h.2.2
  | fail e => cases h
  | report n p ih =>
    obtain ⟨rest, -, h⟩ := h
    exact ih h
  | ask c p ih =>
    obtain ⟨a, ⟨rest, -, h⟩ | ⟨-, h⟩⟩ := h
    · exact ⟨a, trivial, ih a h⟩
    · exact ⟨a, trivial, ih a h⟩

/-- A program that makes no lookup has no exchanges. -/
lemma exchanges_eq_nil {p : Program α} {es : List Exchange} {ns : List Notice} {b : α}
    (hp : ∀ c, ¬ p.MayAsk (fun _ _ => True) c) (h : p.Traces es ns b) : es = [] := by
  induction p generalizing es ns with
  | done a => exact h.1
  | fail e => cases h
  | report n p ih =>
    obtain ⟨rest, -, h⟩ := h
    exact ih hp h
  | ask c p ih => exact absurd (.inl rfl) (hp c)

/-- All notices that the program may report have a property. -/
def ReportsOnly (P : Notice → Prop) : Program α → Prop
  | .done _ | .fail _ => True
  | .report n p => P n ∧ p.ReportsOnly P
  | .ask _ p => ∀ a, (p a).ReportsOnly P

section

variable {P : Notice → Prop}

@[simp] lemma reportsOnly_pure (a : α) : (pure a : Program α).ReportsOnly P := trivial

lemma ReportsOnly.bind {p : Program α} {k : α → Program β} (hp : p.ReportsOnly P)
    (hk : ∀ a, (k a).ReportsOnly P) : (p >>= k).ReportsOnly P := by
  rw [bind_eq]
  induction p with
  | done a => exact hk a
  | fail e => trivial
  | report n p ih => exact ⟨hp.1, ih hp.2⟩
  | ask c p ih => exact fun a => ih a (hp a)

lemma reportsOnly_lookup_bind {c : Lookup} {k : c.Answer → Program β}
    (hk : ∀ a, (k a).ReportsOnly P) : (lookup c >>= k).ReportsOnly P := hk

@[simp] lemma reportsOnly_exact (n : Option α) : (exact n).ReportsOnly P := by
  cases n <;> trivial

@[simp] lemma reportsOnly_notice {n : Notice} : (notice n).ReportsOnly P ↔ P n :=
  and_iff_left trivial

@[simp] lemma reportsOnly_notices {ns : List Notice} :
    (notices ns).ReportsOnly P ↔ ∀ n ∈ ns, P n := by
  induction ns with
  | nil => exact iff_of_true trivial (List.forall_mem_nil _)
  | cons n rest ih =>
    rw [List.forall_mem_cons, ← ih]
    rfl

lemma reportsOnly_mapM {f : α → Program β} {xs : List α} (h : ∀ x ∈ xs, (f x).ReportsOnly P) :
    (xs.mapM f).ReportsOnly P := by
  induction xs with
  | nil => trivial
  | cons x xs ih =>
    rw [List.mapM_cons]
    refine (h x List.mem_cons_self).bind fun y => ?_
    exact (ih fun x' hx' => h x' (List.mem_cons_of_mem x hx')).bind fun ys => trivial

/-- The notices on the way to a value are of those that the program may report. -/
lemma ReportsOnly.forall_mem {p : Program α} {es : List Exchange} {ns : List Notice} {b : α}
    (hp : p.ReportsOnly P) (h : p.Traces es ns b) : ∀ n ∈ ns, P n := by
  induction p generalizing es ns with
  | done a =>
    obtain ⟨-, rfl, -⟩ := h
    exact List.forall_mem_nil _
  | fail e => cases h
  | report n p ih =>
    obtain ⟨rest, rfl, h⟩ := h
    exact List.forall_mem_cons.mpr ⟨hp.1, ih hp.2 h⟩
  | ask c p ih =>
    obtain ⟨a, ⟨rest, -, h⟩ | ⟨-, h⟩⟩ := h
    · exact ih a (hp a) h
    · exact ih a (hp a) h

end

end Program

end VmDescriptor
