import Mathlib.Data.List.Induction
import Mathlib.Order.Bounds.Basic
import VmDescriptor.Proofs.DiskIndices

/-!
Calls on the indices of one descriptor, in any order.

What a call returns is determined by the calls before it: the index of a disk is the least one
beyond those of its family that its interface does not skip, and controllers are numbered on
their own. So the indices of a family grow, leave out reserved ones only, and do not depend on
the other families; and a history stays within 32 bits as long as it has fewer calls than these
can number.
-/

namespace VmDescriptor.DiskIndices

/-- A call that reserves an index or takes the next one. -/
inductive Call where
  | payload
  | cdrom
  | controller
  | disk (interface : DiskInterface)
  deriving DecidableEq

/-- Makes a call. -/
def perform (ix : DiskIndices) : Call → Nat × DiskIndices
  | .payload => ix.reservePayload
  | .cdrom => ix.reserveCdrom
  | .controller => ix.takeController
  | .disk interface => ix.take interface

/-- Calls one after the other, each with the index that it returns. -/
def history : DiskIndices → List Call → List (Call × Nat)
  | _, [] => []
  | ix, c :: rest => (c, (ix.perform c).1) :: (ix.perform c).2.history rest

/-! ### Reading a history -/

/-- The index that an entry gives to a disk of the family. -/
def diskIndex? (family : BusFamily) : Call × Nat → Option Nat
  | (.disk interface, n) => if interface.family = family then some n else none
  | _ => none

/-- The index that an entry reserves. -/
def reservedIndex? : Call × Nat → Option Nat
  | (.payload, n) | (.cdrom, n) => some n
  | _ => none

/-- The index that an entry gives to a controller. -/
def controllerIndex? : Call × Nat → Option Nat
  | (.controller, n) => some n
  | _ => none

/-- The indices of the disks of a family, in the order in which they were taken. -/
def indicesOf (family : BusFamily) (past : List (Call × Nat)) : List Nat :=
  past.filterMap (diskIndex? family)

/-- The indices that have been reserved. -/
def reservedIn (past : List (Call × Nat)) : List Nat :=
  past.filterMap reservedIndex?

/-- The indices of the controllers, in the order in which they were taken. -/
def controllersOf (past : List (Call × Nat)) : List Nat :=
  past.filterMap controllerIndex?

/-- What a call should return after a history: a disk takes the least index that is greater than
those of its family, and is not reserved if its interface is that of the CD-ROMs. -/
def Returns (arch : Architecture) (cd : CdInterface) (past : List (Call × Nat)) :
    Call × Nat → Prop
  | (.payload, n) => n = cd.payloadIndex
  | (.cdrom, n) => n = cd.cdromIndex
  | (.controller, n) => ∃ base, controllerBase? arch .virtioScsi = some base ∧
      n = base + (controllersOf past).length
  | (.disk interface, n) => IsLeast {m | (∀ i ∈ indicesOf interface.family past, i < m) ∧
      ¬ (cd.diskInterface? = some interface ∧ m ∈ reservedIn past)} n

/-- Every call of a history has returned what it should. -/
def Returned (arch : Architecture) (cd : CdInterface) (past : List (Call × Nat)) : Prop :=
  ∀ before e after, past = before ++ e :: after → Returns arch cd before e

/-- The calls that matter to the disks of a family: the reservations and its own. -/
def concerns (family : BusFamily) : Call → Bool
  | .payload | .cdrom => true
  | .controller => false
  | .disk interface => interface.family = family

/-- What a history of calls on the indices of a new descriptor is like. -/
structure Counted (arch : Architecture) (cd : CdInterface) (calls : List Call)
    (past : List (Call × Nat)) : Prop where
  made : past.map Prod.fst = calls
  returned : Returned arch cd past
  increasing (family : BusFamily) : (indicesOf family past).Pairwise (· < ·)
  /-- An index that a family leaves out is reserved, and the CD-ROMs are on its bus. -/
  gaps : ∀ {family n m}, n ∈ indicesOf family past → m < n → m ∉ indicesOf family past →
    m ∈ reservedIn past ∧ cd.diskInterface?.map DiskInterface.family = some family
  /-- The calls that do not concern a family can be left out. -/
  apart (family : BusFamily) : indicesOf family past =
    indicesOf family ((initial arch cd).history (calls.filter (concerns family)))
  controllers : ∃ base, controllerBase? arch .virtioScsi = some base ∧
    controllersOf past = List.range' base (calls.count .controller)
  /-- No index is the last one of 32 bits. -/
  fits : ∀ e ∈ past, e.2 + 1 < UInt32.size

/-! ### Histories that return what they should -/

section

variable {arch : Architecture} {cd : CdInterface} {past : List (Call × Nat)} {e : Call × Nat}

lemma returned_nil : Returned arch cd [] := by
  intro before e after h
  simp at h

lemma returned_append_singleton :
    Returned arch cd (past ++ [e]) ↔ Returned arch cd past ∧ Returns arch cd past e := by
  constructor
  · refine fun h => ⟨?_, h past e [] rfl⟩
    rintro before x after rfl
    exact h before x (after ++ [e]) (by simp)
  · rintro ⟨hpast, he⟩ before x after h
    cases after using List.reverseRecOn with
    | nil =>
      obtain ⟨rfl, hx⟩ := List.append_inj' h rfl
      obtain rfl := List.singleton_inj.mp hx
      exact he
    | append_singleton after y =>
      rw [← List.cons_append, ← List.append_assoc] at h
      exact hpast before x after (List.append_inj' h rfl).1

lemma Returned.of_mem (h : Returned arch cd past) (he : e ∈ past) :
    ∃ before after, past = before ++ e :: after ∧ Returns arch cd before e := by
  obtain ⟨before, after, hsplit⟩ := List.append_of_mem he
  exact ⟨before, after, hsplit, h before e after hsplit⟩

lemma Returned.eq_payloadIndex {n : Nat} (h : Returned arch cd past) (hn : (.payload, n) ∈ past) :
    n = cd.payloadIndex := by
  obtain ⟨before, after, _, hreturns⟩ := h.of_mem hn
  exact hreturns

lemma Returned.eq_cdromIndex {n : Nat} (h : Returned arch cd past) (hn : (.cdrom, n) ∈ past) :
    n = cd.cdromIndex := by
  obtain ⟨before, after, _, hreturns⟩ := h.of_mem hn
  exact hreturns

lemma mem_reservedIn {n : Nat} :
    n ∈ reservedIn past ↔ (.payload, n) ∈ past ∨ (.cdrom, n) ∈ past := by
  rw [reservedIn, List.mem_filterMap]
  constructor
  · rintro ⟨⟨c, m⟩, hmem, hn⟩
    cases c <;> simp only [reservedIndex?, Option.some.injEq, reduceCtorEq] at hn <;> subst hn
    · exact .inl hmem
    · exact .inr hmem
  · rintro (h | h)
    · exact ⟨_, h, rfl⟩
    · exact ⟨_, h, rfl⟩

lemma mem_reservedIn_append {n : Nat} (h : n ∈ reservedIn past) :
    n ∈ reservedIn (past ++ [e]) := by
  rw [reservedIn, List.filterMap_append]
  exact List.mem_append_left _ h

lemma indicesOf_append_singleton (family : BusFamily) (past : List (Call × Nat))
    (e : Call × Nat) :
    indicesOf family (past ++ [e]) = indicesOf family past ++ (diskIndex? family e).toList := by
  rw [indicesOf, List.filterMap_append, ← indicesOf]
  cases h : diskIndex? family e <;> simp [h]

lemma diskIndex?_eq_some_iff {family : BusFamily} {n : Nat} :
    diskIndex? family e = some n ↔
      ∃ interface, interface.family = family ∧ e = (.disk interface, n) := by
  obtain ⟨c, m⟩ := e
  cases c with
  | disk interface => simp [diskIndex?, eq_comm]
  | _ => simp [diskIndex?]

/-- **Growth**: the indices of a family grow. -/
theorem Returned.pairwise_indicesOf (h : Returned arch cd past) (family : BusFamily) :
    (indicesOf family past).Pairwise (· < ·) := by
  induction past using List.reverseRecOn with
  | nil => exact .nil
  | append_singleton past e ih =>
    obtain ⟨hpast, he⟩ := returned_append_singleton.mp h
    rw [indicesOf_append_singleton, List.pairwise_append]
    refine ⟨ih hpast, by cases diskIndex? family e <;> simp, fun i hi n hn => ?_⟩
    obtain ⟨interface, rfl, rfl⟩ := diskIndex?_eq_some_iff.mp (Option.mem_toList.mp hn)
    exact he.1.1 i hi

/-- **Gaps**: an index that a family leaves out is reserved, and the CD-ROMs are on its bus. -/
theorem Returned.reserved_of_gap (h : Returned arch cd past) {family : BusFamily} {n m : Nat}
    (hn : n ∈ indicesOf family past) (hlt : m < n) (hgap : m ∉ indicesOf family past) :
    m ∈ reservedIn past ∧ cd.diskInterface?.map DiskInterface.family = some family := by
  induction past using List.reverseRecOn generalizing n with
  | nil => cases hn
  | append_singleton past e ih =>
    obtain ⟨hpast, he⟩ := returned_append_singleton.mp h
    rw [indicesOf_append_singleton, List.mem_append, Option.mem_toList] at hn hgap
    obtain ⟨hgap, -⟩ := not_or.mp hgap
    have hearlier (i : Nat) (hi : i ∈ indicesOf family past) (hle : m ≤ i) :
        m ∈ reservedIn (past ++ [e]) ∧
          cd.diskInterface?.map DiskInterface.family = some family := by
      have hne : m ≠ i := fun heq => hgap (heq ▸ hi)
      obtain ⟨hreserved, hfamily⟩ := ih hpast hi (by omega) hgap
      exact ⟨mem_reservedIn_append hreserved, hfamily⟩
    obtain hn | hn := hn
    · exact hearlier n hn hlt.le
    obtain ⟨interface, rfl, rfl⟩ := diskIndex?_eq_some_iff.mp hn
    -- A number below the least one that is allowed is not allowed.
    have hnot := fun hallowed => Nat.not_le_of_lt hlt (he.2 hallowed)
    by_cases hbelow : ∀ i ∈ indicesOf interface.family past, i < m
    · obtain ⟨hcd, hreserved⟩ := not_not.mp fun hfree => hnot ⟨hbelow, hfree⟩
      exact ⟨mem_reservedIn_append hreserved, by rw [hcd]; rfl⟩
    · simp only [not_forall, Nat.not_lt] at hbelow
      obtain ⟨i, hi, hle⟩ := hbelow
      exact hearlier i hi hle

lemma controllersOf_append_singleton (past : List (Call × Nat)) (e : Call × Nat) :
    controllersOf (past ++ [e]) = controllersOf past ++ (controllerIndex? e).toList := by
  rw [controllersOf, List.filterMap_append, ← controllersOf]
  cases h : controllerIndex? e <;> simp [h]

/-- **Controllers**: whatever the other calls are, controllers are numbered one by one. -/
theorem Returned.controllersOf_eq (h : Returned arch cd past) :
    ∃ base, controllerBase? arch .virtioScsi = some base ∧
      controllersOf past = List.range' base ((past.map Prod.fst).count .controller) := by
  induction past using List.reverseRecOn with
  | nil => cases arch <;> exact ⟨_, rfl, rfl⟩
  | append_singleton past e ih =>
    obtain ⟨hpast, he⟩ := returned_append_singleton.mp h
    obtain ⟨base, hbase, hcontrollers⟩ := ih hpast
    refine ⟨base, hbase, ?_⟩
    rw [controllersOf_append_singleton, List.map_append, List.count_append, hcontrollers]
    obtain ⟨c, n⟩ := e
    cases c with
    | controller =>
      obtain ⟨base', hbase', rfl⟩ := he
      obtain rfl : base = base' := Option.some.inj (hbase.symm.trans hbase')
      simp [controllerIndex?, hcontrollers, List.range'_concat]
    | _ => simp [controllerIndex?]

end

/-! ### One call -/

/-- What a history leaves in the state. -/
structure After (arch : Architecture) (cd : CdInterface) (past : List (Call × Nat))
    (ix : DiskIndices) : Prop where
  cd : ix.cd = cd
  payload (n : Nat) : ix.payload = some n ↔ (.payload, n) ∈ past
  cdrom (n : Nat) : ix.cdrom = some n ↔ (.cdrom, n) ∈ past
  last (family : BusFamily) : ix.last family = (indicesOf family past).getLast?
  controller : ∃ base, controllerBase? arch .virtioScsi = some base ∧
    ix.nextController = base + (controllersOf past).length

section

variable {arch : Architecture} {cd : CdInterface} {past : List (Call × Nat)} {ix : DiskIndices}

lemma After.initial (arch : Architecture) (cd : CdInterface) :
    After arch cd [] (initial arch cd) where
  cd := rfl
  payload n := by simp [DiskIndices.initial]
  cdrom n := by simp [DiskIndices.initial]
  last _ := rfl
  controller := by cases arch <;> exact ⟨_, rfl, rfl⟩

lemma After.mem_reserved (h : After arch cd past ix) {interface : DiskInterface} {n : Nat} :
    n ∈ ix.reserved interface ↔ cd.diskInterface? = some interface ∧ n ∈ reservedIn past := by
  rw [mem_reservedIn, ← h.payload, ← h.cdrom, reserved, h.cd]
  split <;> simp [*]

/-- All numbers of a list that grows are below `m` if its last one is. -/
lemma forall_lt_iff_getLast? {l : List Nat} (h : l.Pairwise (· < ·)) {m : Nat} :
    (∀ i ∈ l.getLast?, i < m) ↔ ∀ i ∈ l, i < m := by
  cases l using List.reverseRecOn with
  | nil => simp
  | append_singleton l n =>
    have hlt : ∀ i ∈ l, i < n := fun i hi => (List.pairwise_append.mp h).2.2 i hi n (by simp)
    simp only [List.getLast?_concat, Option.mem_some_iff, forall_eq', List.mem_append,
      List.mem_singleton]
    refine ⟨fun hn i hi => ?_, fun hall => hall n (.inr rfl)⟩
    obtain hi | rfl := hi
    · exact (hlt i hi).trans hn
    · exact hn

/-- A call returns what it should. -/
lemma After.returns_perform (h : After arch cd past ix) (hpast : Returned arch cd past)
    (c : Call) : Returns arch cd past (c, (ix.perform c).1) := by
  cases c with
  | payload => exact congrArg CdInterface.payloadIndex h.cd
  | cdrom => exact congrArg CdInterface.cdromIndex h.cd
  | controller => exact h.controller
  | disk interface =>
    have hleast := ix.isLeast_take interface
    simp only [h.last, h.mem_reserved, forall_lt_iff_getLast? (hpast.pairwise_indicesOf _)]
      at hleast
    exact hleast

/-- A call leaves the state of the history with its entry. -/
lemma After.perform (h : After arch cd past ix) (hpast : Returned arch cd past) (c : Call) :
    After arch cd (past ++ [(c, (ix.perform c).1)]) (ix.perform c).2 where
  cd := by cases c <;> exact h.cd
  payload n := by
    rw [List.mem_append, List.mem_singleton, Prod.mk.injEq, ← h.payload]
    cases c with
    | payload =>
      refine ⟨fun hn => .inr ⟨rfl, (Option.some.inj hn).symm⟩, fun hn => congrArg some ?_⟩
      obtain hn | ⟨-, rfl⟩ := hn
      · rw [hpast.eq_payloadIndex ((h.payload n).mp hn), h.cd]
      · rfl
    | _ => simp [DiskIndices.perform, reserveCdrom, takeController, take]
  cdrom n := by
    rw [List.mem_append, List.mem_singleton, Prod.mk.injEq, ← h.cdrom]
    cases c with
    | cdrom =>
      refine ⟨fun hn => .inr ⟨rfl, (Option.some.inj hn).symm⟩, fun hn => congrArg some ?_⟩
      obtain hn | ⟨-, rfl⟩ := hn
      · rw [hpast.eq_cdromIndex ((h.cdrom n).mp hn), h.cd]
      · rfl
    | _ => simp [DiskIndices.perform, reservePayload, takeController, take]
  last family := by
    rw [indicesOf_append_singleton]
    cases c with
    | disk interface =>
      by_cases hfamily : family = interface.family
      · subst hfamily
        simp [DiskIndices.perform, last_take, diskIndex?]
      · simpa [DiskIndices.perform, last_take, diskIndex?, hfamily, Ne.symm hfamily]
          using h.last family
    | _ => simpa [DiskIndices.perform, reservePayload, reserveCdrom, takeController, diskIndex?]
        using h.last family
  controller := by
    obtain ⟨base, hbase, hnext⟩ := h.controller
    refine ⟨base, hbase, ?_⟩
    rw [controllersOf_append_singleton]
    cases c with
    | controller => simp [DiskIndices.perform, takeController, controllerIndex?, hnext]; omega
    | _ => simpa [DiskIndices.perform, reservePayload, reserveCdrom, take, controllerIndex?]
        using hnext

/-! ### Many calls -/

/-- Calls made in such a state return what they should. -/
lemma After.returned_history (h : After arch cd past ix) (hpast : Returned arch cd past)
    (calls : List Call) : Returned arch cd (past ++ ix.history calls) := by
  induction calls generalizing past ix with
  | nil => simpa [history] using hpast
  | cons c rest ih =>
    have hentry := h.returns_perform hpast c
    have hrun := ih (h.perform hpast c) (returned_append_singleton.mpr ⟨hpast, hentry⟩)
    rwa [List.append_assoc] at hrun

lemma map_fst_history (ix : DiskIndices) (calls : List Call) :
    (ix.history calls).map Prod.fst = calls := by
  induction calls generalizing ix with
  | nil => rfl
  | cons c rest ih => rw [history, List.map_cons, ih]

end

/-! ### Families apart -/

/-- The states give the same indices to the disks of a family. -/
structure Agree (family : BusFamily) (ix ix' : DiskIndices) : Prop where
  cd : ix.cd = ix'.cd
  payload : ix.payload = ix'.payload
  cdrom : ix.cdrom = ix'.cdrom
  last : ix.last family = ix'.last family

section

variable {family : BusFamily} {ix ix' : DiskIndices}

lemma Agree.take_eq (h : Agree family ix ix') {interface : DiskInterface}
    (hfamily : interface.family = family) : (ix.take interface).1 = (ix'.take interface).1 := by
  simp only [take, reserved, h.cd, h.payload, h.cdrom, hfamily, h.last]

/-- The same call gives the same index to the family. -/
lemma Agree.diskIndex?_perform (h : Agree family ix ix') (c : Call) :
    diskIndex? family (c, (ix.perform c).1) = diskIndex? family (c, (ix'.perform c).1) := by
  cases c with
  | disk interface =>
    by_cases hfamily : interface.family = family
    · rw [diskIndex?, diskIndex?, if_pos hfamily, if_pos hfamily]
      exact congrArg some (h.take_eq hfamily)
    · rw [diskIndex?, diskIndex?, if_neg hfamily, if_neg hfamily]
  | _ => rfl

/-- States go on agreeing when the same call is made in both. -/
lemma Agree.perform (h : Agree family ix ix') (c : Call) :
    Agree family (ix.perform c).2 (ix'.perform c).2 := by
  cases c with
  | payload => exact ⟨h.cd, congrArg (some ∘ CdInterface.payloadIndex) h.cd, h.cdrom, h.last⟩
  | cdrom => exact ⟨h.cd, h.payload, congrArg (some ∘ CdInterface.cdromIndex) h.cd, h.last⟩
  | controller => exact ⟨h.cd, h.payload, h.cdrom, h.last⟩
  | disk interface =>
    refine ⟨h.cd, h.payload, h.cdrom, ?_⟩
    by_cases hfamily : interface.family = family
    · simp [DiskIndices.perform, last_take, hfamily, h.take_eq hfamily]
    · simp [DiskIndices.perform, last_take, Ne.symm hfamily, h.last]

/-- States go on agreeing when a call that does not concern the family is made in one. -/
lemma Agree.perform_left (h : Agree family ix ix') {c : Call} (hc : concerns family c = false) :
    Agree family (ix.perform c).2 ix' := by
  cases c with
  | controller => exact ⟨h.cd, h.payload, h.cdrom, h.last⟩
  | disk interface =>
    have hfamily : family ≠ interface.family := by
      rintro rfl
      simp [concerns] at hc
    exact ⟨h.cd, h.payload, h.cdrom, by
      simpa [DiskIndices.perform, last_take, hfamily] using h.last⟩
  | _ => simp [concerns] at hc

lemma diskIndex?_of_not_concerns {e : Call × Nat} (h : concerns family e.1 = false) :
    diskIndex? family e = none := by
  obtain ⟨c, n⟩ := e
  cases c with
  | disk interface => simpa [concerns, diskIndex?] using h
  | _ => rfl

/-- **Independence**: the indices of a family do not depend on the calls that do not concern
it. -/
theorem Agree.indicesOf_history (h : Agree family ix ix') (calls : List Call) :
    indicesOf family (ix.history calls) =
      indicesOf family (ix'.history (calls.filter (concerns family))) := by
  induction calls generalizing ix ix' with
  | nil => rfl
  | cons c rest ih =>
    by_cases hc : concerns family c
    · rw [List.filter_cons_of_pos hc, history, history, indicesOf, indicesOf,
        List.filterMap_cons, List.filterMap_cons, h.diskIndex?_perform c, ← indicesOf, ← indicesOf,
        ih (h.perform c)]
    · rw [Bool.not_eq_true] at hc
      rw [List.filter_cons_of_neg (by simp [hc]), history, indicesOf,
        List.filterMap_cons_none (diskIndex?_of_not_concerns hc), ← indicesOf,
        ih (h.perform_left hc)]

end

/-! ### Thirty-two bits -/

/-- The state is one that `k` calls can reach. -/
structure Within (k : Nat) (ix : DiskIndices) : Prop where
  reach (family : BusFamily) : ix.reach family ≤ k
  controller : ix.nextController ≤ k + 1

section

variable {k : Nat} {ix : DiskIndices}

lemma Within.initial (arch : Architecture) (cd : CdInterface) :
    Within 0 (initial arch cd) where
  reach _ := Nat.le_refl 0
  controller := by cases arch <;> simp [DiskIndices.initial, controllerBase?, Architecture.family]

/-- A call takes a family at most one further. -/
lemma reach_perform_le (ix : DiskIndices) (c : Call) (family : BusFamily) :
    (ix.perform c).2.reach family ≤ ix.reach family + 1 := by
  have hstart (h : (ix.perform c).2.start family = ix.start family)
      (n : Nat) (hle : (ix.perform c).2.reservedAll.countP (ix.start family ≤ ·) ≤
        (n :: ix.reservedAll).countP (ix.start family ≤ ·)) :
      (ix.perform c).2.reach family ≤ ix.reach family + 1 := by
    rw [List.countP_cons] at hle
    rw [reach, reach, h]
    split at hle <;> omega
  cases c with
  | payload =>
    refine hstart rfl ix.cd.payloadIndex (List.Sublist.countP_le ?_)
    exact (List.sublist_append_right _ _).cons_cons _
  | cdrom =>
    have hperm := List.perm_append_singleton ix.cd.cdromIndex ix.payload.toList
    refine hstart rfl ix.cd.cdromIndex ((hperm.countP_eq _).trans_le (List.Sublist.countP_le ?_))
    exact (List.sublist_append_left _ _).cons_cons _
  | controller => exact Nat.le_succ _
  | disk interface => exact ix.reach_take_le interface family

lemma Within.perform (h : Within k ix) (c : Call) : Within (k + 1) (ix.perform c).2 where
  reach family := (reach_perform_le ix c family).trans (Nat.succ_le_succ (h.reach family))
  controller := by
    have := h.controller
    cases c with
    | controller => exact Nat.succ_le_succ this
    | _ => exact Nat.le_succ_of_le this

lemma cdromIndex_le (cd : CdInterface) : cd.cdromIndex ≤ 2 := by
  cases cd <;> decide

lemma Within.perform_lt (h : Within k ix) (c : Call) : (ix.perform c).1 < k + 3 := by
  cases c with
  | payload => simp [DiskIndices.perform, reservePayload, CdInterface.payloadIndex]
  | cdrom => exact Nat.lt_of_le_of_lt (cdromIndex_le ix.cd) (by omega)
  | controller => exact Nat.lt_of_le_of_lt h.controller (by omega)
  | disk interface =>
    exact Nat.lt_of_le_of_lt ((ix.take_le_reach interface).trans (h.reach _)) (by omega)

lemma Within.history_lt (h : Within k ix) {calls : List Call} {e : Call × Nat}
    (he : e ∈ ix.history calls) : e.2 < k + 2 + calls.length := by
  induction calls generalizing k ix with
  | nil => cases he
  | cons c rest ih =>
    rw [List.length_cons]
    obtain rfl | he := List.mem_cons.mp he
    · exact Nat.lt_of_lt_of_le (h.perform_lt c) (by omega)
    · exact Nat.lt_of_lt_of_le (ih (h.perform c) he) (by omega)

end

/-- The indices of a new descriptor, whatever is called and in which order. -/
theorem counted_history (arch : Architecture) (cd : CdInterface) (calls : List Call)
    (h : calls.length < UInt32.size - 2) :
    Counted arch cd calls ((initial arch cd).history calls) := by
  have hafter := After.initial arch cd
  have hreturned : Returned arch cd ((initial arch cd).history calls) :=
    hafter.returned_history returned_nil calls
  have hmade := map_fst_history (initial arch cd) calls
  exact {
    made := hmade
    returned := hreturned
    increasing := hreturned.pairwise_indicesOf
    gaps := hreturned.reserved_of_gap
    apart := fun family => Agree.indicesOf_history ⟨rfl, rfl, rfl, rfl⟩ calls
    controllers := by
      have hcontrollers := hreturned.controllersOf_eq
      rwa [hmade] at hcontrollers
    fits := fun e he => by
      have hlt := (Within.initial arch cd).history_lt he
      omega }

/-- The sPAPR disk takes an index that is reserved for CD-ROMs on the bus of the others; the last
VirtIO-SCSI disk passes over the one reserved in between. -/
theorem counted_history_scsi :
    Counted .ppc64 .scsi
      [.payload, .disk .virtioScsi, .controller, .disk .spaprVscsi, .cdrom, .disk .virtioScsi,
        .disk .ide, .controller]
      [(.payload, 1), (.disk .virtioScsi, 0), (.controller, 1), (.disk .spaprVscsi, 1),
        (.cdrom, 2), (.disk .virtioScsi, 3), (.disk .ide, 0), (.controller, 2)] := by
  have hhistory : (initial .ppc64 .scsi).history
      [.payload, .disk .virtioScsi, .controller, .disk .spaprVscsi, .cdrom, .disk .virtioScsi,
        .disk .ide, .controller] =
      [(.payload, 1), (.disk .virtioScsi, 0), (.controller, 1), (.disk .spaprVscsi, 1),
        (.cdrom, 2), (.disk .virtioScsi, 3), (.disk .ide, 0), (.controller, 2)] := by
    decide +kernel
  rw [← hhistory]
  exact counted_history .ppc64 .scsi _ (by decide)

end VmDescriptor.DiskIndices
