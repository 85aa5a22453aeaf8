/-!
Finite maps as lists of entries in strictly increasing order of their keys.

Two maps with the same entries are equal, so a map can be compared, written out and read back
entry by entry. `insert` replaces the value of a key that is already there.
-/

namespace VmDescriptor

/-- The entries with the value of `k` set, in a list sorted by key. -/
def insertEntry {κ α : Type} [Ord κ] (k : κ) (v : α) : List (κ × α) → List (κ × α)
  | [] => [(k, v)]
  | (k', v') :: rest =>
    match compare k k' with
    | .lt => (k, v) :: (k', v') :: rest
    | .eq => (k, v) :: rest
    | .gt => (k', v') :: insertEntry k v rest

/-- A list of entries in strictly increasing order of their keys. -/
def KeysIncrease {κ α : Type} [Ord κ] (entries : List (κ × α)) : Prop :=
  entries.Pairwise fun a b => compare a.1 b.1 = .lt

theorem mem_insertEntry {κ α : Type} [Ord κ] {k : κ} {v : α} {e : κ × α} :
    ∀ {entries : List (κ × α)}, e ∈ insertEntry k v entries → e = (k, v) ∨ e ∈ entries
  | [], h => by simpa [insertEntry] using h
  | (k', v') :: rest, h => by
    simp only [insertEntry] at h
    split at h
    · simpa using h
    · rcases List.mem_cons.1 h with h | h
      · exact .inl h
      · exact .inr (List.mem_cons_of_mem _ h)
    · rcases List.mem_cons.1 h with h | h
      · exact .inr (h ▸ List.mem_cons_self)
      · rcases mem_insertEntry h with h | h
        · exact .inl h
        · exact .inr (List.mem_cons_of_mem _ h)

theorem keysIncrease_insertEntry {κ α : Type} [Ord κ] [Std.TransOrd κ] (k : κ) (v : α) :
    ∀ {entries : List (κ × α)}, KeysIncrease entries → KeysIncrease (insertEntry k v entries)
  | [], _ => by simp [insertEntry, KeysIncrease]
  | (k', v') :: rest, h => by
    have hrest : KeysIncrease rest := (List.pairwise_cons.1 h).2
    have hhead := (List.pairwise_cons.1 h).1
    simp only [insertEntry]
    split
    next hlt =>
      refine List.pairwise_cons.2 ⟨fun e he => ?_, h⟩
      rcases List.mem_cons.1 he with rfl | he
      · exact hlt
      · exact Std.TransCmp.lt_trans hlt (hhead e he)
    next heq =>
      exact List.pairwise_cons.2
        ⟨fun e he => Std.TransCmp.lt_of_eq_of_lt heq (hhead e he), hrest⟩
    next hgt =>
      refine List.pairwise_cons.2 ⟨fun e he => ?_, keysIncrease_insertEntry k v hrest⟩
      rcases mem_insertEntry he with rfl | he
      · exact Std.OrientedCmp.lt_of_gt hgt
      · exact hhead e he

/-- A finite map from `κ` to `α`. -/
structure SortedMap (κ : Type) (α : Type) [Ord κ] where
  /-- The entries, by increasing key. -/
  entries : List (κ × α)
  increasing : KeysIncrease entries

namespace SortedMap

variable {κ α : Type} [Ord κ]

@[ext]
theorem ext {m m' : SortedMap κ α} (h : m.entries = m'.entries) : m = m' := by
  cases m; cases m'; simp_all

instance [DecidableEq κ] [DecidableEq α] : DecidableEq (SortedMap κ α) := fun m m' =>
  decidable_of_iff (m.entries = m'.entries) ⟨ext, fun h => h ▸ rfl⟩

/-- The map without entries. -/
def empty : SortedMap κ α := ⟨[], .nil⟩

instance : Inhabited (SortedMap κ α) := ⟨empty⟩

/-- The map with the value of `k` set. -/
def insert [Std.TransOrd κ] (m : SortedMap κ α) (k : κ) (v : α) : SortedMap κ α :=
  ⟨insertEntry k v m.entries, keysIncrease_insertEntry k v m.increasing⟩

/-- The map of a list of entries, of which the last one for a key counts. -/
def ofList [Std.TransOrd κ] (entries : List (κ × α)) : SortedMap κ α :=
  entries.foldl (fun m e => m.insert e.1 e.2) empty

/-- The value of a key. -/
def get? [BEq κ] (m : SortedMap κ α) (k : κ) : Option α :=
  m.entries.lookup k

/-- Whether a key has a value. -/
def contains [BEq κ] (m : SortedMap κ α) (k : κ) : Bool :=
  (m.get? k).isSome

/-- The keys in increasing order. -/
def keys (m : SortedMap κ α) : List κ :=
  m.entries.map Prod.fst

/-- Whether the map has no entries. -/
def isEmpty (m : SortedMap κ α) : Bool :=
  m.entries.isEmpty

/-- The number of entries. -/
def size (m : SortedMap κ α) : Nat :=
  m.entries.length

end SortedMap

end VmDescriptor
