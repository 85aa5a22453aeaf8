import VmDescriptor.Codec.Basic
import VmDescriptor.Text.Blank

/-!
Device addresses: where a device sits in the guest.

An address is a list of attributes, each a key with a value. Keys are pairwise distinct and
keep the order in which they were first set. An address is written as `key=value` pairs with
commas between, in braces; the empty address is stored as the empty text.
-/

namespace VmDescriptor

open Text

/-- The attributes with the value of one key set: in place if it is there, else at the end. -/
def setAttribute (key value : String) : List (String × String) → List (String × String)
  | [] => [(key, value)]
  | (k, v) :: rest =>
    if k = key then (k, value) :: rest else (k, v) :: setAttribute key value rest

theorem mem_keys_setAttribute (key value k : String) :
    ∀ attributes : List (String × String),
      k ∈ (setAttribute key value attributes).map Prod.fst ↔
        k = key ∨ k ∈ attributes.map Prod.fst
  | [] => by simp [setAttribute]
  | (k', v') :: rest => by
    unfold setAttribute
    split
    next h => subst h; simp
    next h =>
      have := mem_keys_setAttribute key value k rest
      simp only [List.map_cons, List.mem_cons, this]
      constructor
      · rintro (h | h | h) <;> simp [h]
      · rintro (h | h | h) <;> simp [h]

theorem nodup_setAttribute (key value : String) :
    ∀ {attributes : List (String × String)},
      (attributes.map Prod.fst).Nodup → ((setAttribute key value attributes).map Prod.fst).Nodup
  | [], _ => by simp [setAttribute]
  | (k, v) :: rest, h => by
    unfold setAttribute
    simp only [List.map_cons, List.nodup_cons] at h
    split
    · simpa using h
    next hk =>
      simp only [List.map_cons, List.nodup_cons, mem_keys_setAttribute]
      exact ⟨fun hm => hm.elim hk h.1, nodup_setAttribute key value h.2⟩

/-- The placement of a device in the guest. -/
structure Address where
  /-- The attributes in the order in which their keys were first set. -/
  attributes : List (String × String)
  distinct : (attributes.map Prod.fst).Nodup

namespace Address

@[ext]
theorem ext {a b : Address} (h : a.attributes = b.attributes) : a = b := by
  cases a; cases b; simp_all

instance : DecidableEq Address := fun a b =>
  decidable_of_iff (a.attributes = b.attributes) ⟨ext, fun h => h ▸ rfl⟩

/-- The address without attributes. -/
def empty : Address := ⟨[], .nil⟩

instance : Inhabited Address := ⟨empty⟩

/-- The address with the value of a key set. -/
def set (a : Address) (key value : String) : Address :=
  ⟨setAttribute key value a.attributes, nodup_setAttribute key value a.distinct⟩

/-- The value of a key. -/
def get? (a : Address) (key : String) : Option String :=
  a.attributes.lookup key

/-- Whether the address has no attributes. -/
def isEmpty (a : Address) : Bool :=
  a.attributes.isEmpty

/-- The address of keys and values set one after the other. -/
def ofList (attributes : List (String × String)) : Address :=
  attributes.foldl (fun a (k, v) => a.set k v) empty

/-- The address of a disk on a drive controller. -/
def drive (controller unit : Nat) : Address :=
  ofList [("type", "drive"), ("controller", decimal controller), ("bus", "0"),
    ("target", "0"), ("unit", decimal unit)]

/-! ### Written form -/

/-- The text of an address, in braces. -/
def text (a : Address) : String :=
  "\x7b" ++ ", ".intercalate (a.attributes.map fun (k, v) => k ++ "=" ++ v) ++ "\x7d"

/-- The text that an address is stored as. -/
def stored (a : Address) : String :=
  if a.isEmpty then "" else a.text

/-- A text without blanks at its ends and without an opening brace and a closing one. -/
def withoutBraces (cs : List Char) : List Char :=
  let cs := trim cs
  let cs := match cs with
    | '\x7b' :: rest => rest
    | _ => cs
  let cs := if cs.getLast? = some '\x7d' then cs.dropLast else cs
  trim cs

/-- Reads one attribute: a key that is not blank, an equals sign and a value. -/
def parseEntry (cs : List Char) : Except Malformed (String × String) :=
  match cut '=' cs with
  | some (key, value) =>
    if (trim key).isEmpty then .error (.addressEntry (.ofList (trim cs)))
    else .ok (.ofList (trim key), .ofList (trim value))
  | none => .error (.addressEntry (.ofList (trim cs)))

/-- Reads an address; its braces may be missing. -/
def parse (s : String) : Except Malformed Address :=
  let body := withoutBraces s.toList
  if body.isEmpty then .ok empty
  else ((body.splitOn ',').mapM parseEntry).map ofList

def codec : Codec Address := .ofParser stored parse

end Address

end VmDescriptor
