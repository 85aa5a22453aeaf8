import VmDescriptor.Codec.Basic

/-!
Records as JSON objects.

`Fields ρ α` describes some fields of a record `ρ`, from which an `α` is read. Descriptions
are put together with `<$>` and `<*>`, so that a record type is described by its constructor
applied to its fields.

Reading takes the fields of an object in the order in which they are written and then the
missing ones in the order of the description; the first failure counts. It therefore marks a
failure with the place where it happened, and of two failures the earlier one wins. A field
written twice is a failure at its second place. A record may also be written as an array of
its fields, of which the last ones may be left out if they have defaults.
-/

namespace VmDescriptor

/-- A failure and its place among the fields of an object. -/
structure Misplaced where
  place : Nat
  error : DecodeError

/-- The written form of some fields of `ρ`, from which an `α` is read. -/
structure Fields (ρ α : Type) where
  encode : ρ → List (Json.Name × Json)
  /-- Reads the fields of an object. -/
  decode : Form → List (Json.Name × Json) → Except Misplaced α
  /-- Reads the first items of an array and leaves the others. -/
  decodeItems : Form → List Json → Except DecodeError (α × List Json)

namespace Fields

variable {ρ α β : Type}

/-- No fields. -/
protected def pure (a : α) : Fields ρ α where
  encode _ := []
  decode _ _ := .ok a
  decodeItems _ items := .ok (a, items)

/-- Of two readings of the same fields, both results or the earlier failure. -/
def earlier (f : Except Misplaced (α → β)) (a : Except Misplaced α) : Except Misplaced β :=
  match f, a with
  | .ok f, .ok a => .ok (f a)
  | .error e, .ok _ => .error e
  | .ok _, .error e => .error e
  | .error e, .error e' => .error (if e'.place < e.place then e' else e)

/-- The fields of two descriptions, one after the other. -/
protected def seq (f : Fields ρ (α → β)) (a : Fields ρ α) : Fields ρ β where
  encode r := f.encode r ++ a.encode r
  decode form fields := earlier (f.decode form fields) (a.decode form fields)
  decodeItems form items := do
    let (g, items) ← f.decodeItems form items
    let (a, items) ← a.decodeItems form items
    return (g a, items)

instance : Applicative (Fields ρ) where
  pure := Fields.pure
  seq f a := Fields.seq f (a ())
  map g a := Fields.seq (Fields.pure g) a

/-- The places and values of a name among the fields of an object. -/
def occurrences (name : String) (fields : List (Json.Name × Json)) : List (Nat × Json) :=
  go 0 fields
where
  go (place : Nat) : List (Json.Name × Json) → List (Nat × Json)
    | [] => []
    | (name', j) :: rest =>
      if name'.text == name then (place, j) :: go (place + 1) rest else go (place + 1) rest

/-- A field, with what is read if it is missing. -/
def field (name : String) (get : ρ → α) (c : Codec α) (missing : Option α) : Fields ρ α where
  encode r := [(name, c.encode (get r))]
  decode form fields :=
    match occurrences name fields with
    | [] =>
      match missing with
      | some a => .ok a
      | none => .error ⟨fields.length, .missingField name⟩
    | (place, j) :: others =>
      match c.decode form j, others with
      | .error e, _ => .error ⟨place, e⟩
      | .ok a, [] => .ok a
      | .ok _, (again, _) :: _ => .error ⟨again, .unusable⟩
  decodeItems form
    | [] =>
      match missing with
      | some a => .ok (a, [])
      | none => .error .unusable
    | j :: items => (c.decode form j).map fun a => (a, items)

/-- A field that must be there. -/
def required (name : String) (get : ρ → α) (c : Codec α) : Fields ρ α :=
  field name get c none

/-- A field with a default. -/
def withDefault (name : String) (get : ρ → α) (c : Codec α) (default : α) : Fields ρ α :=
  field name get c (some default)

/-- A field that may be `null` or missing. -/
def optional (name : String) (get : ρ → Option α) (c : Codec α) : Fields ρ (Option α) :=
  field name get c.option (some none)

/-- Reads the fields of an object. -/
def ofObject (f : Fields ρ α) (form : Form) (fields : List (Json.Name × Json)) :
    Except DecodeError α :=
  (f.decode form fields).mapError Misplaced.error

/-- Reads the items of an array. -/
def ofArray (f : Fields ρ α) (form : Form) (items : List Json) : Except DecodeError α := do
  let (a, rest) ← f.decodeItems form items
  if rest.isEmpty || form.surplus then .ok a else .error .unusable

end Fields

/-- The codec of a record with the given fields. -/
def Codec.record {ρ : Type} (f : Fields ρ ρ) : Codec ρ where
  encode r := .object (f.encode r)
  decode form
    | .object fields => f.ofObject form fields
    | .array items => f.ofArray form items
    | _ => .error .unusable

end VmDescriptor
