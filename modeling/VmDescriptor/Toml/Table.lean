import VmDescriptor.Json.Basic

/-!
The tables of a TOML document.

A table comes into being through its header, through the header of a table below it, through a
dotted key, or inside a line, in braces. A header may complete a table that only headers below
it have brought about; dotted keys may extend tables made by dotted keys. Inside an inline
table dotted keys may extend every table that is part of it, and outside nothing may.
Everything else that names a key twice is an error. Entries keep the order in which they were
first named.
-/

namespace VmDescriptor.Toml

/-- What brought a table about. -/
inductive Origin where
  | header
  /-- The header of a table below it. -/
  | implied
  | dotted
  /-- Braces, or a dotted key between braces. -/
  | inline
  deriving DecidableEq

/-- What a key stands for. -/
inductive Entry where
  /-- A value that is no table. -/
  | value (j : Json)
  | table (origin : Origin) (entries : List (String × Entry))
  /-- Tables with the same header in double brackets. -/
  | tables (items : List (List (String × Entry)))

/-- The entries of a table. -/
abbrev Entries := List (String × Entry)

namespace Entries

/-- The entries with the one of a key replaced, or added at the end. -/
def update (key : String) (f : Option Entry → Option Entry) : Entries → Option Entries
  | [] => (f none).map fun e => [(key, e)]
  | (k, e) :: rest =>
    if k = key then (f (some e)).map fun e => (k, e) :: rest
    else (update key f rest).map ((k, e) :: ·)

/-- The tables with the last one replaced. -/
def updateLast (f : Entries → Option Entries) (items : List Entries) : Option Entry :=
  match items.getLast? with
  | some last => (f last).map fun last => .tables (items.dropLast ++ [last])
  | none => none

/-- The entries with those of the table at a path changed; tables on the way that are missing
are implied. -/
def at? : List String → (Entries → Option Entries) → Entries → Option Entries
  | [], f, es => f es
  | key :: path, f, es =>
    update key (fun
      | none => (at? path f []).map (.table .implied)
      | some (.table .inline _) => none
      | some (.table origin below) => (at? path f below).map (.table origin)
      | some (.tables items) => updateLast (at? path f) items
      | some (.value _) => none) es

/-- The entries with one more for a key that has none. -/
def insert? (key : String) (e : Entry) : Entries → Option Entries :=
  update key fun
    | none => some e
    | some _ => none

/-- The entries with one more at a dotted key: the keys before the last one, and the last. -/
def put? : List String → String → Entry → Entries → Option Entries
  | [], key, e, es => insert? key e es
  | head :: path, key, e, es =>
    update head (fun
      | none => (put? path key e []).map (.table .dotted)
      | some (.table .dotted below) => (put? path key e below).map (.table .dotted)
      | some (.table .implied below) =>
        if path = [] then none else (put? path key e below).map (.table .implied)
      | some (.tables items) => if path = [] then none else updateLast (put? path key e) items
      | some _ => none) es

/-- The entries of an inline table with one more at a dotted key. -/
def putInline? : List String → String → Entry → Entries → Option Entries
  | [], key, e, es => insert? key e es
  | head :: path, key, e, es =>
    update head (fun
      | none => (putInline? path key e []).map (.table .inline)
      | some (.table _ below) => (putInline? path key e below).map (.table .inline)
      | some _ => none) es

/-- The entries with a table that has a header of its own. A table implied before keeps its
entries and moves to the end. -/
def openTable? (key : String) (es : Entries) : Option Entries :=
  match es.lookup key with
  | none => some (es ++ [(key, .table .header [])])
  | some (.table .implied below) =>
    some (es.filter (·.1 != key) ++ [(key, .table .header below)])
  | some _ => none

/-- The entries with one more table of a header in double brackets. -/
def openItem? (key : String) : Entries → Option Entries :=
  update key fun
    | none => some (.tables [[]])
    | some (.tables items) => some (.tables (items ++ [[]]))
    | some _ => none

end Entries

mutual

/-- What a key stands for, as a JSON value. -/
def Entry.toJson : Entry → Json
  | .value j => j
  | .table _ entries => .object (entriesToFields entries)
  | .tables items => .array (tablesToItems items)

/-- The entries of a table as the fields of an object. -/
def entriesToFields : List (String × Entry) → List (Json.Name × Json)
  | [] => []
  | (key, e) :: rest => (key, e.toJson) :: entriesToFields rest

/-- Tables as the items of an array. -/
def tablesToItems : List (List (String × Entry)) → List Json
  | [] => []
  | es :: rest => .object (entriesToFields es) :: tablesToItems rest

end

end VmDescriptor.Toml
