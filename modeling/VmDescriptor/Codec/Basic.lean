import VmDescriptor.Json.Basic
import VmDescriptor.Malformed
import VmDescriptor.SortedMap
import VmDescriptor.Uuid

/-!
Codecs: how the values of a type are written as JSON values and read back.

A codec holds both directions, so that a record type states its written form once. Reading
takes a `Form`, which says where the source of the value is laxer than a JSON text.
-/

namespace VmDescriptor

/-- Why a JSON value could not be read as a value of a type. -/
inductive DecodeError where
  | missingField (name : String)
  /-- A name that is none of the `known` members of an enumeration. -/
  | unknownVariant (name : String) (known : List String)
  /-- A string that does not have the form its type asks for. -/
  | malformed (cause : Malformed)
  /-- A value of the wrong shape or out of range. -/
  | unusable
  deriving DecidableEq

namespace DecodeError

/-- A name between backticks. -/
def ticked (name : String) : String :=
  "`" ++ name ++ "`"

/-- The names that were expected. -/
def expected : List String → String
  | [] => "there are no variants"
  | [a] => "expected " ++ ticked a
  | [a, b] => "expected " ++ ticked a ++ " or " ++ ticked b
  | names => "expected one of " ++ ", ".intercalate (names.map ticked)

/-- The wording of the error; that a value is unusable has no wording of its own. -/
def message? : DecodeError → Option String
  | .missingField name => some ("missing field " ++ ticked name)
  | .unknownVariant name known =>
    some ("unknown variant " ++ ticked name ++ ", " ++ expected known)
  | .malformed cause => some cause.message
  | .unusable => none

end DecodeError

/-- Where a source of values is laxer than a JSON text. -/
structure Form where
  /-- Whether a record written as an array may have items after its last field. -/
  surplus : Bool
  /-- The values that may stand beside the name of an enumeration's member. -/
  isUnit : Json → Bool

namespace Form

/-- A JSON value: no surplus items, and `null` beside a member's name. -/
def json : Form where
  surplus := false
  isUnit
    | .null => true
    | _ => false

/-- The contents of a tagged record, in which an empty object also counts as `null`. -/
def tagged : Form where
  surplus := false
  isUnit
    | .null => true
    | .object [] => true
    | _ => false

/-- A configuration text, which has no `null` and in which surplus items are ignored. -/
def toml : Form where
  surplus := true
  isUnit
    | .object [] => true
    | _ => false

end Form

/-- The written form of a type. -/
structure Codec (α : Type) where
  encode : α → Json
  decode : Form → Json → Except DecodeError α

namespace Codec

variable {α κ : Type}

/-- Reads a value of a JSON text. -/
def read (c : Codec α) (j : Json) : Except DecodeError α :=
  c.decode .json j

/-- Strings. -/
def string : Codec String where
  encode := .string
  decode _
    | .string s => .ok s
    | _ => .error .unusable

/-- Truth values. -/
def boolean : Codec Bool where
  encode := .boolean
  decode _
    | .boolean b => .ok b
    | _ => .error .unusable

/-- Integers from `low` to below `high`, as values of a type of that range. -/
def integer (low high : Int) (toInt : α → Int) (ofInt : Int → α) : Codec α where
  encode a := .int (toInt a)
  decode _
    | .number (.integer n) => if low ≤ n ∧ n < high then .ok (ofInt n) else .error .unusable
    | _ => .error .unusable

/-- Unsigned integers of 32 bits. -/
def uint32 : Codec UInt32 :=
  integer 0 UInt32.size (fun n => n.toNat) fun n => .ofNat n.toNat

/-- Unsigned integers of 64 bits. -/
def uint64 : Codec UInt64 :=
  integer 0 UInt64.size (fun n => n.toNat) fun n => .ofNat n.toNat

/-- Signed integers of 32 bits. -/
def int32 : Codec Int32 :=
  integer Int32.minValue.toInt (Int32.maxValue.toInt + 1) Int32.toInt Int32.ofInt

/-- Values written as strings. -/
def ofText (text : α → String) (parse : String → Except DecodeError α) : Codec α where
  encode a := .string (text a)
  decode _
    | .string s => parse s
    | _ => .error .unusable

/-- Values written as strings, which are malformed otherwise. -/
def ofParser (text : α → String) (parse : String → Except Malformed α) : Codec α :=
  ofText text fun s => (parse s).mapError .malformed

/-- Reads an identifier. -/
def parseUuid (s : String) : Except DecodeError Uuid :=
  match Uuid.parse? s with
  | some id => .ok id
  | none => .error .unusable

/-- Identifiers. -/
def uuid : Codec Uuid :=
  ofText Uuid.text parseUuid

/-- A value, or `null` for none. -/
def option (c : Codec α) : Codec (Option α) where
  encode
    | some a => c.encode a
    | none => .null
  decode form
    | .null => .ok none
    | j => (c.decode form j).map some

/-- Lists, as arrays. -/
def list (c : Codec α) : Codec (List α) where
  encode as := .array (as.map c.encode)
  decode form
    | .array items => items.mapM (c.decode form)
    | _ => .error .unusable

/-- JSON values as they are, in canonical form. -/
def json : Codec Json where
  encode := id
  decode _ j := if j.isReadable then .ok j.canonical else .error .unusable

/-- Maps, as objects whose names are the written keys. -/
def map [Ord κ] [Std.TransOrd κ] (text : κ → String)
    (parse : Json.Name → Except DecodeError κ) (c : Codec α) : Codec (SortedMap κ α) where
  encode m := .object (m.entries.map fun (k, a) => (text k, c.encode a))
  decode form
    | .object fields =>
      (fields.mapM fun (name, j) => do
        let k ← parse name
        let a ← c.decode form j
        return (k, a)).map .ofList
    | _ => .error .unusable

/-- Maps keyed by strings. -/
def dictionary (c : Codec α) : Codec (SortedMap String α) :=
  map id (.ok ·.text) c

/-- Maps keyed by identifiers. -/
def byUuid (c : Codec α) : Codec (SortedMap Uuid α) :=
  map Uuid.text (parseUuid ·.text) c

end Codec

end VmDescriptor
