import VmDescriptor.Json.Basic

/-!
The tokens of a JSON text.

The scan reads one character after another. Brackets, commas and colons are tokens of their
own; a string runs to its closing quote; any other run of characters that are neither blank
nor one of these is a word, which is a number or one of the three named values. A number out
of range and a string with half a surrogate pair are unreadable values.
-/

namespace VmDescriptor.Json

open Text

/-- A token of a JSON text. -/
inductive Token where
  | openArray
  | closeArray
  | openObject
  | closeObject
  | comma
  | colon
  | string (s : String) (spelling : Spelling)
  | word (value : Json)

namespace Token

/-- A part of a string: a character or an escaped code unit of 16 bits. -/
inductive Piece where
  | char (c : Char)
  | unit (n : Nat)

/-- Where the scan stands inside a token; what was read of it is kept last first. -/
inductive Place where
  /-- Between two tokens. -/
  | between
  /-- Inside a word. -/
  | word (cs : List Char)
  /-- Inside a string. -/
  | string (pieces : List Piece)
  /-- After a backslash in a string. -/
  | escape (pieces : List Piece)
  /-- After `n` digits of a code unit in a string. -/
  | unit (pieces : List Piece) (n : Nat) (value : Nat)

/-- The state of the scan: the tokens read, last first, and the place. -/
structure Scan where
  tokens : List Token
  place : Place

/-- The token that a character is alone. -/
def ofChar? : Char → Option Token
  | '[' => some .openArray
  | ']' => some .closeArray
  | '\x7b' => some .openObject
  | '\x7d' => some .closeObject
  | ',' => some .comma
  | ':' => some .colon
  | _ => none

/-- Whether a character may stand between tokens. -/
def isSpace (c : Char) : Bool :=
  c == ' ' || c == '\n' || c == '\t' || c == '\r'

/-- The value of a number. -/
def ofNumber (n : Number) : Token :=
  .word (if n.isFinite then .number n else .unreadable)

/-- The value that a word names. -/
def ofWord? (cs : List Char) : Option Token :=
  match String.ofList cs with
  | "null" => some (.word .null)
  | "true" => some (.word (.boolean true))
  | "false" => some (.word (.boolean false))
  | _ => (Number.parse? cs).map ofNumber

/-- Whether a code unit is the first half of a surrogate pair. -/
def isHigh (n : Nat) : Bool :=
  0xD800 ≤ n && n < 0xDC00

/-- Whether a code unit is the second half of a surrogate pair. -/
def isLow (n : Nat) : Bool :=
  0xDC00 ≤ n && n < 0xE000

/-- The characters of a string, whose pieces come last first, in front of `done`; half a
surrogate pair is no character. -/
def chars? (done : List Char) : List Piece → Option (List Char)
  | [] => some done
  | .char c :: before => chars? (c :: done) before
  | .unit low :: .unit high :: before =>
    if isLow low then
      if isHigh high then
        chars? (.ofNat (0x10000 + (high - 0xD800) * 0x400 + (low - 0xDC00)) :: done) before
      else none
    else if isHigh low then none
    else chars? (.ofNat low :: done) (.unit high :: before)
  | .unit n :: before =>
    if isLow n || isHigh n then none else chars? (.ofNat n :: done) before

/-- How a string of the given pieces is spelled. -/
def spelling (pieces : List Piece) : Spelling :=
  if pieces.any (· matches .unit _) then .escaped else .plain

/-- The string of pieces that come last first. -/
def ofPieces (pieces : List Piece) : Token :=
  match chars? [] pieces with
  | some cs => .string (.ofList cs) (spelling pieces)
  | none => .word .unreadable

/-- The character that a backslash and a letter stand for. -/
def escaped? : Char → Option Char
  | '\x22' => some '\x22'
  | '\\' => some '\\'
  | '/' => some '/'
  | 'b' => some '\x08'
  | 'f' => some '\x0c'
  | 'n' => some '\n'
  | 'r' => some '\r'
  | 't' => some '\t'
  | _ => none

/-- The scan after a character that begins a new token. -/
def begin (tokens : List Token) (c : Char) : Scan :=
  if isSpace c then ⟨tokens, .between⟩
  else if c == '\x22' then ⟨tokens, .string []⟩
  else match ofChar? c with
    | some t => ⟨t :: tokens, .between⟩
    | none => ⟨tokens, .word [c]⟩

/-- The scan after one more character, unless that character is out of place. -/
def step (scan : Scan) (c : Char) : Option Scan :=
  match scan.place with
  | .between => some (begin scan.tokens c)
  | .word cs =>
    if isSpace c || c == '\x22' || (ofChar? c).isSome then
      (ofWord? cs.reverse).map fun t => begin (t :: scan.tokens) c
    else some ⟨scan.tokens, .word (c :: cs)⟩
  | .string pieces =>
    if c == '\x22' then some ⟨ofPieces pieces :: scan.tokens, .between⟩
    else if c == '\\' then some ⟨scan.tokens, .escape pieces⟩
    else if c.toNat < 0x20 then none
    else some ⟨scan.tokens, .string (.char c :: pieces)⟩
  | .escape pieces =>
    if c == 'u' then some ⟨scan.tokens, .unit pieces 0 0⟩
    else (escaped? c).map fun c => ⟨scan.tokens, .string (.char c :: pieces)⟩
  | .unit pieces n value =>
    (hexDigit? c).map fun d =>
      if n < 3 then ⟨scan.tokens, .unit pieces (n + 1) (value * 16 + d)⟩
      else ⟨scan.tokens, .string (.unit (value * 16 + d) :: pieces)⟩

/-- The tokens of a text. -/
def scan? (cs : List Char) : Option (List Token) := do
  let scan ← cs.foldlM step ⟨[], .between⟩
  match scan.place with
  | .between => some scan.tokens.reverse
  | .word cs => (ofWord? cs.reverse).map fun t => (t :: scan.tokens).reverse
  | _ => none

end Token

end VmDescriptor.Json
