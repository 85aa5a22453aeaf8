import VmDescriptor.Json.Basic
import VmDescriptor.Toml.DateTime

/-!
The values of TOML texts that are written without quotes and brackets: truth values, numbers
and date-times.

A date-time is an object with one field, which holds its text and has an implied name.
-/

namespace VmDescriptor.Toml

open Text

/-- The digits of a numeral in which single underscores may stand between digits. -/
def ungrouped? (isDigit : Char → Bool) (cs : List Char) : Option (List Char) :=
  go true cs
where
  /-- `first` says that a digit must come next. -/
  go (first : Bool) : List Char → Option (List Char)
    | [] => if first then none else some []
    | c :: rest =>
      if c = '_' then if first then none else go true rest
      else if isDigit c then (go false rest).map (c :: ·)
      else none

/-- A sign, true for minus, and the rest. -/
def sign : List Char → Bool × List Char
  | '-' :: rest => (true, rest)
  | '+' :: rest => (false, rest)
  | cs => (false, cs)

/-- The digits of a decimal numeral without leading zeros. -/
def wholeDigits? (cs : List Char) : Option (List Char) := do
  let digits ← ungrouped? Char.isDigit cs
  if digits.length = 1 ∨ digits.head? ≠ some '0' then some digits else none

/-- The value of a digit in a base up to 16. -/
def digitIn? (base : Nat) (c : Char) : Option Nat :=
  (hexDigit? c).filter (· < base)

/-- The number that digits stand for in a base up to 16. -/
def inBase? (base : Nat) (cs : List Char) : Option Nat := do
  let digits ← ungrouped? (fun c => (digitIn? base c).isSome) cs
  digits.foldlM (fun n c => (digitIn? base c).map (n * base + ·)) 0

/-- An integer of 64 bits. -/
def integer? (cs : List Char) : Option Int := do
  let n : Int ← match cs with
    | '0' :: 'x' :: rest => (inBase? 16 rest).map fun n => (n : Int)
    | '0' :: 'o' :: rest => (inBase? 8 rest).map fun n => (n : Int)
    | '0' :: 'b' :: rest => (inBase? 2 rest).map fun n => (n : Int)
    | cs => do
      let (negative, cs) := sign cs
      let n := Nat.ofDigitChars 10 (← wholeDigits? cs) 0
      some (if negative then -(n : Int) else n)
  if Int64.minValue.toInt ≤ n ∧ n ≤ Int64.maxValue.toInt then some n else none

/-- The exponent of a real: none is zero. -/
def exponent? : List Char → Option Int
  | [] => some 0
  | e :: rest =>
    if e = 'e' ∨ e = 'E' then do
      let (negative, cs) := sign rest
      let n := Nat.ofDigitChars 10 (← ungrouped? Char.isDigit cs) 0
      some (if negative then -(n : Int) else n)
    else none

/-- Whether a character begins the exponent of a real. -/
def isExponentMark (c : Char) : Bool :=
  c == 'e' || c == 'E'

/-- A real, which must not be too great. -/
def real? (cs : List Char) : Option Float := do
  let (negative, cs) := sign cs
  let whole ← wholeDigits? (cs.takeWhile fun c => c != '.' && !isExponentMark c)
  let cs := cs.dropWhile fun c => c != '.' && !isExponentMark c
  guard (!cs.isEmpty)
  let (fraction, cs) ← match cs with
    | '.' :: rest => do
      let digits ← ungrouped? Char.isDigit (rest.takeWhile (!isExponentMark ·))
      some (digits, rest.dropWhile (!isExponentMark ·))
    | cs => some ([], cs)
  let exponent ← exponent? cs
  let digits := whole ++ fraction
  -- A greater or smaller exponent yields no other real.
  let bound : Int := digits.length + 400
  let scale := max (-bound) (min bound (exponent - fraction.length))
  let x := Float.ofScientific (Nat.ofDigitChars 10 digits 0) (scale < 0) scale.natAbs
  if negative then some (-x) else if x.isInf then none else some x

/-- The reals that are named by a word. -/
def namedReal? (cs : List Char) : Option Float :=
  let (negative, cs) := sign cs
  match String.ofList cs with
  | "inf" => some (if negative then -1 / 0 else 1 / 0)
  | "nan" => some (0 / 0)
  | _ => none

/-- The name of the field that holds the text of a date-time. -/
def dateTimeKey : String := "$__toml_private_datetime"

/-- The value of a word. -/
def scalar? (cs : List Char) : Option Json :=
  match String.ofList cs with
  | "true" => some (.boolean true)
  | "false" => some (.boolean false)
  | _ =>
    match dateTime? cs, integer? cs with
    | some t, _ => some (.object [(⟨dateTimeKey, .implied⟩, .string t)])
    | none, some n => some (.int n)
    | none, none => (namedReal? cs <|> real? cs).map fun x => .number (.real x)

/-- Whether a character may be part of a word. -/
def isWordChar (c : Char) : Bool :=
  c.isAlphanum || c == '+' || c == '-' || c == '_' || c == '.' || c == ':'

/-- The value of the word at the front of a text, and the rest. A date may be followed by a
blank and a time of day. -/
def word? (cs : List Char) : Option (Json × List Char) :=
  let word := cs.takeWhile isWordChar
  let rest := cs.dropWhile isWordChar
  match date? word, rest with
  | some (_, []), ' ' :: c :: more =>
    if c.isDigit then
      let time := (c :: more).takeWhile isWordChar
      (scalar? (word ++ ' ' :: time)).map fun j => (j, (c :: more).dropWhile isWordChar)
    else (scalar? word).map fun j => (j, rest)
  | _, _ => (scalar? word).map fun j => (j, rest)

end VmDescriptor.Toml
