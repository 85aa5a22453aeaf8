import VmDescriptor.Text.Numeral

/-!
Dates and times of day in TOML texts.

A date-time is a date, a time of day, or both with an optional offset. Reading one yields its
text in a normal form: `T` between date and time, `Z` for the offset zero named by a letter,
and the fraction of a second without zeros at its end and with at most nine digits.
-/

namespace VmDescriptor.Toml

open Text

/-- A number of exactly `n` digits in a range, and the rest. -/
def number? (n low high : Nat) (cs : List Char) : Option (Nat × List Char) := do
  let head := cs.take n
  let value ← digits? head
  if head.length = n ∧ low ≤ value ∧ value ≤ high then some (value, cs.drop n) else none

/-- The rest after a given character. -/
def after? (c : Char) : List Char → Option (List Char)
  | c' :: rest => if c' = c then some rest else none
  | [] => none

/-- The decimal digits of a number, with zeros in front up to a width. -/
def padded (width n : Nat) : List Char :=
  let cs := Nat.toDigits 10 n
  List.replicate (width - cs.length) '0' ++ cs

/-- A date. Every month may have 31 days. -/
def date? (cs : List Char) : Option (List Char × List Char) := do
  let (year, cs) ← number? 4 0 9999 cs
  let (month, cs) ← number? 2 1 12 (← after? '-' cs)
  let (day, cs) ← number? 2 1 31 (← after? '-' cs)
  return (padded 4 year ++ '-' :: padded 2 month ++ '-' :: padded 2 day, cs)

/-- The fraction of a second, if there is one. -/
def fraction? : List Char → Option (List Char × List Char)
  | '.' :: rest =>
    let digits := rest.takeWhile Char.isDigit
    let kept := ((digits.take 9).reverse.dropWhile (· == '0')).reverse
    if digits.isEmpty then none
    else some (if kept.isEmpty then [] else '.' :: kept, rest.dropWhile Char.isDigit)
  | cs => some ([], cs)

/-- A time of day. -/
def time? (cs : List Char) : Option (List Char × List Char) := do
  let (hour, cs) ← number? 2 0 23 cs
  let (minute, cs) ← number? 2 0 59 (← after? ':' cs)
  let (second, cs) ← number? 2 0 60 (← after? ':' cs)
  let (fraction, cs) ← fraction? cs
  return (padded 2 hour ++ ':' :: padded 2 minute ++ ':' :: padded 2 second ++ fraction, cs)

/-- The offset from UTC, if there is one. -/
def offset? : List Char → Option (List Char × List Char)
  | c :: rest =>
    if c = 'Z' ∨ c = 'z' then some (['Z'], rest)
    else if c = '+' ∨ c = '-' then do
      let (hour, rest) ← number? 2 0 23 rest
      let (minute, rest) ← number? 2 0 59 (← after? ':' rest)
      let sign := if hour = 0 ∧ minute = 0 then '+' else c
      return (sign :: padded 2 hour ++ ':' :: padded 2 minute, rest)
    else some ([], c :: rest)
  | [] => some ([], [])

/-- The normal form of a date-time. -/
def dateTime? (cs : List Char) : Option String :=
  match date? cs with
  | some (date, []) => some (.ofList date)
  | some (date, c :: rest) =>
    if c = 'T' ∨ c = 't' ∨ c = ' ' then do
      let (time, rest) ← time? rest
      let (offset, rest) ← offset? rest
      guard rest.isEmpty
      return .ofList (date ++ 'T' :: time ++ offset)
    else none
  | none => do
    let (time, rest) ← time? cs
    guard rest.isEmpty
    return .ofList time

end VmDescriptor.Toml
