import VmDescriptor.Json.Shortest

/-!
Numbers of JSON texts.

A number written without fraction and exponent that fits 64 bits, signed or unsigned, is an
integer; every other one is a binary floating-point number. Such a number is read by scaling
the leading digits that fit 64 bits with a power of ten, and written with the fewest digits
that read back.
-/

namespace VmDescriptor.Json

open Text

/-- An integer or a floating-point number. -/
inductive Number where
  | integer (n : Int)
  | real (x : Float)
  deriving DecidableEq

namespace Number

/-- Whether the number is not infinite. -/
def isFinite : Number → Bool
  | .integer _ => true
  | .real x => x.isFinite

/-! ### Writing -/

/-- A real is written in positional notation while its decimal point stands within these
places of the first digit. -/
structure RealFormat where
  leastPoint : Int
  greatestPoint : Int

/-- Up to 16 digits before the point or four zeros after it. -/
def realFormat : RealFormat := ⟨-4, 16⟩

/-- `n` zeros. -/
def zeros (n : Nat) : String :=
  .ofList (List.replicate n '0')

/-- The exponent part, always with a sign. -/
def exponentText (e : Int) : String :=
  "e" ++ (if e < 0 then "-" else "+") ++ decimal e.natAbs

/-- A decimal that is not zero. -/
def decimalText (f : RealFormat) (d : Shortest.Decimal) : String :=
  let digits := Nat.toDigits 10 d.digits
  let point : Int := digits.length + d.exponent
  if f.leastPoint ≤ point ∧ point ≤ f.greatestPoint then
    if 0 ≤ d.exponent then String.ofList digits ++ zeros d.exponent.toNat ++ ".0"
    else if 0 < point then
      String.ofList (digits.take point.toNat) ++ "." ++ String.ofList (digits.drop point.toNat)
    else "0." ++ zeros (-point).toNat ++ String.ofList digits
  else
    let fraction := digits.drop 1
    String.ofList (digits.take 1) ++
      (if fraction.isEmpty then "" else "." ++ String.ofList fraction) ++
      exponentText (point - 1)

/-- A real with at least one decimal or an exponent. -/
def realText (x : Float) : String :=
  let negative := (x.toBits >>> 63) != 0
  let body := if x == 0 then "0.0" else decimalText realFormat (Shortest.ofPositive x.abs)
  if negative then "-" ++ body else body

/-- The written form of a number. -/
def text : Number → String
  | .integer n => signedDecimal n
  | .real x => realText x

/-! ### Reading -/

/-- A power of ten up to `10 ^ 308`. -/
def powerOfTen (e : Nat) : Float :=
  Float.ofScientific 1 false e

/-- A real divided by a power of ten, at most `10 ^ 308` at a time. -/
def shrink (x : Float) (e : Nat) : Float :=
  if e ≤ 308 then x / powerOfTen e
  else if x == 0 then x
  else shrink (x / powerOfTen 308) (e - 308)
termination_by e

/-- `significand * 10 ^ exponent` in floating-point arithmetic, infinite when out of range. -/
def scaled (significand : Nat) (exponent : Int) : Float :=
  let x := significand.toUInt64.toFloat
  if exponent < 0 then shrink x exponent.natAbs
  else if exponent ≤ 308 then x * powerOfTen exponent.toNat
  else if significand = 0 then x
  else 1 / 0

/-- The significand with one more digit, if it still fits 64 bits. -/
def pushDigit (significand : Nat) (c : Char) : Option Nat :=
  let n := significand * 10 + (c.toNat - 48)
  if n < UInt64.size then some n else none

/-- The longest head of the digits that fits 64 bits after `significand`, and the number of
digits left. -/
def pushDigits (significand : Nat) : List Char → Nat × Nat
  | [] => (significand, 0)
  | c :: rest =>
    match pushDigit significand c with
    | some n => pushDigits n rest
    | none => (significand, rest.length + 1)

/-- The parts of a written number. -/
structure Literal where
  negative : Bool
  whole : List Char
  fraction : Option (List Char)
  exponent : Option Int

/-- Splits a text into the parts of a number, if it is one. -/
def Literal.parse? (cs : List Char) : Option Literal := do
  let (negative, cs) := match cs with
    | '-' :: rest => (true, rest)
    | _ => (false, cs)
  let whole := cs.takeWhile Char.isDigit
  guard (!whole.isEmpty && (whole.length == 1 || whole.head? != some '0'))
  let cs := cs.dropWhile Char.isDigit
  let (fraction, cs) ← match cs with
    | '.' :: rest =>
      let digits := rest.takeWhile Char.isDigit
      if digits.isEmpty then none else some (some digits, rest.dropWhile Char.isDigit)
    | _ => some (none, cs)
  let exponent ← match cs with
    | [] => some none
    | e :: rest =>
      if e != 'e' && e != 'E' then none
      else
        let (minus, rest) := match rest with
          | '-' :: rest => (true, rest)
          | '+' :: rest => (false, rest)
          | _ => (false, rest)
        (digits? rest).map fun n => some (if minus then -(n : Int) else n)
  return { negative, whole, fraction, exponent }

/-- The real number that the parts denote. -/
def Literal.real (l : Literal) : Float :=
  let (significand, dropped) := pushDigits 0 l.whole
  let fraction := l.fraction.getD []
  let (significand, ignored) := pushDigits significand fraction
  let exponent : Int := dropped - (fraction.length - ignored : Nat) + l.exponent.getD 0
  let x := scaled significand exponent
  if l.negative then -x else x

/-- The number that the parts denote. -/
def Literal.number (l : Literal) : Number :=
  let n := Nat.ofDigitChars 10 l.whole 0
  if l.fraction.isSome || l.exponent.isSome then .real l.real
  else if l.negative then
    if 0 < n ∧ Int64.minValue.toInt ≤ -n then .integer (-n) else .real l.real
  else if n < UInt64.size then .integer n
  else .real l.real

/-- Reads a number. -/
def parse? (cs : List Char) : Option Number :=
  (Literal.parse? cs).map Literal.number

end Number

end VmDescriptor.Json
