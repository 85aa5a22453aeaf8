import VmDescriptor.Text.Numeral

/-!
The shortest decimal that stands for a binary floating-point number.

A positive finite number is `m * 2 ^ q`; the reals nearer to it than to its neighbours form an
interval, which holds its two ends when `m` is even. Among the decimals in that interval, the
one with the fewest digits is taken, and of two the nearer. All arithmetic is exact: a number
is a fraction whose denominator is a power of two, and powers of ten are cleared by a common
factor.
-/

namespace VmDescriptor.Shortest

/-- A decimal `digits * 10 ^ exponent`. -/
structure Decimal where
  digits : Nat
  exponent : Int
  deriving DecidableEq

/-- The reals that round to one number: fractions with a common denominator. -/
structure Interval where
  low : Nat
  value : Nat
  high : Nat
  denominator : Nat
  closed : Bool

/-- The leading bit of a number; it is not stored with the others. -/
def leadingBit : Nat := Nat.pow 2 52

/-- The interval of the positive finite number with the given bits. -/
def Interval.ofBits (bits : UInt64) : Interval :=
  let biased := (bits >>> 52).toNat % 2048
  let fraction := bits.toNat % leadingBit
  let m := if biased = 0 then fraction else leadingBit + fraction
  let shift := if biased = 0 then 1 else biased
  -- The number is `4 * m * 2 ^ (shift - 1077)`.
  let below := if fraction = 0 ∧ 1 < biased then 1 else 2
  let scale := Nat.pow 2 (shift - 1077)
  { low := (4 * m - below) * scale
    value := 4 * m * scale
    high := (4 * m + 2) * scale
    denominator := Nat.pow 2 (1077 - shift)
    closed := m % 2 = 0 }

/-- Every positive number is at least `10 ^ (-places)`. -/
def places : Nat := 342

/-- Whether `d * 10 ^ (e - places)` lies in the interval. -/
def Interval.holds (i : Interval) (d e : Nat) : Bool :=
  let x := d * Nat.pow 10 e * i.denominator
  let low := i.low * Nat.pow 10 places
  let high := i.high * Nat.pow 10 places
  if i.closed then low ≤ x && x ≤ high else low < x && x < high

/-- The decimals next to the value on the grid of multiples of `10 ^ (e - places)` that lie in
the interval, and of two the nearer one, the even one in a tie. -/
def Interval.onGrid? (i : Interval) (e : Nat) : Option Nat :=
  let value := i.value * Nat.pow 10 places
  let step := Nat.pow 10 e * i.denominator
  let d := value / step
  let rest := value % step
  match i.holds d e && d != 0, i.holds (d + 1) e with
  | true, true =>
    if 2 * rest < step ∨ (2 * rest = step ∧ d % 2 = 0) then some d else some (d + 1)
  | true, false => some d
  | false, true => some (d + 1)
  | false, false => none

/-- A decimal without zeros at the end of its digits. -/
def Decimal.normal (d : Decimal) : Decimal :=
  go d (Nat.toDigits 10 d.digits).length
where
  go (d : Decimal) : Nat → Decimal
    | 0 => d
    | n + 1 => if d.digits % 10 = 0 then go ⟨d.digits / 10, d.exponent + 1⟩ n else d

/-- The shortest decimal in the interval, searched on ever finer grids. -/
def Interval.shortest (i : Interval) : Decimal :=
  let size := (Nat.toDigits 10 (i.value * Nat.pow 10 places / i.denominator)).length
  go (size - 1) 17
where
  go (e : Nat) : Nat → Decimal
    | 0 => ⟨0, 0⟩
    | n + 1 =>
      match i.onGrid? e with
      | some d => Decimal.normal ⟨d, (e : Int) - places⟩
      | none => go (e - 1) n

/-- The shortest decimal of a positive finite number. -/
def ofPositive (x : Float) : Decimal :=
  (Interval.ofBits x.toBits).shortest

end VmDescriptor.Shortest
