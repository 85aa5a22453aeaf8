/-!
Numbers of fixed width.

A product that does not fit the width of its factors has no value, and neither has the number
after the greatest one.
-/

namespace VmDescriptor

/-- The product of two numbers, if it stays below `bound`. -/
def product? (bound a b : Nat) : Option Nat :=
  if a * b < bound then some (a * b) else none

/-- The next number, if it fits 32 bits. -/
def next? (n : UInt32) : Option UInt32 :=
  if n.toNat + 1 < UInt32.size then some (n + 1) else none

end VmDescriptor
