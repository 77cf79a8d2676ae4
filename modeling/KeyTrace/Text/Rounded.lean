/-!
# Whole numbers in double precision

A count shown as a number of double precision keeps 53 significant bits; a half goes to the even
neighbour. It is written with the fewest significant digits that are nearer to it than to any other
such number, filled up with zeros. A number that is too large rounds to infinity.

## Main definitions

* `Rounded.round`: the number of double precision nearest to a whole number.
* `Rounded.digits`: its digits.
* `Rounded.isInRange`: whether a decimal number does not round to infinity.
-/

namespace KeyTrace

namespace Rounded

/-- How many bits below the significant ones a number has. -/
def lowBits (n : Nat) : Nat := (n.log2 + 1) - 53

/-- The nearest number of double precision. -/
def round (n : Nat) : Nat :=
  let unit := Nat.pow 2 (lowBits n)
  let low := n % unit
  let down := n / unit
  let up := if 2 * low > unit || (2 * low == unit && down % 2 == 1) then 1 else 0
  (down + up) * unit

/-- Whether `m` is read back as the number `n` of double precision. -/
def readsBack (n m : Nat) : Bool := round m == n

/-- The multiple of `unit` nearest to `n`. -/
def nearestMultiple (n unit : Nat) : Nat := (n + unit / 2) / unit * unit

/-- The number with the fewest significant digits that is read back as `n`, tried with `drop` zeros
at its end and then with fewer. -/
def shortest (n : Nat) : Nat → Nat
  | 0 => n
  | drop + 1 =>
    let m := nearestMultiple n (Nat.pow 10 (drop + 1))
    if readsBack n m then m else shortest n drop

/-- The digits of a whole number as one of double precision. -/
def digits (n : Nat) : String :=
  let r := round n
  toString (shortest r (toString r).length)

/-! ### The range -/

/-- The least number that rounds to infinity: half a step above the largest one. -/
def rangeEnd : Nat := Nat.pow 2 1024 - Nat.pow 2 970

/-- The largest power of ten that does not round to infinity. -/
def largestPower : Nat := 308

/-- Whether `significand * 10 ^ exponent` does not round to infinity. A power of ten that has more
digits than the significand has bits is above it, so the number is below one. -/
def isInRange (significand : Nat) (exponent : Int) : Bool :=
  if significand == 0 then true
  else if exponent < 0 then
    significand.log2 < exponent.natAbs ||
      decide (significand < rangeEnd * Nat.pow 10 exponent.natAbs)
  else if Int.ofNat largestPower < exponent then false
  else decide (significand * Nat.pow 10 exponent.toNat < rangeEnd)

end Rounded

end KeyTrace
