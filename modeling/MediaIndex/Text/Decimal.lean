/-!
# Decimal numerals beyond the range of doubles

A numeral with a fraction or an exponent is read as a double-precision number. This library needs to
know one thing of it: whether it is so great that it would be read as infinity.

* `Decimal.isTooGreat` decides that for a numeral that is read as the double nearest to it;
* `Decimal.nearest` is the double nearest to a natural number, for formats that round on the way.
-/

namespace MediaIndex.Decimal

/-- Magnitudes from here on are nearer to infinity than to the greatest double. -/
def limit : Nat := Nat.pow 2 1024 - Nat.pow 2 970

/-- The bits of a double before which nothing is lost. -/
def precision : Nat := 53

/-- The nearest number that has no more than so many bits before its zeros; of two that are equally
    near, the one whose last bit of these is zero. -/
def nearest (n : Nat) : Nat :=
  let lost := n.log2 + 1 - precision
  let unit := Nat.pow 2 lost
  let low := n / unit
  let rest := 2 * (n % unit)
  if unit < rest || (rest == unit && low % 2 == 1) then (low + 1) * unit else low * unit

/-- The number of decimal digits of a positive number. -/
def digitCount (n : Nat) : Nat := (Nat.toDigits 10 n).length

/-- `coefficient · 10 ^ exponent` is at least the limit. Exponents that leave no doubt are decided
    without computing a power. -/
def isTooGreat (coefficient : Nat) (exponent : Int) : Bool :=
  if coefficient = 0 then false
  else
    let magnitude := exponent + digitCount coefficient
    if 400 < magnitude then true
    else if magnitude < 300 then false
    else match exponent with
      | .ofNat e => decide (limit ≤ coefficient * Nat.pow 10 e)
      | .negSucc e => decide (limit * Nat.pow 10 (e + 1) ≤ coefficient)

end MediaIndex.Decimal
