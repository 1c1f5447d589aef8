import MediaIndex.Text.Decimal
import MediaIndex.Text.Digits
import MediaIndex.Text.Reading

/-!
# JSON numbers

A number is a natural number of 64 bits, or else a double. A double is made in two steps: as many of
the digits as fit in 64 bits make a significand, and a power of ten says where they stand; the value is
the product of the doubles nearest to the two. So a number near the end of the range may be out of
range even if a double is near it.

* `Json.Numeral.read` takes a number off the front of a text;
* `Json.Numeral.isOutOfRange` says that there is no value for it.
-/

namespace MediaIndex.Json

/-- A number as it is written. -/
structure Numeral where
  negative : Bool
  /-- The digits before the point. -/
  whole : List Char
  /-- The digits after the point. -/
  fraction : List Char
  exponent : Option Int
deriving DecidableEq, Repr, Inhabited

namespace Numeral

/-! ## 1. Reading -/

/-- At least one digit. -/
def digits : Reader (List Char) := fun cs =>
  let (ds, cs) := Reader.span Char.isDigit cs
  if ds.isEmpty then none else some (ds, cs)

/-- The digits before the point: a zero alone, or digits that start with another one. -/
def wholePart : Reader (List Char)
  | '0' :: cs => if cs.head?.any Char.isDigit then none else some (['0'], cs)
  | cs => digits cs

/-- A point and the digits after it; nothing when there is no point. -/
def fractionPart : Reader (List Char)
  | '.' :: cs => digits cs
  | cs => some ([], cs)

/-- A sign. -/
def sign : List Char → Bool × List Char
  | '-' :: cs => (true, cs)
  | '+' :: cs => (false, cs)
  | cs => (false, cs)

/-- An exponent; none when there is no exponent mark. -/
def exponentPart : Reader (Option Int)
  | c :: cs =>
    if c == 'e' || c == 'E' then do
      let (negative, cs) := sign cs
      let (ds, cs) ← digits cs
      let n : Int := decimalValue ds
      pure (some (if negative then -n else n), cs)
    else some (none, c :: cs)
  | [] => some (none, [])

/-- A number after its minus sign, if it has one. -/
def unsigned (negative : Bool) : Reader Numeral := fun cs => do
  let (whole, cs) ← wholePart cs
  let (fraction, cs) ← fractionPart cs
  let (exponent, cs) ← exponentPart cs
  pure ({ negative, whole, fraction, exponent }, cs)

/-- A number. -/
def read : Reader Numeral
  | '-' :: cs => unsigned true cs
  | cs => unsigned false cs

/-! ## 2. Values -/

/-- The value, if the number has no sign, point or exponent and fits in 64 bits. -/
def natural? (n : Numeral) : Option Nat :=
  let value := decimalValue n.whole
  if !n.negative && n.fraction.isEmpty && n.exponent.isNone && decide (value < Nat.pow 2 64) then some value
  else none

/-- Appends digits to a number as long as it fits in 64 bits, and counts the digits that are left. -/
def append (n : Nat) : List Char → Nat × Nat
  | [] => (n, 0)
  | d :: ds =>
    let longer := 10 * n + decimalValue [d]
    if longer < Nat.pow 2 64 then append longer ds else (n, ds.length + 1)

/-- The significand and the power of ten. Digits that do not fit count for their places before the
    point and for nothing after it. -/
def scaled (n : Numeral) : Nat × Int :=
  let (front, placesLeft) := append 0 n.whole
  let (significand, ignored) := append front n.fraction
  let places : Int := n.fraction.length - ignored
  (significand, n.exponent.getD 0 + placesLeft - places)

/-- The number is beyond all doubles when it is made of its significand and its power of ten. -/
def isOutOfRange (n : Numeral) : Bool :=
  let (significand, exponent) := n.scaled
  significand != 0 && (decide (308 < exponent) ||
    (decide (0 ≤ exponent) &&
      decide (Decimal.limit ≤ Decimal.nearest significand * Decimal.nearest (Nat.pow 10 exponent.toNat))))

end Numeral

end MediaIndex.Json
