import MediaIndex.Text.Decimal
import MediaIndex.Text.Digits
import MediaIndex.Text.Reading
import MediaIndex.Toml.Value

/-!
# TOML numbers

Integers of 64 bits with a sign, in decimal, or without a sign in three other bases; and
floating-point numbers. A single underscore may stand between two digits.

Every reader answers with the text after the number, or refuses.
-/

namespace MediaIndex.Toml.Numeral

/-! ## 1. Digits -/

/-- Digits with single underscores between them, as far as they go; an underscore with no digit after
    it is refused. -/
def digitsOf (isDigit : Char → Bool) : List Char → Option (List Char × List Char)
  | '_' :: d :: cs =>
    if isDigit d then (digitsOf isDigit cs).map fun (ds, cs) => (d :: ds, cs) else none
  | ['_'] => none
  | d :: cs =>
    if isDigit d then (digitsOf isDigit cs).map fun (ds, cs) => (d :: ds, cs) else some ([], d :: cs)
  | [] => some ([], [])

/-- At least one digit. -/
def digits (isDigit : Char → Bool) : Reader (List Char)
  | d :: cs => if isDigit d then digitsOf isDigit (d :: cs) else none
  | [] => none

/-! ## 2. Integers -/

/-- An integer of 64 bits with a sign. -/
def inRange (n : Int) : Bool := decide (-Int.pow 2 63 ≤ n) && decide (n < Int.pow 2 63)

/-- The value of digits in a base. -/
def valueIn (base : Nat) (ds : List Char) : Nat :=
  ds.foldl (fun n d => base * n + (hexDigit? d).getD 0) 0

/-- The rest of an integer in another base. -/
def based (base : Nat) (isDigit : Char → Bool) : Reader Value := fun cs => do
  let (ds, cs) ← digits isDigit cs
  let n : Int := valueIn base ds
  if inRange n then pure (.integer n, cs) else none

/-- The digits of a decimal number: a zero alone, or digits that start with another one. -/
def wholePart : Reader (List Char)
  | '0' :: cs => some (['0'], cs)
  | cs => digits Char.isDigit cs

/-! ## 3. Floating-point numbers -/

/-- A point and the digits after it; nothing when there is no point. -/
def fraction : Reader (List Char)
  | '.' :: cs => digits Char.isDigit cs
  | cs => some ([], cs)

/-- A sign. -/
def sign : List Char → Bool × List Char
  | '-' :: cs => (true, cs)
  | '+' :: cs => (false, cs)
  | cs => (false, cs)

/-- A number with a sign. -/
def signed (negative : Bool) (n : Nat) : Int := if negative then -n else n

/-- An exponent; none when there is no exponent mark. -/
def exponent : Reader (Option Int)
  | c :: cs =>
    if c == 'e' || c == 'E' then do
      let (negative, cs) := sign cs
      let (ds, cs) ← digits Char.isDigit cs
      pure (some (signed negative (decimalValue ds)), cs)
    else some (none, c :: cs)
  | [] => some (none, [])

/-- The number with a whole part, a fraction and an exponent. One that would be read as positive
    infinity is refused. -/
def value (negative : Bool) (whole frac : List Char) (exp : Option Int) : Option Value :=
  if frac.isEmpty && exp.isNone then
    let n := signed negative (decimalValue whole)
    if inRange n then some (.integer n) else none
  else
    let coefficient := decimalValue (whole ++ frac)
    if !negative && Decimal.isTooGreat coefficient (exp.getD 0 - frac.length) then none
    else some .float

/-! ## 4. Numbers -/

/-- A decimal number after its sign: infinity, no number at all, or digits. -/
def decimal (negative : Bool) : Reader Value
  | 'i' :: 'n' :: 'f' :: cs => some (.float, cs)
  | 'n' :: 'a' :: 'n' :: cs => some (.float, cs)
  | cs => do
    let (whole, cs) ← wholePart cs
    let (frac, cs) ← fraction cs
    let (exp, cs) ← exponent cs
    let v ← value negative whole frac exp
    pure (v, cs)

/-- A number of any kind. -/
def read : Reader Value
  | '0' :: 'x' :: cs => based 16 isHexDigit cs
  | '0' :: 'o' :: cs => based 8 (fun c => decide ('0' ≤ c ∧ c ≤ '7')) cs
  | '0' :: 'b' :: cs => based 2 (fun c => c == '0' || c == '1') cs
  | cs =>
    let (negative, cs) := sign cs
    decimal negative cs

end MediaIndex.Toml.Numeral
