import MediaIndex.Json.Numeral

/-!
# JSON values

Reads a JSON text. A text may be well formed and yet hold what cannot be used: a string with half of a
surrogate pair, or a number beyond all doubles. Such values are read and marked, so that whoever passes
over a value need not care; `Value.isUsable` refuses them, and values that are nested too deep.

* `Json.parse` reads a text;
* `Value.field?` and its like take a value apart.
-/

namespace MediaIndex.Json

/-! ## 1. Values -/

/-- A JSON value. -/
inductive Value where
  | null
  | boolean (b : Bool)
  /-- A number without sign, point and exponent that fits in 64 bits. -/
  | natural (n : Nat)
  /-- Any other number, and whether it is beyond all doubles. -/
  | number (tooGreat : Bool)
  /-- A string; none if it holds half of a surrogate pair. -/
  | text (s : Option String)
  | array (elements : List Value)
  | object (members : List (Option String × Value))
deriving Repr, Inhabited

/-! ## 2. White space and words -/

/-- White space between tokens. -/
def isSpace (c : Char) : Bool := c == ' ' || c == '\n' || c == '\t' || c == '\r'

/-- The text after the white space at its front. -/
def skipSpace (cs : List Char) : List Char := cs.dropWhile isSpace

/-! ## 3. Strings -/

/-- Four hexadecimal digits. -/
def unit : Reader Nat := fun cs => do
  let (digits, cs) ← Reader.exactly 4 isHexDigit cs
  pure (hexValue digits, cs)

/-- The first half of a surrogate pair. -/
def isLeading (n : Nat) : Bool := decide (0xD800 ≤ n ∧ n ≤ 0xDBFF)

/-- The second half of a surrogate pair. -/
def isTrailing (n : Nat) : Bool := decide (0xDC00 ≤ n ∧ n ≤ 0xDFFF)

/-- The code point of a surrogate pair. -/
def pairCode (leading trailing : Nat) : Nat :=
  0x10000 + (leading - 0xD800) * 0x400 + (trailing - 0xDC00)

/-- The second half of a surrogate pair, written as an escape. -/
def trailingUnit : Reader Nat
  | '\\' :: 'u' :: cs => do
    let (n, cs) ← unit cs
    if isTrailing n then pure (n, cs) else none
  | _ => none

/-- What follows `\u`: a character; none for half of a surrogate pair. -/
def unitEscape : Reader (Option Char) := fun cs => do
  let (n, cs) ← unit cs
  if isLeading n then
    match trailingUnit cs with
    | some (m, cs) => pure (charOfCode? (pairCode n m), cs)
    | none => pure (none, cs)
  else pure (charOfCode? n, cs)

/-- What follows a backslash. -/
def escape : Reader (Option Char)
  | '"' :: cs => some (some '"', cs)
  | '\\' :: cs => some (some '\\', cs)
  | '/' :: cs => some (some '/', cs)
  | 'b' :: cs => some (some '\x08', cs)
  | 'f' :: cs => some (some '\x0c', cs)
  | 'n' :: cs => some (some '\n', cs)
  | 'r' :: cs => some (some '\r', cs)
  | 't' :: cs => some (some '\t', cs)
  | 'u' :: cs => unitEscape cs
  | _ => none

/-- A character of a string. -/
def stringChar : Reader (Option Char)
  | '\\' :: cs => escape cs
  | '"' :: _ => none
  | c :: cs => if ' ' ≤ c then some (some c, cs) else none
  | [] => none

/-- A string. -/
def string (bound : Nat) : Reader (Option String) := fun cs => do
  let cs ← Reader.char '"' cs
  let (chars, cs) := Reader.many bound stringChar cs
  let cs ← Reader.char '"' cs
  pure ((chars.mapM id).map String.ofList, cs)

/-! ## 4. Numbers -/

/-- The value that a number stands for. -/
def numberOf (n : Numeral) : Value :=
  match n.natural? with
  | some value => .natural value
  | none => .number n.isOutOfRange

/-- A number. -/
def number : Reader Value := fun cs => (Numeral.read cs).map fun (n, cs) => (numberOf n, cs)

/-! ## 5. Values of any kind -/

/-- The rest of an array. -/
def array (bound : Nat) (value : Reader Value) : Reader Value := fun cs => do
  match Reader.separated bound ',' value cs with
  | none => pure (.array [], ← Reader.char ']' (skipSpace cs))
  | some (vs, cs) => pure (.array vs, ← Reader.char ']' cs)

/-- A name with its value. -/
def member (bound : Nat) (value : Reader Value) : Reader (Option String × Value) := fun cs => do
  let (name, cs) ← string bound (skipSpace cs)
  let cs ← Reader.char ':' (skipSpace cs)
  let (v, cs) ← value cs
  pure ((name, v), cs)

/-- The rest of an object. -/
def object (bound : Nat) (value : Reader Value) : Reader Value := fun cs => do
  match Reader.separated bound ',' (member bound value) cs with
  | none => pure (.object [], ← Reader.char '\x7d' (skipSpace cs))
  | some (ms, cs) => pure (.object ms, ← Reader.char '\x7d' cs)

/-- A value at the front of a text. -/
def token (bound : Nat) (nested : Reader Value) : Reader Value
  | 'n' :: 'u' :: 'l' :: 'l' :: cs => some (.null, cs)
  | 't' :: 'r' :: 'u' :: 'e' :: cs => some (.boolean true, cs)
  | 'f' :: 'a' :: 'l' :: 's' :: 'e' :: cs => some (.boolean false, cs)
  | '[' :: cs => array bound nested cs
  | '\x7b' :: cs => object bound nested cs
  | '"' :: cs => (string bound ('"' :: cs)).map fun (s, cs) => (.text s, cs)
  | cs => number cs

/-- A value with the white space around it, nested less deep than `depth`. -/
def value (bound : Nat) : Nat → Reader Value
  | 0 => fun _ => none
  | depth + 1 => fun cs => do
    let (v, cs) ← token bound (value bound depth) (skipSpace cs)
    pure (v, skipSpace cs)

/-- Reads a text that is one value; no value is nested deeper than its text is long. -/
def parse (text : String) : Option Value :=
  let cs := text.toList
  Reader.whole (value cs.length (cs.length + 1)) cs

/-! ## 6. Use of values -/

namespace Value

mutual

/-- The value and all in it can be used, and no more than `depth` arrays and objects stand inside one
    another. -/
def isUsable (depth : Nat) : Value → Bool
  | .number tooGreat => !tooGreat
  | .text s => s.isSome
  | .array elements => depth != 0 && allUsable (depth - 1) elements
  | .object members => depth != 0 && membersUsable (depth - 1) members
  | _ => true

/-- All values of a list can be used. -/
def allUsable (depth : Nat) : List Value → Bool
  | [] => true
  | v :: vs => isUsable depth v && allUsable depth vs

/-- All names and values of an object can be used. -/
def membersUsable (depth : Nat) : List (Option String × Value) → Bool
  | [] => true
  | (name, v) :: ms => name.isSome && isUsable depth v && membersUsable depth ms

end

/-- A text. -/
def text? : Value → Option String
  | text s => s
  | _ => none

/-- A number that fits in 64 bits. -/
def natural? : Value → Option Nat
  | natural n => some n
  | _ => none

/-- A truth value. -/
def boolean? : Value → Option Bool
  | boolean b => some b
  | _ => none

/-- The elements of an array. -/
def elements? : Value → Option (List Value)
  | array elements => some elements
  | _ => none

/-- The parts of a record with the given names, each none when it is missing. An object gives them by
    name, and none twice; an array gives them in order, and no more than these. -/
def parts? (names : List String) : Value → Option (List (Option Value))
  | object members => do
    if members.any (·.1.isNone) then none
    else names.mapM fun name =>
      match members.filter (·.1 == some name) with
      | [] => some none
      | [(_, v)] => some (some v)
      | _ => none
  | array elements =>
    if elements.length ≤ names.length then some (names.mapIdx fun i _ => elements[i]?) else none
  | _ => none

/-- The members of an object; of two with one name the last counts. -/
def texts? : Value → Option (List (String × String))
  | object members => members.mapM fun (name, v) => do pure (← name, ← v.text?)
  | _ => none

end Value

end MediaIndex.Json
