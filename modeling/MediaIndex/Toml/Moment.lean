import MediaIndex.Text.Digits
import MediaIndex.Text.Reading

/-!
# TOML dates and times

A date `1987-07-05`, a time `17:45:00.5`, or both with a `T` or a blank between them and perhaps an
offset after them. Only whether a text starts with one is asked here, and what follows it.
-/

namespace MediaIndex.Toml.Moment

/-! ## 1. Numbers of fixed width -/

/-- A number of two digits that lies between two bounds. -/
def twoDigits (least most : Nat) : Reader Nat := fun cs => do
  let (ds, cs) ← Reader.exactly 2 Char.isDigit cs
  let n := decimalValue ds
  if least ≤ n && n ≤ most then pure (n, cs) else none

/-- The number of days of a month. -/
def daysOf (year month : Nat) : Nat :=
  if month == 2 then (if year % 4 == 0 && (year % 100 != 0 || year % 400 == 0) then 29 else 28)
  else if month == 4 || month == 6 || month == 9 || month == 11 then 30
  else 31

/-! ## 2. Dates and times -/

/-- The text starts with four digits and a hyphen. -/
def startsDate (cs : List Char) : Bool :=
  match Reader.exactly 4 Char.isDigit cs with
  | some (_, '-' :: _) => true
  | _ => false

/-- The text starts with an hour and a colon. -/
def startsTime (cs : List Char) : Bool :=
  match twoDigits 0 23 cs with
  | some (_, ':' :: _) => true
  | _ => false

/-- Takes a date. -/
def date (cs : List Char) : Option (List Char) := do
  let (ds, cs) ← Reader.exactly 4 Char.isDigit cs
  let cs ← Reader.char '-' cs
  let (month, cs) ← twoDigits 1 12 cs
  let cs ← Reader.char '-' cs
  let (_, cs) ← twoDigits 1 (daysOf (decimalValue ds) month) cs
  pure cs

/-- Takes a fraction of a second, if there is one. -/
def secondFraction : List Char → List Char
  | '.' :: d :: cs => if d.isDigit then cs.dropWhile Char.isDigit else '.' :: d :: cs
  | cs => cs

/-- Takes a time of day; the second may be a leap second. -/
def time (cs : List Char) : Option (List Char) := do
  let (_, cs) ← twoDigits 0 23 cs
  let cs ← Reader.char ':' cs
  let (_, cs) ← twoDigits 0 59 cs
  let cs ← Reader.char ':' cs
  let (_, cs) ← twoDigits 0 60 cs
  pure (secondFraction cs)

/-- Takes an offset from universal time, if there is one. -/
def offset (cs : List Char) : Option (List Char) :=
  match cs with
  | [] => some []
  | c :: rest =>
    if c == 'Z' || c == 'z' then some rest
    else if c == '+' || c == '-' then do
      let (_, cs) ← twoDigits 0 23 rest
      let cs ← Reader.char ':' cs
      let (_, cs) ← twoDigits 0 59 cs
      pure cs
    else some cs

/-- Takes the time and offset that follow a date, if a time does. -/
def timeAfterDate (cs : List Char) : Option (List Char) :=
  match cs with
  | [] => some []
  | c :: rest =>
    if (c == 'T' || c == 't' || c == ' ') && startsTime rest then (time rest).bind offset
    else some cs

/-! ## 3. Moments -/

/-- The text starts with a date or a time. -/
def starts (cs : List Char) : Bool := startsDate cs || startsTime cs

/-- Takes a date, a time, or both. -/
def take (cs : List Char) : Option (List Char) :=
  if startsDate cs then (date cs).bind timeAfterDate else time cs

end MediaIndex.Toml.Moment
