import MediaIndex.Query.Basic
import MediaIndex.Text.Digits

/-!
# Written queries

How a query is typed. The words of the text are read one by one: `col:`, `min:` and `max:` words are
filters, and the others, with one blank between two, are the pattern. A pattern between `r/` and `/`
is a regular expression, one after `=` an exact value, one with `*` or `?` a glob pattern, and any
other a text to be contained.
-/

namespace MediaIndex

/-! ## 1. Numbers -/

/-- The greatest number of members, or limit, that can be written. -/
def lastNumber : Nat := Nat.pow 2 64 - 1

/-- A number in decimal digits, perhaps after a plus sign, that is not too great. -/
def readNumber (cs : List Char) : Option Nat :=
  let digits := match cs with
    | '+' :: ds => ds
    | ds => ds
  let value := decimalValue digits
  if !digits.isEmpty && digits.all Char.isDigit && value ≤ lastNumber then some value else none

namespace NodeQuery

/-! ## 2. Words -/

/-- What one word of a query is. -/
inductive Word where
  | filter (f : NodeFilter)
  /-- A column word without a field, which counts for nothing. -/
  | blank
  | pattern (text : List Char)
deriving DecidableEq, Repr

/-- Reads one word. -/
def Word.ofChars (cs : List Char) : Word :=
  match dropLeading? "col:".toList cs with
  | some field => if field.isEmpty then blank else filter (.column (String.ofList field))
  | none =>
    match (dropLeading? "min:".toList cs).bind readNumber with
    | some n => filter (.minMembers n)
    | none =>
      match (dropLeading? "max:".toList cs).bind readNumber with
      | some n => filter (.maxMembers n)
      | none => pattern cs

/-- The filter that a word is. -/
def Word.filter? : Word → Option NodeFilter
  | filter f => some f
  | _ => none

/-- The part of the pattern that a word is. -/
def Word.pattern? : Word → Option (List Char)
  | pattern text => some text
  | _ => none

/-! ## 3. Patterns and queries -/

/-- What is between `r/` and a closing slash, if it is not empty. -/
def regexBody? (cs : List Char) : Option (List Char) :=
  match cs with
  | 'r' :: '/' :: rest =>
    if rest.getLast? = some '/' && 1 < rest.length then some rest.dropLast else none
  | _ => none

/-- The query that a pattern alone makes. -/
def ofPattern (cs : List Char) : Except IndexError NodeQuery :=
  match regexBody? cs, cs with
  | some body, _ => regex (String.ofList body)
  | none, '=' :: value => .ok (exact (String.ofList value))
  | none, cs =>
    if cs.contains '*' || cs.contains '?' then .ok (wildcard (String.ofList cs))
    else .ok (substring (String.ofList cs))

/-- Reads a query. -/
def parse (text : String) : Except IndexError NodeQuery := do
  let words := (wordsFrom [] text.toList).map Word.ofChars
  let q ← ofPattern ([' '].intercalate (words.filterMap Word.pattern?))
  pure ((words.filterMap Word.filter?).foldl withFilter q)

end NodeQuery

end MediaIndex
