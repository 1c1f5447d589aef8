import MediaIndex.Regex.Match
import MediaIndex.Text.SimpleFold

/-!
# Glob patterns

A glob pattern is matched against a whole value: `*` takes any run of characters, `?` takes one, and
every other character takes one that is the same up to simple case folding. A wildcard takes no line
feed.

* `Glob.Accepts` is the meaning, character by character;
* `Glob.toRegex` is the expression that decides it.
-/

namespace MediaIndex.Glob

/-! ## 1. Meaning -/

/-- A character that a wildcard may take. -/
def isPlain (c : Char) : Bool := c != '\n'

/-- The pattern accepts the value. -/
inductive Accepts : List Char → List Char → Prop where
  | nil : Accepts [] []
  /-- A star takes nothing more. -/
  | starDone {p v : List Char} (h : Accepts p v) : Accepts ('*' :: p) v
  /-- A star takes one more character. -/
  | starMore {p v : List Char} {c : Char} (hc : isPlain c = true) (h : Accepts ('*' :: p) v) :
      Accepts ('*' :: p) (c :: v)
  /-- A question mark takes one character. -/
  | one {p v : List Char} {c : Char} (hc : isPlain c = true) (h : Accepts p v) :
      Accepts ('?' :: p) (c :: v)
  /-- Another character takes one that is the same up to case. -/
  | same {p v : List Char} {a c : Char} (hs : a ≠ '*') (hq : a ≠ '?')
      (hc : SimpleFold.sameFold a c = true) (h : Accepts p v) : Accepts (a :: p) (c :: v)

/-! ## 2. As a regular expression -/

/-- The characters that a wildcard may take. -/
def plainSet : CodeSet := (CodeSet.single 0x0A).complement

/-- What one character of a pattern stands for. -/
def charRegex (c : Char) : Regex :=
  match c with
  | '*' => .repeated (.set plainSet) 0 none
  | '?' => .set plainSet
  | c => .set (CodeSet.ofCodes (SimpleFold.orbit c.toNat))

/-- The pattern from here to the end of the value. -/
def tailRegex : List Char → Regex
  | [] => .look .textEnd
  | c :: cs => .cat (charRegex c) (tailRegex cs)

/-- The pattern as an expression that matches whole values. -/
def toRegex (pattern : List Char) : Regex := .cat (.look .textStart) (tailRegex pattern)

end MediaIndex.Glob
