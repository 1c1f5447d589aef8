import MediaIndex.Text.Digits
import MediaIndex.Text.Pieces

/-!
# Sets of code points

This file fixes what a set of code points is: a list of inclusive ranges, together with union,
complement, intersection and difference, and the written form (hexadecimal ranges) in which the
tables of the character database are kept.

* `CodeSet.contains` is the meaning of a set; every operation is judged by it;
* `CodeSet.union` keeps the ranges ascending and apart, so `CodeSet.complement` can read the gaps.
-/

namespace MediaIndex

/-! ## 1. Ranges -/

/-- The code points from `first` to `last`, both included. -/
structure CodeRange where
  first : Nat
  last : Nat
deriving DecidableEq, Repr, Inhabited

namespace CodeRange

/-- A range holds a code point that lies between its ends. -/
def contains (r : CodeRange) (c : Nat) : Bool := decide (r.first ≤ c) && decide (c ≤ r.last)

/-- Ranges are listed by their first code point. -/
def startsBefore (r s : CodeRange) : Bool := decide (r.first ≤ s.first)

end CodeRange

/-- A set of code points, as inclusive ranges. The operations below keep the ranges ascending, with
    at least one code point between two neighbours. -/
structure CodeSet where
  ranges : List CodeRange
deriving DecidableEq, Repr, Inhabited

namespace CodeSet

/-! ## 2. Operations -/

/-- A code point belongs to the set when one of its ranges holds it. -/
def contains (s : CodeSet) (c : Nat) : Bool := s.ranges.any (·.contains c)

/-- The set with no code point. -/
def empty : CodeSet := ⟨[]⟩

/-- All code points from `first` to `last`. -/
def range (first last : Nat) : CodeSet := ⟨[⟨first, last⟩]⟩

/-- The set with one code point. -/
def single (c : Nat) : CodeSet := range c c

/-- Ranges in ascending order, with those that touch or overlap made one; `open_` is the range that
    may still grow. -/
def coalesceFrom (open_ : CodeRange) : List CodeRange → List CodeRange
  | [] => [open_]
  | r :: rest =>
    if r.first ≤ open_.last + 1 then coalesceFrom ⟨open_.first, max open_.last r.last⟩ rest
    else open_ :: coalesceFrom r rest

/-- Ascending ranges, with those that touch or overlap made one. -/
def coalesce : List CodeRange → List CodeRange
  | [] => []
  | r :: rest => coalesceFrom r rest

/-- The code points of either set. -/
def union (s t : CodeSet) : CodeSet :=
  ⟨coalesce (s.ranges.merge t.ranges CodeRange.startsBefore)⟩

/-- The code points of any of the sets. -/
def unions (sets : List CodeSet) : CodeSet := sets.foldl union empty

/-- A set from code points in any order. -/
def ofCodes (codes : List Nat) : CodeSet :=
  ⟨coalesce ((codes.map fun c => ⟨c, c⟩).mergeSort CodeRange.startsBefore)⟩

/-- The gaps between ascending ranges, from `next` up to `bound`. -/
def gapsFrom (next bound : Nat) : List CodeRange → List CodeRange
  | [] => if next ≤ bound then [⟨next, bound⟩] else []
  | r :: rest =>
    if next < r.first then ⟨next, r.first - 1⟩ :: gapsFrom (r.last + 1) bound rest
    else gapsFrom (r.last + 1) bound rest

/-- The greatest code point. -/
def lastCode : Nat := 0x10FFFF

/-- The code points up to `bound` that are not in the set. -/
def complement (s : CodeSet) (bound : Nat := lastCode) : CodeSet := ⟨gapsFrom 0 bound s.ranges⟩

/-- The code points up to `bound` that are in both sets. -/
def inter (s t : CodeSet) (bound : Nat := lastCode) : CodeSet :=
  ((s.complement bound).union (t.complement bound)).complement bound

/-- The code points up to `bound` of the first set that are not in the second. -/
def diff (s t : CodeSet) (bound : Nat := lastCode) : CodeSet := s.inter (t.complement bound) bound

/-- The code points up to `bound` that are in exactly one of the sets. -/
def symmDiff (s t : CodeSet) (bound : Nat := lastCode) : CodeSet :=
  (s.diff t bound).union (t.diff s bound)

/-- Every code point of the set is at most `bound`. -/
def within (s : CodeSet) (bound : Nat) : Bool := s.ranges.all fun r => decide (r.last ≤ bound)

/-! ## 3. The written form of a set -/

/-- One written range: `41-5A`, or `AA` for a single code point. -/
def rangeOfHex (word : List Char) : CodeRange :=
  match splitAtChar '-' word with
  | [a, b] => ⟨hexValue a, hexValue b⟩
  | _ => ⟨hexValue word, hexValue word⟩

/-- The ranges written on a line, with a blank between two of them. -/
def rangesOfLine (line : List Char) : List CodeRange :=
  ((splitAtChar ' ' line).filter (· ≠ [])).map rangeOfHex

/-- A set written as lines of ascending hexadecimal ranges. -/
def ofHex (lines : List String) : CodeSet := ⟨lines.flatMap fun line => rangesOfLine line.toList⟩

end CodeSet

end MediaIndex
