import MediaIndex.Text.CaseTable

/-!
# Equality up to simple case folding

Two characters are the same up to case when simple folding sends them to one character. The folding
of a character is given by the table; the characters that are the same as it form its orbit.

* `SimpleFold.sameFold` is the relation, `SimpleFold.orbit` lists the characters it holds of;
* `SimpleFold.close` adds to a set every character that is the same as one of its own.
-/

namespace MediaIndex.SimpleFold

/-- The code point under which a code point is compared. -/
def fold (c : Nat) : Nat := (CaseTable.toFolded.findSome? (·.image? c)).getD c

/-- Two characters are the same up to simple case folding. -/
def sameFold (a b : Char) : Bool := fold a.toNat == fold b.toNat

/-- The code points that are compared as `c` is. -/
def orbit (c : Nat) : List Nat :=
  fold c :: CaseTable.toFolded.filterMap (·.preimage? (fold c))

/-- The orbits of all code points that folding changes. -/
def orbits : List (List Nat) := (CaseTable.toFolded.flatMap CaseRow.sources).map orbit

/-- A set with every code point added that is the same as one of its own up to simple case
    folding. -/
def close (s : CodeSet) : CodeSet :=
  s.union (CodeSet.ofCodes (orbits.flatMap fun o => if o.any s.contains then o else []))

end MediaIndex.SimpleFold
