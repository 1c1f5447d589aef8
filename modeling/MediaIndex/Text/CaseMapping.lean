import MediaIndex.Text.CaseTable
import MediaIndex.Text.CharProperty

/-!
# Changing case

The full case mapping of the character database (section 1), the lowercase form of a whole text with
its one rule about context (section 2), and comparison with the case of ASCII letters ignored
(section 3).

The rule about context: a capital sigma at the end of a word becomes `ς` and any other `σ`. It ends
a word when, with characters passed over that have no bearing on words, a character that has case
stands before it and none stands after it.
-/

namespace MediaIndex

/-! ## 1. One character -/

/-- The first row of a table that says something about a code point. -/
def CaseRow.lookup (rows : List CaseRow) (c : Nat) : Option Nat := rows.findSome? (·.image? c)

/-- The lowercase form of a character: itself, another one, or `i` with a dot above. -/
def lowerChar (c : Char) : List Char :=
  if c.toNat < 0x80 then [c.toLower]
  else if c.toNat = 0x130 then ['i', Char.ofNat 0x307]
  else match CaseRow.lookup CaseTable.toLower c.toNat with
    | some n => [Char.ofNat n]
    | none => [c]

/-- The uppercase form of a character, which may be several characters. -/
def upperChar (c : Char) : List Char :=
  if c.toNat < 0x80 then [c.toUpper]
  else match CaseTable.toUpperSeveral.lookup c.toNat with
    | some ns => ns.map Char.ofNat
    | none => match CaseRow.lookup CaseTable.toUpper c.toNat with
      | some n => [Char.ofNat n]
      | none => [c]

/-! ## 2. A text -/

/-- The first character that words are not blind to has case. -/
def casedAhead (cs : List Char) : Bool :=
  match cs.dropWhile fun c => CharProperty.caseIgnorable.contains c.toNat with
  | [] => false
  | c :: _ => CharProperty.cased.contains c.toNat

/-- The capital sigma, whose lowercase form depends on its place. -/
def capitalSigma : Char := 'Σ'

/-- The lowercase form of a text of which `before` has been read, the nearest character first. -/
def lowerFrom (before : List Char) : List Char → List Char
  | [] => []
  | c :: cs =>
    let here :=
      if c = capitalSigma then [if casedAhead before && !casedAhead cs then 'ς' else 'σ']
      else lowerChar c
    here ++ lowerFrom (c :: before) cs

/-- The lowercase form of a text. -/
def lowercase (s : String) : String := String.ofList (lowerFrom [] s.toList)

/-! ## 3. ASCII case -/

/-- Two texts are equal when the case of ASCII letters is ignored. -/
def equalIgnoringAsciiCase (s t : String) : Bool :=
  s.toList.map Char.toLower == t.toList.map Char.toLower

end MediaIndex
