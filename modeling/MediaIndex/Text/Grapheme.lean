import MediaIndex.Text.GraphemeBreak

/-!
# Graphemes

A grapheme is what a reader takes for one character: a letter with its marks, a syllable of Hangul, a
flag, a picture made of several. A text falls into graphemes (section 2); whether a character still
belongs to the grapheme before it is told from that grapheme alone (section 1).

* `Grapheme.continues` is the rule, `Grapheme.split` the division of a text.
-/

namespace MediaIndex.Grapheme

open GraphemeBreak

/-! ## 1. Where a grapheme goes on -/

/-- Marks that join the consonants on their two sides to one sign. -/
def linker : CodeSet := CodeSet.ofHex ["94D 9CD ACD B4D C4D D4D"]

/-- Consonants of the scripts in which such marks are used. -/
def linkedConsonant : CodeSet :=
  CodeSet.ofHex [
    "915-939 958-95F 978-97F 995-9A8 9AA-9B0 9B2 9B6-9B9 9DC-9DD 9DF 9F0-9F1 A95-AA8 AAA-AB0",
    "AB2-AB3 AB5-AB9 AF9 B15-B28 B2A-B30 B32-B33 B35-B39 B5C-B5D B5F B71 C15-C28 C2A-C39 C58-C5A",
    "D15-D3A"]

/-- Marks that may stand between such a consonant and the next one. -/
def betweenConsonants : CodeSet := (extend.union joiner).diff (CodeSet.single 0x200C)

/-- A character is in a set. -/
def isIn (s : CodeSet) (c : Char) : Bool := s.contains c.toNat

/-- Two characters are parts of one syllable of Hangul. -/
def sameSyllable (a b : Char) : Bool :=
  (isIn leadingJamo a && (isIn leadingJamo b || isIn vowelJamo b || isIn syllables b)) ||
  ((isIn openSyllables a || isIn vowelJamo a) && (isIn vowelJamo b || isIn trailingJamo b)) ||
  ((isIn closedSyllables a || isIn trailingJamo a) && isIn trailingJamo b)

/-- A consonant and a linker are the last thing in a grapheme, which is given backwards, but for
    marks. -/
def endsLinked (before : List Char) : Bool :=
  let marks := before.takeWhile (isIn betweenConsonants)
  match before.dropWhile (isIn betweenConsonants) with
  | c :: _ => isIn linkedConsonant c && marks.any (isIn linker)
  | [] => false

/-- A picture and a joiner are the last thing in a grapheme, which is given backwards. -/
def endsJoined (before : List Char) : Bool :=
  match before with
  | j :: more =>
    match more.dropWhile (isIn extend) with
    | c :: _ => isIn joiner j && isIn NamedProperty.extendedPictographic c
    | [] => false
  | [] => false

/-- A flag lacks its second letter at the end of a grapheme, which is given backwards. -/
def endsInHalfFlag (before : List Char) : Bool :=
  (before.takeWhile (isIn regionalIndicator)).length % 2 == 1

/-- A character belongs to the grapheme before it, which is given backwards: a line end and a control
    stand alone but for a line feed after a carriage return; marks and joiners attach; the parts of a
    syllable, a flag, a joined picture and a joined consonant stay together. -/
def continues (before : List Char) (c : Char) : Bool :=
  match before with
  | [] => false
  | a :: _ =>
    if a = '\r' && c = '\n' then true
    else if isIn control a || isIn lineEnds a || isIn control c || isIn lineEnds c then false
    else
      sameSyllable a c || isIn extend c || isIn joiner c || isIn spacingMark c || isIn prepended a ||
        (isIn linkedConsonant c && endsLinked before) ||
        (isIn NamedProperty.extendedPictographic c && endsJoined before) ||
        (isIn regionalIndicator c && endsInHalfFlag before)

/-! ## 2. The graphemes of a text -/

/-- The graphemes of a text of which a part of a grapheme has been read; that part is given
    backwards. -/
def splitFrom (before : List Char) : List Char → List (List Char)
  | [] => if before.isEmpty then [] else [before.reverse]
  | c :: cs =>
    if before.isEmpty || continues before c then splitFrom (c :: before) cs
    else before.reverse :: splitFrom [c] cs

/-- The graphemes of a text. -/
def split (cs : List Char) : List (List Char) := splitFrom [] cs

end MediaIndex.Grapheme
