import MediaIndex.Text.NamedProperty

/-!
# Kinds of characters in a grapheme

What a character does at the borders of a grapheme, that is of what a reader takes for one character:
whether it attaches to the one before it, to the one after it, stands alone, or is part of a syllable.
Every code point is of one kind at most (section 1); a pattern can ask for a kind by name (section 2).
-/

namespace MediaIndex.GraphemeBreak

open Edition (earlier)

/-! ## 1. Kinds -/

/-- The five tones of skin and all characters that extend the one before them. -/
def extend : CodeSet := NamedProperty.graphemeExtend.union NamedProperty.emojiModifier

/-- The joiner that makes one picture of two. -/
def joiner : CodeSet := CodeSet.single 0x200D

/-- Signs that belong to the characters after them. -/
def prepended : CodeSet :=
  NamedProperty.prependedConcatenationMark.union
    (CodeSet.ofHex ["D4E 111C2-111C3 113D1 1193F 11941 11A84-11A89 11D46 11F02"])

/-- The two ends of a line. -/
def lineEnds : CodeSet := CodeSet.ofHex ["A D"]

/-- Controls and format characters, and code points kept for such. -/
def control : CodeSet :=
  ((CodeSet.unions [GeneralCategory.control, GeneralCategory.format, GeneralCategory.lineSeparator,
      GeneralCategory.paragraphSeparator,
      NamedProperty.otherDefaultIgnorable.inter NamedCategory.unassigned]).diff lineEnds).diff
    (CodeSet.unions [extend, joiner, prepended])

/-- Spacing marks of scripts in which they stand apart. -/
def separateMarks : CodeSet :=
  CodeSet.ofHex [
    "102B-102C 1038 1062-1064 1067-106D 1083 1087-108C 108F 109A-109C 1A61 1A63-1A64 AA7B AA7D",
    "11720-11721"]

/-- Marks that take room but belong to the character before them. -/
def spacingMark : CodeSet :=
  (((earlier GeneralCategory.spacingMark).diff extend).diff separateMarks).union
    (CodeSet.ofHex ["E33 EB3"])

/-- Consonants that begin a syllable of Hangul. -/
def leadingJamo : CodeSet := CodeSet.ofHex ["1100-115F A960-A97C"]

/-- Vowels of Hangul, and vowels of another script that join in the same way. -/
def vowelJamo : CodeSet := CodeSet.ofHex ["1160-11A7 D7B0-D7C6 16D63 16D67-16D6A"]

/-- Consonants that end a syllable of Hangul. -/
def trailingJamo : CodeSet := CodeSet.ofHex ["11A8-11FF D7CB-D7FB"]

/-- All syllables of Hangul that are characters of their own. -/
def syllables : CodeSet := CodeSet.range 0xAC00 0xD7A3

/-- Syllables of Hangul that end with a vowel: every twenty-eighth. -/
def openSyllables : CodeSet :=
  CodeSet.ofCodes ((List.range 399).map fun k => 0xAC00 + 28 * k)

/-- Syllables of Hangul that end with a consonant. -/
def closedSyllables : CodeSet := syllables.diff openSyllables

/-- Letters that flags are spelled with. -/
def regionalIndicator : CodeSet := NamedProperty.regionalIndicator

/-! ## 2. Names -/

/-- Every kind with the names it goes by, spelled without blanks, hyphens, underscores and
    capitals. -/
def named : List (List String × CodeSet) := [
  (["cn", "control"], control),
  (["cr"], CodeSet.single 0x0D),
  (["ex", "extend"], extend),
  (["l"], leadingJamo),
  (["lf"], CodeSet.single 0x0A),
  (["lv"], openSyllables),
  (["lvt"], closedSyllables),
  (["pp", "prepend"], prepended),
  (["ri", "regionalindicator"], regionalIndicator),
  (["sm", "spacingmark"], spacingMark),
  (["t"], trailingJamo),
  (["v"], vowelJamo),
  (["zwj"], joiner)]

end MediaIndex.GraphemeBreak
