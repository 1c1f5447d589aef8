import MediaIndex.Text.GraphemeBreak

/-!
# Kinds of characters in a word

What a character does at the borders of a word: whether it is a letter, a digit, one of the signs that
may stand between letters or digits, or nothing that words are made of. Every code point is of one kind
at most (section 1); a pattern can ask for a kind by name (section 2).
-/

namespace MediaIndex.WordBreak

open Edition (earlier)

/-! ## 1. Kinds -/

/-- Marks that attach to the character before them. -/
def extend : CodeSet :=
  CodeSet.unions [earlier GeneralCategory.spacingMark, GraphemeBreak.extend]

/-- Ends of a line beside line feed and carriage return. -/
def newline : CodeSet := CodeSet.ofHex ["B-C 85 2028-2029"]

/-- Letters of the Hebrew script. -/
def hebrewLetter : CodeSet :=
  CodeSet.ofHex [
    "5D0-5EA 5EF-5F2 FB1D FB1F-FB28 FB2A-FB36 FB38-FB3C FB3E FB40-FB41 FB43-FB44 FB46-FB4F"]

/-- Letters of the Katakana script and the signs that are written among them. -/
def katakana : CodeSet :=
  CodeSet.ofHex [
    "3031-3035 309B-309C 30A0-30FA 30FC-30FF 31F0-31FF 32D0-32FE 3300-3357 FF66-FF9D 1AFF0-1AFF3",
    "1AFF5-1AFFB 1AFFD-1AFFE 1B000 1B120-1B122 1B155 1B164-1B167"]

/-- Letters of the Hiragana script. -/
def hiragana : CodeSet := CodeSet.ofHex ["3041-3096 309D-309F 1B001-1B11F 1B132 1B150-1B152"]

/-- Scripts that set no blank between two words. -/
def unspaced : CodeSet :=
  CodeSet.ofHex ["E01-EDF 1000-108E 1780-17DC 1950-19C9 1A20-1AA7 A9E0-A9FE AA60-AADD 11700-11746"]

/-- Signs that count as letters although they are not alphabetic. -/
def letterLike : CodeSet :=
  CodeSet.ofHex [
    "B8 2C2-2C5 2D2-2D7 2DE-2DF 2E5-2EB 2ED 2EF-2FF 55A-55C 55E 58A 5F3 70F A708-A716 A720-A721",
    "A789-A78A AB5B"]

/-- All other letters, of scripts that set blanks between words. -/
def letter : CodeSet :=
  (NamedProperty.alphabetic.diff
    (CodeSet.unions [NamedProperty.ideographic, katakana, hiragana, hebrewLetter, unspaced,
      extend])).union letterLike

/-- Digits, the signs of Arabic numbers, and marks that enclose digits. -/
def numeric : CodeSet :=
  CodeSet.unions [earlier GeneralCategory.decimalNumber,
    NamedProperty.prependedConcatenationMark.diff (CodeSet.single 0x70F),
    CodeSet.ofHex ["66B 19DA"]]

/-- Signs that may stand between letters and between digits. -/
def betweenBoth : CodeSet := CodeSet.ofHex ["2E 2018-2019 2024 FE52 FF07 FF0E"]

/-- Signs that may stand between letters. -/
def betweenLetters : CodeSet := CodeSet.ofHex ["3A B7 387 55F 5F4 2027 FE13 FE55 FF1A"]

/-- Signs that may stand between digits. -/
def betweenDigits : CodeSet :=
  CodeSet.ofHex ["2C 3B 37E 589 60C-60D 66C 7F8 2044 FE50 FE54 FF0C FF1B"]

/-- Signs that join letters, digits and themselves. -/
def joining : CodeSet :=
  (earlier GeneralCategory.connectorPunctuation).union (CodeSet.single 0x202F)

/-- Blanks that a row of blanks is made of. -/
def blank : CodeSet :=
  GeneralCategory.spaceSeparator.diff (CodeSet.ofHex ["A0 2007 202F"])

/-- Format characters, which words do not notice. -/
def format : CodeSet :=
  GeneralCategory.format.diff
    (CodeSet.unions [GraphemeBreak.extend, GraphemeBreak.joiner, GraphemeBreak.prepended,
      CodeSet.single 0x200B])

/-! ## 2. Names -/

/-- Every kind with the names it goes by, spelled without blanks, hyphens, underscores and
    capitals. -/
def named : List (List String × CodeSet) := [
  (["cr"], CodeSet.single 0x0D),
  (["dq", "doublequote"], CodeSet.single 0x22),
  (["ex", "extendnumlet"], joining),
  (["extend"], extend),
  (["fo", "format"], format),
  (["hl", "hebrewletter"], hebrewLetter),
  (["ka", "katakana"], katakana),
  (["le", "aletter"], letter),
  (["lf"], CodeSet.single 0x0A),
  (["mb", "midnumlet"], betweenBoth),
  (["ml", "midletter"], betweenLetters),
  (["mn", "midnum"], betweenDigits),
  (["nl", "newline"], newline),
  (["nu", "numeric"], numeric),
  (["ri", "regionalindicator"], GraphemeBreak.regionalIndicator),
  (["sq", "singlequote"], CodeSet.single 0x27),
  (["wsegspace"], blank),
  (["zwj"], GraphemeBreak.joiner)]

end MediaIndex.WordBreak
