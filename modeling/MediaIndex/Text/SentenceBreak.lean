import MediaIndex.Text.WordBreak

/-!
# Kinds of characters in a sentence

What a character does at the borders of a sentence: whether it can end one, go on with one, close one,
or begin the next. Every code point is of one kind at most (section 1); a pattern can ask for a kind by
name (section 2).
-/

namespace MediaIndex.SentenceBreak

open Edition (earlier)

/-! ## 1. Kinds -/

/-- Marks and joiners, which attach to the character before them. -/
def extend : CodeSet :=
  CodeSet.unions [earlier GeneralCategory.spacingMark, NamedProperty.graphemeExtend,
    GraphemeBreak.joiner]

/-- Ends of a paragraph beside line feed and carriage return. -/
def separator : CodeSet := CodeSet.ofHex ["85 2028-2029"]

/-- Blanks. -/
def blank : CodeSet :=
  NamedProperty.whiteSpace.diff (CodeSet.unions [separator, GraphemeBreak.lineEnds])

/-- Georgian letters that have case on paper alone, in both forms. -/
def georgian : CodeSet := CodeSet.ofHex ["10D0-10FA 10FD-10FF 1C90-1CBA 1CBD-1CBF"]

/-- Lowercase letters. -/
def lower : CodeSet := (NamedProperty.lowercase.diff NamedProperty.graphemeExtend).diff georgian

/-- Letters that a sentence may begin with. -/
def upper : CodeSet :=
  (NamedProperty.uppercase.union GeneralCategory.titlecaseLetter).diff georgian

/-- All other letters. -/
def letter : CodeSet :=
  (NamedProperty.alphabetic.diff (CodeSet.unions [lower, upper, extend])).union
    (CodeSet.single 0x5F3)

/-- Digits, the signs of Arabic numbers, and marks that enclose digits. -/
def numeric : CodeSet := WordBreak.numeric.union (CodeSet.single 0x66C)

/-- Full stops, which may end a sentence or an abbreviation. -/
def fullStop : CodeSet := CodeSet.ofHex ["2E 2024 FE52 FF0E"]

/-- Signs that end a sentence. -/
def terminal : CodeSet := NamedProperty.sentenceTerminal.diff fullStop

/-- Signs after which a sentence goes on. -/
def continuing : CodeSet :=
  CodeSet.ofHex [
    "2C-2D 3A-3B 37E 55D 60C-60D 7F8 1802 1808 2013-2014 3001 FE10-FE11 FE13-FE14 FE31-FE32",
    "FE50-FE51 FE54-FE55 FE58 FE63 FF0C-FF0D FF1A-FF1B FF64"]

/-- Brackets and quotation marks. -/
def closing : CodeSet :=
  (CodeSet.unions [earlier GeneralCategory.openPunctuation,
    earlier GeneralCategory.closePunctuation, earlier GeneralCategory.initialPunctuation,
    earlier GeneralCategory.finalPunctuation, NamedProperty.quotationMark,
    CodeSet.ofHex ["275B-2760 2E00-2E01 2E06-2E08 2E0B 1F676-1F678"]]).diff
    (CodeSet.ofHex ["FF02 FF07"])

/-- Format characters, which sentences do not notice. -/
def format : CodeSet :=
  GeneralCategory.format.diff (CodeSet.unions [extend, numeric])

/-! ## 2. Names -/

/-- Every kind with the names it goes by, spelled without blanks, hyphens, underscores and
    capitals. -/
def named : List (List String × CodeSet) := [
  (["at", "aterm"], fullStop),
  (["cl", "close"], closing),
  (["cr"], CodeSet.single 0x0D),
  (["ex", "extend"], extend),
  (["fo", "format"], format),
  (["le", "oletter"], letter),
  (["lf"], CodeSet.single 0x0A),
  (["lo", "lower"], lower),
  (["nu", "numeric"], numeric),
  (["sc", "scontinue"], continuing),
  (["se", "sep"], separator),
  (["sp"], blank),
  (["st", "sterm"], terminal),
  (["up", "upper"], upper)]

end MediaIndex.SentenceBreak
