import MediaIndex.Column
import MediaIndex.GroupKey

/-!
# Extraction

How an item and a column give the values the item is grouped under. An extractor yields one text,
which may hold several values with the value separator between them; `valuesOf` takes them apart.

* `fieldExtractor` reads the column's field and splits it at a delimiter;
* `valuesOf` never yields an empty list: an item with no value has the one empty value.
-/

namespace MediaIndex

/-- What gives the text of a column for an item. -/
abbrev Extractor := Item → Column → String

/-! ## 1. Reading fields -/

/-- The non-empty trimmed pieces of a text between the occurrences of a delimiter. -/
def piecesOf (delimiter text : List Char) : List (List Char) :=
  ((splitAtAll delimiter text).map trimChars).filter (· ≠ [])

/-- Reads the column's field, without the separators it may hold, and splits it at `delimiter`; an
    empty delimiter splits nothing. -/
def fieldExtractor (delimiter : String) : Extractor := fun item column =>
  String.ofList ([valueSeparator].intercalate
    (piecesOf delimiter.toList (stripSeparators (item.field column.field).toList)))

/-- Yields the column's field as it stands. -/
def rawExtractor : Extractor := fun item column => item.field column.field

/-! ## 2. Taking values apart -/

/-- The non-empty values of an extracted text, without key separators. -/
def partsOf (text : List Char) : List (List Char) :=
  ((splitAtChar valueSeparator text).map (·.filter (· ≠ keySeparator))).filter (· ≠ [])

/-- The values of an extracted text, each once, in the order in which they first occur; the empty
    value when there are none. -/
def valuesOf (text : String) : List String :=
  let parts := partsOf text.toList
  if parts.isEmpty then [""] else (parts.map String.ofList).eraseDups

end MediaIndex
