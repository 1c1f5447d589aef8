import MediaIndex.Item
import MediaIndex.Text.Pieces
import MediaIndex.Text.WhiteSpace

/-!
# Columns

A column is one dimension items are grouped by. Either it reads a field, or it is the implicit column
that stands in where no column is configured and puts every item into one group.

Columns are written `field=Name`, or `field` alone, and lists of them with commas between.
-/

namespace MediaIndex

/-! ## 1. Columns -/

/-- One grouping dimension. -/
inductive Column where
  /-- Groups by the text of `field`, and is shown under `name`. -/
  | ofField (field name : String)
  /-- The implicit column: every item has the one value `Unclassified`. -/
  | unclassified
deriving DecidableEq, Repr, Inhabited

namespace Column

/-- The value, and the name, of the implicit column. -/
def unclassifiedText : String := "Unclassified"

/-- The field a column reads; none, written as the empty name, for the implicit column. -/
def field : Column → String
  | ofField field _ => field
  | unclassified => ""

/-- The name a column is shown under. -/
def name : Column → String
  | ofField _ name => name
  | unclassified => unclassifiedText

/-- This is the implicit column. -/
def isUnclassified : Column → Bool
  | ofField _ _ => false
  | unclassified => true

/-- A column that names no field is no column, unless it is the implicit one. -/
def namesField (c : Column) : Bool := c.isUnclassified || c.field != ""

/-- A column written out in full. -/
def describe (c : Column) : String :=
  Quoted.record "Column" [("field", Quoted.encode c.field), ("name", Quoted.encode c.name),
    ("implicit", toString c.isUnclassified)]

end Column

/-- A list of columns that is never empty: an empty one stands for the implicit column. -/
def orUnclassified (columns : List Column) : List Column :=
  if columns.isEmpty then [.unclassified] else columns

/-! ## 2. Written columns -/

/-- A column that was written without a field. -/
structure EmptyField where
  /-- The name the column was given. -/
  name : String
deriving DecidableEq, Repr

/-- What is wrong, in words. -/
def EmptyField.message (e : EmptyField) : String :=
  "column " ++ Quoted.encode e.name ++ " has an empty field"

namespace Column

/-- A column that names no field is refused. -/
def validate (c : Column) : Except EmptyField Column :=
  if c.namesField then .ok c else .error ⟨c.name⟩

/-- The name a field is shown under when none is given: its first character in uppercase. -/
def titleOf : List Char → List Char
  | [] => []
  | c :: cs => upperChar c ++ cs

/-- The column written by a text: `field=Name` with white space around both parts ignored, or a
    field alone. -/
def ofChars (cs : List Char) : Column :=
  match splitAtFirst '=' cs with
  | some (field, name) => .ofField (String.ofList (trimChars field)) (String.ofList (trimChars name))
  | none =>
    let field := trimChars cs
    .ofField (String.ofList field) (String.ofList (titleOf field))

/-- Reads one written column. -/
def parse (text : String) : Except EmptyField Column := (ofChars text.toList).validate

/-- Reads columns with commas between; blank entries count for nothing. -/
def parseList (text : String) : Except EmptyField (List Column) :=
  (((splitAtChar ',' text.toList).map trimChars).filter (· ≠ [])).mapM fun entry =>
    (ofChars entry).validate

end Column

end MediaIndex
