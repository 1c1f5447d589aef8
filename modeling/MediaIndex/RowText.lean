import MediaIndex.Index.Lookup

/-!
# Rows as text

A row of the index as a line of a table: what it shows in the columns, side by side, and the number of
its items.
-/

namespace MediaIndex

/-- A text with blanks after it up to a width. -/
def padRight (width : Nat) (s : String) : String :=
  s ++ String.ofList (List.replicate (width - s.length) ' ')

/-- A text with blanks before it up to a width. -/
def padLeft (width : Nat) (s : String) : String :=
  String.ofList (List.replicate (width - s.length) ' ') ++ s

/-- Two cells of a table. -/
def tableLine (left right : String) : String := padRight 48 left ++ " " ++ padLeft 8 right

/-- Values side by side. -/
def sideBySide (values : List String) : String := " | ".intercalate values

namespace Index

/-- What a row shows in the columns of the index. -/
def shownValues (ix : Index) (column : Nat → String) : String :=
  sideBySide ((List.range ix.layout.columns.length).map column)

/-- A row with the number of its items. -/
def rowLine (ix : Index) (row : RowNode) : String :=
  let count := match row with
    | .summary _ => ix.itemCount
    | .group node => node.memberCount
  tableLine (ix.shownValues row.column) (toString count)

/-- The heading of a table of rows. -/
def headingLine (ix : Index) : String :=
  tableLine (sideBySide (ix.layout.columns.map Column.name)) "Items"

end Index

end MediaIndex
