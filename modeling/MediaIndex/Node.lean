import MediaIndex.Batch

/-!
# Nodes

What a row of the index shows: a group node, or the summary of all group nodes. A summary says for
every column how many different values the nodes have there.
-/

namespace MediaIndex

/-! ## 1. Group nodes -/

/-- All items with one group key. -/
structure GroupNode where
  key : GroupKey
  /-- The value in each visible column. -/
  display : List String
  members : ItemSet := ∅
deriving DecidableEq, Inhabited

namespace GroupNode

/-- Stands in for a value that is empty or missing. -/
def placeholder : String := "?"

/-- What is shown in a column. -/
def column (node : GroupNode) (i : Nat) : String :=
  match node.display[i]? with
  | some value => if value.isEmpty then placeholder else value
  | none => placeholder

/-- The number of items in the node. -/
def memberCount (node : GroupNode) : Nat := node.members.size

/-- The node with one column no longer shown. -/
def hideColumn (node : GroupNode) (i : Nat) : GroupNode :=
  { node with display := node.display.eraseIdx i }

end GroupNode

/-! ## 2. The summary -/

/-- How many different values there are, column by column. -/
structure SummaryNode where
  /-- The text shown in each column. -/
  labels : List String := []
  /-- The number of different values in each column. -/
  unique : List Nat := []
deriving DecidableEq, Repr, Inhabited

namespace SummaryNode

/-- What is shown in a column. -/
def column (summary : SummaryNode) (i : Nat) : String := summary.labels[i]?.getD ""

/-- The number of different values that nodes have in a column. -/
def countUnique (nodes : List GroupNode) (i : Nat) : Nat :=
  (Std.ExtTreeSet.ofList (nodes.filterMap (·.display[i]?))).size

/-- What the summary says of a column with `count` different values. -/
def label (column : Column) (count : Nat) : String :=
  s!"All ({count} {lowercase column.name}s)"

/-- The summary of nodes over columns. -/
def ofNodes (nodes : List GroupNode) (columns : List Column) : SummaryNode :=
  let unique := (List.range columns.length).map (countUnique nodes)
  { labels := columns.zipWith label unique, unique }

end SummaryNode

end MediaIndex
