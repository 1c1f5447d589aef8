import MediaIndex.Json.Document
import MediaIndex.Replay
import MediaIndex.RowText

/-!
# Reports

What the commands print, as lines of text and as JSON: the rows of an index, the groups that a query
keeps, and the events of a replay.
-/

namespace MediaIndex.CommandLine

open Json (Document)

/-! ## 1. Text -/

/-- All rows under a heading. -/
def rowLines (ix : Index) : List String :=
  ix.headingLine :: String.ofList (List.replicate 57 '-') :: ix.rowNodes.map ix.rowLine

/-- A group that a query keeps. -/
def matchLine (ix : Index) (node : GroupNode) : String :=
  s!"{ix.shownValues node.column} ({node.memberCount} items)"

/-- An event with the number of its operation. -/
def eventLine (entry : Nat × Event) : String :=
  s!"[{padLeft 3 (toString entry.1)}] {entry.2.shown}"

/-! ## 2. JSON -/

/-- Several texts. -/
def textsDocument (texts : List String) : Document := .list (texts.map .text)

/-- Several items. -/
def membersDocument (members : ItemSet) : Document :=
  .list (members.toList.map fun id => .number id.toNat)

/-- A group and its row. -/
def groupDocument (node : GroupNode) (row : Nat) : Document :=
  .record [("display", textsDocument node.display), ("key", .text node.key.shown),
    ("members", membersDocument node.members), ("row", .number row)]

/-- A row and its number. -/
def rowDocument (row : RowNode) (i : Nat) : Document :=
  match row with
  | .summary s =>
    .record [("display", textsDocument s.labels), ("row", .number i), ("summary", .flag true),
      ("unique", .list (s.unique.map .number))]
  | .group node => groupDocument node i

/-- All rows. -/
def rowsDocument (ix : Index) : Document :=
  .list (ix.rowNodes.mapIdx fun i row => rowDocument row i)

/-- Groups that a query keeps. -/
def matchesDocument (ix : Index) (nodes : List GroupNode) : Document :=
  .list (nodes.map fun node => groupDocument node ((ix.rowOf (.group node.key)).getD 0))

/-- The events of a replay. -/
def eventsDocument (log : EventLog) : Document :=
  .list (log.map fun (step, event) => .record [("event", .text event.shown), ("step", .number step)])

/-! ## 3. Closing remarks -/

/-- The size of an index that has been grouped. -/
def groupedRemark (ix : Index) : String :=
  s!"{ix.size} groups over {ix.itemCount} items ({ix.batchesApplied} batches applied)"

/-- How many groups a query keeps. -/
def foundRemark (found all : Nat) : String := s!"Found {found} of {all} groups"

/-- What a replay has come to. -/
def replayedRemark (r : Replay) : String :=
  s!"{r.log.length} events, {r.index.size} groups over {r.index.itemCount} items"

/-- There is nothing to search. -/
def emptyRemark : String := "Library is empty."

end MediaIndex.CommandLine
