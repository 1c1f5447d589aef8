import MediaIndex.Query.Written
import MediaIndex.Session

/-!
# Browsing

A browser shows the rows of a session that a typed query keeps, with one of them selected. Everything
it does is a step on its state:

* `Browser.refilter` finds the rows anew and keeps the selection among them;
* `typed`, `backspace`, `up`, `down`, `home`, `end`, `pageUp` and `pageDown` edit the query and move the
  selection;
* `open`, `remove`, `toggleSummary`, `hideColumn` and `reload` act on the index, and `tick` takes in
  what the worker has finished.
-/

namespace MediaIndex

/-! ## 1. State -/

/-- A browser. -/
structure Browser where
  session : Session
  /-- The library file. -/
  library : String
  query : String := ""
  /-- The rows that the query keeps. -/
  results : List NodeRef := []
  /-- The place of the selected row among the results. -/
  selected : Nat := 0
  /-- The place of the first row that is shown. -/
  scroll : Nat := 0
  /-- What the status line says in place of the size of the index. -/
  status : Option String := none
  /-- The browser is to be left. -/
  quitting : Bool := false

namespace Browser

/-- The index that is browsed. -/
def index (b : Browser) : Index := b.session.index

/-- The browser over another state of the index. -/
def withIndex (b : Browser) (index : Index) : Browser := { b with session := { b.session with index } }

/-! ## 2. Selection -/

/-- The number of rows that are shown at a time, as long as no screen says otherwise. -/
def assumedHeight : Nat := 20

/-- Scrolls as far as needed to show the selected row. -/
def ensureVisible (b : Browser) : Browser :=
  if b.selected < b.scroll then { b with scroll := b.selected }
  else if b.scroll + assumedHeight ≤ b.selected then
    { b with scroll := b.selected + 1 - assumedHeight }
  else b

/-- Selects a row. -/
def select (b : Browser) (i : Nat) : Browser := { b with selected := i }.ensureVisible

/-- The place of the last result. -/
def lastPlace (b : Browser) : Nat := b.results.length - 1

/-- Selects the row above. -/
def up (b : Browser) : Browser := if b.selected = 0 then b else b.select (b.selected - 1)

/-- Selects the row below. -/
def down (b : Browser) : Browser :=
  if b.selected + 1 < b.results.length then b.select (b.selected + 1) else b

/-- Selects the row that is `n` rows above, or the first one. -/
def pageUp (b : Browser) (n : Nat) : Browser := b.select (b.selected - n)

/-- Selects the row that is `n` rows below, or the last one. -/
def pageDown (b : Browser) (n : Nat) : Browser := b.select (min (b.selected + n) b.lastPlace)

/-- Selects the first row. -/
def home (b : Browser) : Browser := { b with selected := 0, scroll := 0 }

/-- Selects the last row, if there is one. -/
def toEnd (b : Browser) : Browser := if b.results.isEmpty then b else b.select b.lastPlace

/-! ## 3. The query -/

/-- The rows that a query keeps; the summary only if the query keeps everything. -/
def rowsFor (ix : Index) (q : NodeQuery) : List NodeRef :=
  (if q.keepsAll && ix.summary.isSome then [.summary] else []) ++
    (ix.filter q).map fun node => .group node.key

/-- Finds the rows that the query keeps. A query that cannot be read keeps none, and the status says
    why. -/
def refilter (b : Browser) : Browser :=
  match NodeQuery.parse b.query with
  | .error e => { b with status := some ("Invalid filter: " ++ e.message), results := [] }
  | .ok q =>
    let b := { b with results := rowsFor b.index q }
    b.select (min b.selected b.lastPlace)

/-- Another query, with the first row selected. -/
def withQuery (b : Browser) (query : String) : Browser :=
  { b with query, selected := 0, scroll := 0, status := none }.refilter

/-- A character is typed. -/
def typed (b : Browser) (c : Char) : Browser := b.withQuery (b.query.push c)

/-- The last character of the query is deleted. -/
def backspace (b : Browser) : Browser :=
  b.withQuery (String.ofList b.query.toList.dropLast)

/-! ## 4. The selected row -/

/-- The number of members that are named when a group is opened. -/
def previewLength : Nat := 5

/-- The members of a group by name, the first few of them. -/
def memberNames (b : Browser) (members : ItemSet) : List String :=
  (members.toList.take previewLength).map b.session.describe ++
    if previewLength < members.size then [s!"+{members.size - previewLength} more"] else []

/-- What is said of a row that is opened. -/
def openedStatus (b : Browser) : NodeRef → Option String
  | .summary => some s!"{b.index.itemCount} items in {b.index.size} groups"
  | .group key => (b.index.itemsOf? key).map fun members =>
    key.shown ++ ": " ++ ", ".intercalate (b.memberNames members)

/-- The status names the members of the selected row. -/
def openSelected (b : Browser) : Browser :=
  { b with status := b.results[b.selected]?.bind b.openedStatus }

/-- Removes the items of the selected group. -/
def removeSelected (b : Browser) : Except Fault Browser := do
  match b.results[b.selected]? with
  | some (.group key) =>
    let ids := ((b.index.itemsOf? key).getD ∅).toList
    let (removed, index) ← b.index.remove ids
    pure { b.withIndex index with status := some s!"Removed {removed} items" }.refilter
  | _ => pure b

/-! ## 5. The index -/

/-- Shows or hides the summary. -/
def toggleSummary (b : Browser) : Except Fault Browser := do
  pure (b.withIndex (← b.index.setSummaryShown (!b.index.showSummary))).refilter

/-- Hides the last column, unless it is the only one. -/
def hideLastColumn (b : Browser) : Except Fault Browser := do
  let columns := b.index.layout.columns.length
  if columns ≤ 1 then pure b
  else
    let (hidden, index) ← b.index.hideColumn (columns - 1)
    if hidden then pure { b.withIndex index with status := some "Column hidden" }.refilter else pure b

/-- What the status says while a reload is under way. -/
def reloadingStatus : String := "Reloading..."

/-- Reads the library again and asks for it to be grouped. -/
def reload (b : Browser) (content : FileContent) : Except Fault Browser := do
  match Session.readLibrary b.library content with
  | .error e => pure { b with status := some ("Reload failed: " ++ e.message) }
  | .ok items =>
    let (_, index) ← b.index.fullReload items
    let session := { b.session with index, items := Session.catalogue items }
    pure { b with session, status := some reloadingStatus }

/-- Takes in what the worker has finished, and finds the rows anew if that was anything. -/
def tick (b : Browser) (gate : Worker.Gate := .open) : Except Fault Browser := do
  let (applied, index) ← b.index.poll gate
  let b := b.withIndex index
  if applied = 0 then pure b
  else
    let done := index.isIdle && b.status == some reloadingStatus
    pure { b with status := if done then none else b.status }.refilter

/-- A browser over a session. -/
def ofSession (session : Session) (library : String) : Browser := { session, library : Browser }.refilter

end Browser

end MediaIndex
