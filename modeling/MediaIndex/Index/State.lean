import MediaIndex.Notifier
import MediaIndex.Store
import MediaIndex.Worker

/-!
# The state of the index

The index groups a collection of items and keeps the grouping as the collection changes. This file
fixes its state and what every operation on it is made of:

* the layout: the columns keys are computed with, and those of them that are shown;
* the store of groups, the summary of it, and the worker that computes batches and gives out tickets;
* `Index.dispatch` hands items to the worker, `Index.clear` empties the store, `Index.refreshSummary`
  brings the summary up to date.
-/

namespace MediaIndex

/-! ## 1. State -/

/-- Where the index is between request and answer. -/
inductive Phase where
  /-- Nothing is outstanding. -/
  | idle
  /-- At least one job is outstanding; the index is readable and unchanged. -/
  | awaitingBatch
  /-- A batch is being taken in. -/
  | applying
deriving DecidableEq, Repr, Inhabited

/-- The word for a phase. -/
def Phase.shown : Phase → String
  | idle => "Idle"
  | awaitingBatch => "AwaitingBatch"
  | applying => "Applying"

/-- The columns of the index. -/
structure Layout where
  /-- The columns that keys are computed with. -/
  keyColumns : List Column
  /-- The columns that are shown. -/
  columns : List Column
  /-- The place among the key columns of each column that is shown. -/
  visible : List Nat
deriving DecidableEq, Repr, Inhabited

namespace Layout

/-- The layout that shows every key column. -/
def ofColumns (columns : List Column) : Layout where
  keyColumns := columns
  columns := columns
  visible := List.range columns.length

/-- The layout with one column no longer shown. -/
def hide (l : Layout) (i : Nat) : Layout :=
  { l with columns := l.columns.eraseIdx i, visible := l.visible.eraseIdx i }

end Layout

/-- An incrementally maintained grouping of items. The index keeps no newest ticket of its own beside the
    worker's: a ticket is given out exactly when a request of the index becomes a job, and the worker
    takes requests from nowhere else, so the newest ticket of the index is `Worker.lastTicket`. -/
structure Index where
  worker : Worker
  notifier : Notifier := {}
  layout : Layout
  /-- The columns to be adopted when the pending reset clears the store. -/
  pendingColumns : Option (List Column) := none
  store : Store := {}
  summary : Option SummaryNode
  showSummary : Bool
  phase : Phase := .idle
  /-- The number of jobs handed to the worker and not yet taken in. -/
  outstanding : Nat := 0
  /-- A reset has been asked for and the store not yet been cleared for it. -/
  resetting : Bool := false
  /-- The ticket of the newest reset. -/
  latestReset : Option Ticket := none
  /-- Items removed while jobs were outstanding, each with the newest ticket of that moment. -/
  tombstones : Std.ExtTreeMap ItemId Ticket := ∅
  /-- The number of batches taken in. -/
  batchesApplied : Nat := 0
  /-- The number of resets that have been carried out. -/
  resets : Nat := 0

/-- What an index starts with. -/
structure IndexOptions where
  columns : List Column := []
  showSummary : Bool := true
  parallelThreshold : Nat := Grouper.defaultThreshold
  coalesce : Bool := true

/-- What the index refuses to do. -/
inductive Fault where
  /-- Its events would not be well formed. -/
  | bracket (fault : BracketFault)
  /-- An operation was asked for while a batch was being taken in. -/
  | busy (operation : String)
  /-- A batch was delivered while another one was being taken in. -/
  | reentered (ticket : Ticket)
deriving DecidableEq, Repr

/-- What went wrong, in words. -/
def Fault.message : Fault → String
  | bracket fault => fault.message
  | busy operation => operation ++ " called while a batch is being applied"
  | reentered ticket =>
    "batch " ++ toString ticket ++ " delivered while another batch is being applied"

/-- A step on the bracket of a notifier, as a step of the index. -/
def Fault.ofBracket (r : Except BracketFault α) : Except Fault α := r.mapError .bracket

namespace Index

/-! ## 2. Making an index -/

/-- An index with nothing in it. -/
def ofOptions (extractor : Extractor) (options : IndexOptions) : Index :=
  let columns := orUnclassified options.columns
  let grouper : Grouper := { extractor }
  { worker := { grouper := grouper.withThreshold options.parallelThreshold
                coalesce := options.coalesce }
    layout := .ofColumns columns
    summary := if options.showSummary then some (.ofNodes [] columns) else none
    showSummary := options.showSummary }

/-- One more observer of the index. -/
def subscribe (ix : Index) : Index := { ix with notifier := ix.notifier.subscribe }

/-! ## 3. What operations are made of -/

/-- Nothing may be asked for while a batch is being taken in. -/
def ensureNotApplying (ix : Index) (operation : String) : Except Fault Unit :=
  if ix.phase = .applying then .error (.busy operation) else .ok ()

/-- The number of rows above the first group. -/
def rowOffset (ix : Index) : Nat := if ix.summary.isSome then 1 else 0

/-- The summary of the store as it is. -/
def currentSummary (ix : Index) : SummaryNode :=
  .ofNodes ix.store.nodesInOrder ix.layout.columns

/-- Brings the summary up to date and tells of it if it has changed. -/
def refreshSummary (ix : Index) : Index :=
  if ix.showSummary then
    if ix.summary = some ix.currentSummary then ix
    else { ix with
      summary := some ix.currentSummary
      notifier := ix.notifier.changed .summary [.display] }
  else ix

/-- Empties the store and adopts the pending columns, if there are any. -/
def clear (ix : Index) : Index :=
  let layout := match ix.pendingColumns with
    | some columns => Layout.ofColumns columns
    | none => ix.layout
  { ix with
    layout
    pendingColumns := none
    store := {}
    resetting := false
    summary := if ix.showSummary then some (.ofNodes [] layout.columns) else ix.summary }

/-- The columns that new jobs are computed with. -/
def dispatchColumns (ix : Index) : List Column := ix.pendingColumns.getD ix.layout.keyColumns

/-- Hands items to the worker; what is known of their removal no longer counts. -/
def dispatch (ix : Index) (kind : JobKind) (items : List Item) : Ticket × Index :=
  let (submission, worker) := ix.worker.submit kind ix.dispatchColumns items
  (submission.ticket,
    { ix with
      worker
      tombstones := items.foldl (fun t item => t.erase item.id) ix.tombstones
      outstanding := match submission with
        | .queued _ => ix.outstanding + 1
        | .coalesced _ => ix.outstanding
      phase := if ix.phase = .idle then .awaitingBatch else ix.phase })

/-- The item was removed after the job with this ticket was submitted. -/
def isTombstoned (ix : Index) (id : ItemId) (ticket : Ticket) : Bool :=
  match ix.tombstones[id]? with
  | some removedAt => decide (ticket ≤ removedAt)
  | none => false

/-- Takes items out of the store and tells of the rows and nodes that have changed. -/
def detach (ix : Index) (ids : List ItemId) : Except Fault (Nat × Index) := do
  let d := ix.store.detach ids
  let notifier ← Fault.ofBracket <|
    ix.notifier.announceAll (d.positions.map fun i => .remove (.single (ix.rowOffset + i)))
  pure (d.removed, { ix with store := d.store, notifier := notifier.membersChanged d.shrunk })

/-- Takes a batch into the store and tells of the rows and nodes that have changed. -/
def merge (ix : Index) (batch : Batch) : Except Fault Index := do
  let m := ix.store.merge ix.layout.visible batch
  let first := ix.rowOffset + ix.store.rows.length
  let notifier ← Fault.ofBracket <|
    if m.created = 0 then .ok ix.notifier
    else ix.notifier.announce (.insert ⟨first, first + m.created - 1⟩)
  pure { ix with store := m.store, notifier := notifier.membersChanged m.grown }

end Index

end MediaIndex
