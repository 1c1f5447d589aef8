import MediaIndex.Index.State

/-!
# Changing the collection

What the owner of a collection asks of the index. Requests that need extraction go to the worker and
answer with a ticket; the others are carried out at once.

* `reset` replaces columns and collection, `add` and `update` bring items, `remove` takes them out;
* `hideColumn`, `setSummaryShown` and `decorationReady` are about what is shown.
-/

namespace MediaIndex.Index

/-! ## 1. Requests for the worker -/

/-- Replaces the columns and the whole collection. When there is nothing to rebuild the columns are
    adopted at once and there is no ticket. -/
def reset (ix : Index) (columns : List Column) (items : List Item) :
    Except Fault (Option Ticket × Index) := do
  ix.ensureNotApplying "reset"
  let columns := orUnclassified columns
  if items.isEmpty && ix.store.nodes.isEmpty && ix.outstanding == 0 then
    let notifier ← Fault.ofBracket (ix.notifier.openBracket .reset)
    let ix := { ix with notifier, pendingColumns := some columns }.clear
    let notifier ← Fault.ofBracket (ix.notifier.closeBracket .reset)
    pure (none, { ix with notifier, resets := ix.resets + 1 })
  else
    let (_, worker) := ix.worker.supersede
    let (ticket, ix) :=
      { ix with worker, resetting := true, pendingColumns := some columns }.dispatch .reset items
    pure (some ticket, { ix with latestReset := some ticket })

/-- Brings items that are not yet indexed; those that are indexed are left as they are. While a reset
    is pending every item counts as not indexed. -/
def add (ix : Index) (items : List Item) : Except Fault (Option Ticket × Index) := do
  ix.ensureNotApplying "add_items"
  let items := if ix.resetting then items else items.filter fun item => !ix.store.indexes item.id
  if items.isEmpty then pure (none, ix)
  else
    let (ticket, ix) := ix.dispatch .add items
    pure (some ticket, ix)

/-- Hands items to the worker unless there are none. -/
def dispatchSome (ix : Index) (kind : JobKind) (items : List Item) : Option Ticket × Index :=
  if items.isEmpty then (none, ix)
  else
    let (ticket, ix) := ix.dispatch kind items
    (some ticket, ix)

/-- Brings changed items, and those that are not yet indexed as new ones. The ticket is that of the
    last job that carries some of them. -/
def update (ix : Index) (items : List Item) : Except Fault (Option Ticket × Index) := do
  ix.ensureNotApplying "update_items"
  if ix.resetting then pure (ix.dispatchSome .add items)
  else
    let (known, unknown) := items.partition fun item => ix.store.indexes item.id
    let (first, ix) := ix.dispatchSome .update known
    let (second, ix) := ix.dispatchSome .add unknown
    pure (second <|> first, ix)

/-- Replaces the collection and keeps the columns: the pending ones, or those that are shown. -/
def fullReload (ix : Index) (items : List Item) : Except Fault (Option Ticket × Index) :=
  ix.reset (ix.pendingColumns.getD ix.layout.columns) items

/-! ## 2. What is carried out at once -/

/-- Takes items out and tells how many of them were indexed. Jobs that are outstanding will not bring
    them back. -/
def remove (ix : Index) (ids : List ItemId) : Except Fault (Nat × Index) := do
  ix.ensureNotApplying "remove_items"
  let tombstones :=
    if ix.outstanding = 0 then ix.tombstones
    else ids.foldl (fun t id => t.insert id ix.worker.lastTicket) ix.tombstones
  let (removed, ix) ← { ix with tombstones }.detach ids
  pure (removed, if removed = 0 then ix else ix.refreshSummary)

/-- The pending columns without a column that is hidden; there is always one left. -/
def hidePending (pending : Option (List Column)) (hidden : Column) : Option (List Column) :=
  pending.map fun columns => orUnclassified (columns.erase hidden)

/-- Stops showing a column. The groups stay as they are. False when there is no such column. -/
def hideColumn (ix : Index) (i : Nat) : Except Fault (Bool × Index) := do
  ix.ensureNotApplying "remove_column"
  match ix.layout.columns[i]? with
  | none => pure (false, ix)
  | some hidden =>
    let notifier ← Fault.ofBracket (ix.notifier.openBracket (.removeColumns (.single i)))
    let notifier ← Fault.ofBracket (notifier.closeBracket (.removeColumns (.single i)))
    let ix := { ix with
      notifier
      layout := ix.layout.hide i
      store := { ix.store with nodes := ix.store.nodes.map fun _ (node : GroupNode) => node.hideColumn i }
      pendingColumns := hidePending ix.pendingColumns hidden }
    pure (true, ix.refreshSummary)

/-- Shows or hides the summary, which is row 0. -/
def setSummaryShown (ix : Index) (shown : Bool) : Except Fault Index := do
  ix.ensureNotApplying "set_summary_enabled"
  if ix.showSummary = shown then pure ix
  else
    let change := if shown then Bracket.insert (.single 0) else Bracket.remove (.single 0)
    let notifier ← Fault.ofBracket (ix.notifier.announce change)
    pure { ix with
      notifier
      showSummary := shown
      summary := if shown then some ix.currentSummary else none }

/-- Tells that decoration for an item is at hand: every node that has the item is named. The number
    of nodes is the answer. -/
def decorationReady (ix : Index) (id : ItemId) : Nat × Index :=
  let keys := (ix.store.keysOf[id]?.getD ∅).toList
  (keys.length, { ix with
    notifier := keys.foldl (fun n key => n.changed (.group key) [.decoration]) ix.notifier })

end MediaIndex.Index
