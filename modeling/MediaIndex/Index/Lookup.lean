import MediaIndex.Error
import MediaIndex.Index.State

/-!
# Reading the index

What can be asked of an index at any time: rows and their nodes, the groups of an item, counts, and
whether its parts agree with one another.
-/

namespace MediaIndex

/-- What a row shows. -/
inductive RowNode where
  | summary (node : SummaryNode)
  | group (node : GroupNode)
deriving DecidableEq

/-- What a row shows in a column. -/
def RowNode.column : RowNode → Nat → String
  | summary node, i => node.column i
  | group node, i => node.column i

/-- The node of a row, by name. -/
def RowNode.ref : RowNode → NodeRef
  | summary _ => .summary
  | group node => .group node.key

namespace Index

/-! ## 1. Rows -/

/-- The number of rows, the summary included. -/
def rowCount (ix : Index) : Nat := ix.rowOffset + ix.store.rows.length

/-- What a row shows. -/
def nodeAtRow (ix : Index) (row : Nat) : Option RowNode :=
  if row < ix.rowOffset then ix.summary.map .summary
  else do
    let key ← ix.store.rows[row - ix.rowOffset]?
    let node ← ix.store.nodes[key]?
    pure (.group node)

/-- The row of a node. -/
def rowOf (ix : Index) : NodeRef → Option Nat
  | .summary => ix.summary.map fun _ => 0
  | .group key => (ix.store.rows.findIdx? (· == key)).map (· + ix.rowOffset)

/-- All rows in order. -/
def rowNodes (ix : Index) : List RowNode :=
  ix.summary.toList.map .summary ++ ix.store.nodesInOrder.map .group

/-! ## 2. Groups and items -/

/-- The group nodes in row order. -/
def nodes (ix : Index) : List GroupNode := ix.store.nodesInOrder

/-- The node of a key. -/
def node? (ix : Index) (key : GroupKey) : Option GroupNode := ix.store.nodes[key]?

/-- The nodes of some keys, in row order; a key that has no node counts for nothing. -/
def nodesForKeys (ix : Index) (keys : List GroupKey) : List GroupNode :=
  ix.nodes.filter fun node => keys.contains node.key

/-- The items of a node. -/
def itemsOf? (ix : Index) (key : GroupKey) : Option ItemSet := (ix.node? key).map (·.members)

/-- The keys of the nodes an item is in. -/
def keysOf? (ix : Index) (id : ItemId) : Option KeySet := ix.store.keysOf[id]?

/-- The number of group nodes. -/
def size (ix : Index) : Nat := ix.store.nodes.size

/-- There is no group node. -/
def isEmpty (ix : Index) : Bool := ix.store.nodes.isEmpty

/-- The number of indexed items. -/
def itemCount (ix : Index) : Nat := ix.store.itemCount

/-- Nothing is outstanding. -/
def isIdle (ix : Index) : Bool := ix.phase == .idle

/-- The worker is computing. -/
def isComputing (ix : Index) : Bool := ix.worker.isBusy

/-! ## 3. Agreement of the parts -/

/-- The first thing that is wrong with the keys recorded for an item. -/
def itemProblem? (ix : Index) (id : ItemId) (keys : KeySet) : Option IndexError :=
  if keys.isEmpty then some (.inconsistent s!"item {id} has an empty key set")
  else keys.toList.findSome? fun key =>
    if (ix.itemsOf? key).any (·.contains id) then none else some (.danglingEntry id key)

/-- The first thing that is wrong with a node. -/
def nodeProblem? (ix : Index) (key : GroupKey) (node : GroupNode) : Option IndexError :=
  if node.members.isEmpty then some (.emptyNode key)
  else node.members.toList.findSome? fun id =>
    if (ix.keysOf? id).any (·.contains key) then none else some (.missingEntry id key)

/-- The first thing in which the parts of the index disagree. -/
def problem? (ix : Index) : Option IndexError :=
  (ix.store.keysOf.toList.findSome? fun (id, keys) => ix.itemProblem? id keys) <|>
  (ix.store.nodes.toList.findSome? fun (key, node) => ix.nodeProblem? key node) <|>
  (if ix.store.rows.length == ix.store.nodes.size && ix.store.rows.all ix.store.nodes.contains then
    none else some (.inconsistent "row order out of sync with node map")) <|>
  (if ix.showSummary == ix.summary.isSome then none
    else some (.inconsistent "summary row does not match summary setting"))

/-- An index written out in brief. -/
def describe (ix : Index) : String :=
  Quoted.record "IndexEngine" [
    ("phase", ix.phase.shown),
    ("columns", Quoted.list (ix.layout.columns.map Column.describe)),
    ("nodes", toString ix.size),
    ("items", toString ix.itemCount),
    ("outstanding", toString ix.outstanding),
    ("resetting", toString ix.resetting)]

end Index

end MediaIndex
