import MediaIndex.Extraction

/-!
# Batches

A batch is the outcome of grouping some items over some columns: the groups by key, and the items
that were asked for. An item belongs to one group for every way to choose one of its values in each
column. Computing a batch touches nothing else, so it may run beside the index.
-/

namespace MediaIndex

/-! ## 1. Groups and batches -/

/-- One group of a batch. -/
structure Group where
  /-- The value in each column. -/
  display : List String
  /-- The items of the group. -/
  members : ItemSet
deriving DecidableEq, Inhabited

/-- The outcome of grouping items. -/
structure Batch where
  /-- The groups by key. -/
  groups : Std.ExtTreeMap GroupKey Group := ∅
  /-- Every item that was asked for. -/
  requested : ItemSet := ∅
deriving DecidableEq, Inhabited

namespace Batch

/-- The batch has no group. -/
def isEmpty (b : Batch) : Bool := b.groups.isEmpty

/-- The number of groups. -/
def groupCount (b : Batch) : Nat := b.groups.size

/-- The keys of the groups an item is in, in ascending order. -/
def keysFor (b : Batch) (id : ItemId) : List GroupKey :=
  (b.groups.toList.filter fun (_, g) => g.members.contains id).map (·.1)

/-- Puts an item into the group with the values `display`. -/
def put (b : Batch) (id : ItemId) (display : List String) : Batch :=
  let key := GroupKey.compose display
  let group := match b.groups[key]? with
    | some g => { g with members := g.members.insert id }
    | none => { display, members := {id} }
  { b with groups := b.groups.insert key group }

/-- Puts an item into the groups of all the given value vectors. -/
def putAll (b : Batch) (id : ItemId) (vectors : List (List String)) : Batch :=
  vectors.foldl (·.put id ·) { b with requested := b.requested.insert id }

/-- The batch without some items; groups left empty go too. -/
def without (b : Batch) (dropped : ItemId → Bool) : Batch where
  requested := b.requested.filter (!dropped ·)
  groups := b.groups.filterMap fun _ g =>
    let members := g.members.filter (!dropped ·)
    if members.isEmpty then none else some { g with members }

end Batch

/-! ## 2. Computing a batch -/

/-- All ways to choose one value from each list, the first list varying slowest. -/
def choices : List (List String) → List (List String)
  | [] => [[]]
  | values :: rest => values.flatMap fun v => (choices rest).map (v :: ·)

/-- What groups items: an extractor, and the number of items from which extraction may be spread
    over several processors. The number has no bearing on what is computed. -/
structure Grouper where
  extractor : Extractor
  parallelThreshold : Nat := 2000

namespace Grouper

/-- The number of items from which extraction is spread unless configured otherwise. -/
def defaultThreshold : Nat := 2000

/-- The grouper with another threshold; it is at least one. -/
def withThreshold (g : Grouper) (n : Nat) : Grouper := { g with parallelThreshold := max n 1 }

/-- The values of an item in a column. -/
def values (g : Grouper) (item : Item) (column : Column) : List String :=
  if column.isUnclassified then [Column.unclassifiedText] else valuesOf (g.extractor item column)

/-- The value vectors of an item. -/
def vectors (g : Grouper) (columns : List Column) (item : Item) : List (List String) :=
  choices (columns.map (g.values item))

/-- Groups items over columns; with no column they are all in one group. -/
def compute (g : Grouper) (items : List Item) (columns : List Column) : Batch :=
  items.foldl (fun b item => b.putAll item.id (g.vectors (orUnclassified columns) item)) {}

/-- A grouper written out in full. -/
def describe (g : Grouper) : String :=
  Quoted.record "GroupComputer" [("parallel_threshold", toString g.parallelThreshold)]

end Grouper

end MediaIndex
