import MediaIndex.Node

/-!
# The store

The groups that are indexed: the nodes by key, the keys in row order, and for every item the keys of
the nodes it is in. Two operations change it:

* `Store.detach` takes items out of their nodes and drops the nodes left empty;
* `Store.merge` takes in the groups of a batch, new nodes as rows at the end.

Both say what has happened to the rows, which is all the index needs to tell its observers.
-/

namespace MediaIndex

/-- The indexed groups. -/
structure Store where
  nodes : Std.ExtTreeMap GroupKey GroupNode := ∅
  /-- The keys in row order. -/
  rows : List GroupKey := []
  /-- The keys of the nodes that each item is in. -/
  keysOf : Std.ExtTreeMap ItemId KeySet := ∅
deriving DecidableEq, Inhabited

namespace Store

/-! ## 1. Reading -/

/-- The nodes in row order. -/
def nodesInOrder (s : Store) : List GroupNode := s.rows.filterMap (s.nodes[·]?)

/-- The item is in some node. -/
def indexes (s : Store) (id : ItemId) : Bool := s.keysOf.contains id

/-- The number of items that are in some node. -/
def itemCount (s : Store) : Nat := s.keysOf.size

/-! ## 2. Detaching items -/

/-- The nodes of some keys without an item. -/
def dropMember (nodes : Std.ExtTreeMap GroupKey GroupNode) (id : ItemId) (keys : List GroupKey) :
    Std.ExtTreeMap GroupKey GroupNode :=
  keys.foldl (fun nodes key =>
    nodes.modify key fun node => { node with members := node.members.erase id }) nodes

/-- What taking items out of their nodes has come to so far: the store with nodes perhaps empty, the
    keys of the nodes that items were taken from, and how many of the items were indexed. -/
structure Unlinked where
  store : Store
  touched : KeySet := ∅
  removed : Nat := 0

/-- Takes one item out of its nodes. -/
def Unlinked.unlink (u : Unlinked) (id : ItemId) : Unlinked :=
  match u.store.keysOf[id]? with
  | none => u
  | some keys =>
    { store := { u.store with
        nodes := dropMember u.store.nodes id keys.toList
        keysOf := u.store.keysOf.erase id }
      touched := u.touched.insertMany keys.toList
      removed := u.removed + 1 }

/-- The node of a key has no member. -/
def isEmptyNode (s : Store) (key : GroupKey) : Bool :=
  match s.nodes[key]? with
  | some node => node.members.isEmpty
  | none => false

/-- The store without the nodes of some keys. -/
def dropNodes (s : Store) (gone : GroupKey → Bool) : Store :=
  { s with nodes := s.nodes.filter fun key _ => !gone key, rows := s.rows.filter (!gone ·) }

/-- The positions of the keys that are `gone`, counted from `i`, the highest first. -/
def positionsFrom (gone : GroupKey → Bool) (i : Nat) : List GroupKey → List Nat
  | [] => []
  | key :: rest => positionsFrom gone (i + 1) rest ++ (if gone key then [i] else [])

/-- What taking items out has come to. -/
structure Detached where
  store : Store
  /-- How many of the items were indexed. -/
  removed : Nat
  /-- The positions of the dropped rows, the highest first. -/
  positions : List Nat
  /-- The keys of the nodes that have lost members and are still there, in ascending order. -/
  shrunk : List GroupKey

/-- Takes items out of their nodes and drops the nodes left empty. -/
def detach (s : Store) (ids : List ItemId) : Detached :=
  let u := ids.foldl Unlinked.unlink { store := s }
  let gone := fun key => u.touched.contains key && u.store.isEmptyNode key
  let store := u.store.dropNodes gone
  { store, removed := u.removed
    positions := positionsFrom gone 0 s.rows
    shrunk := u.touched.toList.filter store.nodes.contains }

/-! ## 3. Merging a batch -/

/-- The items' keys with one more key for some items. -/
def linkAll (keysOf : Std.ExtTreeMap ItemId KeySet) (key : GroupKey) (ids : List ItemId) :
    Std.ExtTreeMap ItemId KeySet :=
  ids.foldl (fun keysOf id => keysOf.insert id ((keysOf[id]?.getD ∅).insert key)) keysOf

/-- The store with the members of a group put into the node that has its key. -/
def grow (s : Store) (node : GroupNode) (members : ItemSet) : Store :=
  { s with
    nodes := s.nodes.insert node.key { node with members := node.members.insertMany members.toList }
    keysOf := linkAll s.keysOf node.key members.toList }

/-- The store with a new node as its last row. -/
def append (s : Store) (node : GroupNode) : Store where
  nodes := s.nodes.insert node.key node
  rows := s.rows ++ [node.key]
  keysOf := linkAll s.keysOf node.key node.members.toList

/-- The values of a group in the visible columns. -/
def project (visible : List Nat) (display : List String) : List String :=
  visible.map fun i => display[i]?.getD ""

/-- What taking in a batch has come to. -/
structure Merged where
  store : Store
  /-- How many nodes are new; their rows are the last ones. -/
  created : Nat := 0
  /-- The keys of the nodes that were there and have gained members, in ascending order. -/
  grown : List GroupKey := []

/-- Takes one group into the node that has its key, if there is one. -/
def Merged.grow (m : Merged) (key : GroupKey) (group : Group) : Merged :=
  match m.store.nodes[key]? with
  | none => m
  | some node =>
    { m with
      store := m.store.grow node group.members
      grown := if group.members.toList.all node.members.contains then m.grown else m.grown ++ [key] }

/-- Takes in one group as a new node. -/
def Merged.append (m : Merged) (node : GroupNode) : Merged :=
  { m with store := m.store.append node, created := m.created + 1 }

/-- Takes in the groups of a batch, of which the visible columns are shown. -/
def merge (s : Store) (visible : List Nat) (batch : Batch) : Merged :=
  let groups := batch.groups.toList
  let fresh := groups.filter fun (key, _) => !s.nodes.contains key
  let grown := groups.foldl (fun m (key, group) => m.grow key group) { store := s }
  fresh.foldl (fun m (key, group) => m.append ⟨key, project visible group.display, group.members⟩) grown

end Store

end MediaIndex
