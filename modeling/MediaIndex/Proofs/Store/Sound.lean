import MediaIndex.Store

/-!
# A store whose parts agree

The store keeps the members of every node, the keys of every item and the rows. This file says what it
means that the three agree, and that the members of the nodes then determine the rest.

* `Links`, `Names` -- an item and a key belong together, read off the nodes and off the items;
* `Linked` -- both readings are the same; it holds also while nodes stand empty;
* `Sound` -- moreover no node and no item stands empty, and the rows list every node once;
* `Sound.getElem?_keysOf_eq_some_iff` -- the keys of an item, read off the nodes;
* `Sound.hideColumn` -- hiding a column changes none of this.
-/

namespace MediaIndex.Store

/-! ## 1. Agreement -/

/-- The node of the key has the item. -/
def Links (s : Store) (key : GroupKey) (id : ItemId) : Prop :=
  ∃ node, s.nodes[key]? = some node ∧ id ∈ node.members

/-- The key is recorded for the item. -/
def Names (s : Store) (id : ItemId) (key : GroupKey) : Prop :=
  ∃ keys, s.keysOf[id]? = some keys ∧ key ∈ keys

/-- Nodes and items name each other. -/
structure Linked (s : Store) : Prop where
  keyed : ∀ {key : GroupKey} {node : GroupNode}, s.nodes[key]? = some node → node.key = key
  links_iff : ∀ {key : GroupKey} {id : ItemId}, s.Links key id ↔ s.Names id key

/-- Nodes, items and rows agree, and nothing stands empty. -/
structure Sound (s : Store) : Prop extends Linked s where
  inhabited : ∀ {key : GroupKey} {node : GroupNode}, s.nodes[key]? = some node → node.members ≠ ∅
  indexed : ∀ {id : ItemId} {keys : KeySet}, s.keysOf[id]? = some keys → keys ≠ ∅
  nodup : s.rows.Nodup
  mem_rows : ∀ {key : GroupKey}, key ∈ s.rows ↔ key ∈ s.nodes

theorem links_iff_mem {s : Store} {key : GroupKey} {node : GroupNode} {id : ItemId}
    (h : s.nodes[key]? = some node) : s.Links key id ↔ id ∈ node.members := by
  refine ⟨?_, fun hm => ⟨node, h, hm⟩⟩
  intro hx
  obtain ⟨node', h', hm⟩ := hx
  rw [h] at h'
  cases h'
  exact hm

theorem names_iff_mem {s : Store} {id : ItemId} {keys : KeySet} {key : GroupKey}
    (h : s.keysOf[id]? = some keys) : s.Names id key ↔ key ∈ keys := by
  refine ⟨?_, fun hm => ⟨keys, h, hm⟩⟩
  intro hx
  obtain ⟨keys', h', hm⟩ := hx
  rw [h] at h'
  cases h'
  exact hm

theorem not_links_empty (key : GroupKey) (id : ItemId) : ¬ Links {} key id := by
  intro hx
  obtain ⟨node, h, -⟩ := hx
  rw [Std.ExtTreeMap.getElem?_empty] at h
  cases h

theorem not_names_empty (id : ItemId) (key : GroupKey) : ¬ Names {} id key := by
  intro hx
  obtain ⟨keys, h, -⟩ := hx
  rw [Std.ExtTreeMap.getElem?_empty] at h
  cases h

theorem sound_empty : Sound {} where
  keyed h := by rw [Std.ExtTreeMap.getElem?_empty] at h; cases h
  links_iff := iff_of_false (not_links_empty _ _) (not_names_empty _ _)
  inhabited h := by rw [Std.ExtTreeMap.getElem?_empty] at h; cases h
  indexed h := by rw [Std.ExtTreeMap.getElem?_empty] at h; cases h
  nodup := List.nodup_nil
  mem_rows := iff_of_false List.not_mem_nil Std.ExtTreeMap.not_mem_empty

/-! ## 2. Sets that are not empty -/

theorem exists_mem_of_ne_empty {α : Type} {cmp : α → α → Ordering} [Std.TransCmp cmp]
    [Std.LawfulEqCmp cmp] {t : Std.ExtTreeSet α cmp} (h : t ≠ ∅) : ∃ a, a ∈ t := by
  refine Classical.byContradiction fun hn => h (Std.ExtTreeSet.ext_mem fun a => ?_)
  exact iff_of_false (fun ha => hn ⟨a, ha⟩) Std.ExtTreeSet.not_mem_empty

theorem ne_empty_of_mem {α : Type} {cmp : α → α → Ordering} [Std.TransCmp cmp]
    {t : Std.ExtTreeSet α cmp} {a : α} (h : a ∈ t) : t ≠ ∅ := by
  intro hx
  subst hx
  exact Std.ExtTreeSet.not_mem_empty h

theorem mem_filter_iff {α : Type} {cmp : α → α → Ordering} [Std.TransCmp cmp] [Std.LawfulEqCmp cmp]
    {t : Std.ExtTreeSet α cmp} {f : α → Bool} {a : α} : a ∈ t.filter f ↔ a ∈ t ∧ f a = true := by
  rw [Std.ExtTreeSet.mem_filter]
  refine ⟨fun ⟨h, hf⟩ => ⟨h, ?_⟩, fun ⟨h, hf⟩ => ⟨h, ?_⟩⟩
  · rwa [Std.ExtTreeSet.get_eq] at hf
  · rwa [Std.ExtTreeSet.get_eq]

/-! ## 3. The keys of an item, read off the nodes -/

section Reading

variable {s : Store} {id : ItemId}

theorem Sound.exists_links (h : s.Sound) {key : GroupKey} (hk : key ∈ s.nodes) :
    ∃ id, s.Links key id := by
  obtain ⟨node, hn⟩ := Option.isSome_iff_exists.mp (Std.ExtTreeMap.mem_iff_isSome_getElem?.mp hk)
  obtain ⟨id, hid⟩ := exists_mem_of_ne_empty (h.inhabited hn)
  exact ⟨id, node, hn, hid⟩

theorem Links.mem_nodes {key : GroupKey} (h : s.Links key id) : key ∈ s.nodes := by
  obtain ⟨node, hn, -⟩ := h
  exact Std.ExtTreeMap.mem_iff_isSome_getElem?.mpr (by rw [hn]; rfl)

theorem Sound.mem_nodes_iff (h : s.Sound) {key : GroupKey} : key ∈ s.nodes ↔ ∃ id, s.Links key id :=
  ⟨h.exists_links, fun ⟨_, hl⟩ => hl.mem_nodes⟩

/-- **The keys recorded for an item are those of the nodes that have it.** -/
theorem Sound.getElem?_keysOf_eq_some_iff (h : s.Sound) {keys : KeySet} :
    s.keysOf[id]? = some keys ↔ keys ≠ ∅ ∧ ∀ key, key ∈ keys ↔ s.Links key id := by
  constructor
  · intro hk
    refine ⟨h.indexed hk, fun key => ?_⟩
    rw [h.links_iff, names_iff_mem hk]
  · intro hx
    obtain ⟨hne, hkeys⟩ := hx
    obtain ⟨key, hkey⟩ := exists_mem_of_ne_empty hne
    obtain ⟨keys', hk', -⟩ := h.links_iff.mp ((hkeys key).mp hkey)
    rw [hk']
    refine congrArg some (Std.ExtTreeSet.ext_mem fun key => ?_)
    rw [hkeys, h.links_iff, names_iff_mem hk']

theorem Sound.getElem?_keysOf_eq_none_iff (h : s.Sound) :
    s.keysOf[id]? = none ↔ ∀ key, ¬ s.Links key id := by
  constructor
  · intro hn key hl
    obtain ⟨keys, hk, -⟩ := h.links_iff.mp hl
    rw [hn] at hk
    cases hk
  · intro hl
    refine Option.eq_none_iff_forall_ne_some.mpr fun keys hk => ?_
    obtain ⟨key, hkey⟩ := exists_mem_of_ne_empty (h.indexed hk)
    exact hl key (h.links_iff.mpr ⟨keys, hk, hkey⟩)

theorem indexes_eq_isSome : s.indexes id = s.keysOf[id]?.isSome :=
  Std.ExtTreeMap.contains_eq_isSome_getElem?

/-- An item is indexed exactly when some node has it. -/
theorem Sound.indexes_iff (h : s.Sound) : s.indexes id = true ↔ ∃ key, s.Links key id := by
  rw [indexes_eq_isSome]
  constructor
  · intro hi
    obtain ⟨keys, hk⟩ := Option.isSome_iff_exists.mp hi
    obtain ⟨key, hkey⟩ := exists_mem_of_ne_empty (h.indexed hk)
    exact ⟨key, h.links_iff.mpr ⟨keys, hk, hkey⟩⟩
  · intro hx
    obtain ⟨key, hl⟩ := hx
    obtain ⟨keys, hk, -⟩ := h.links_iff.mp hl
    rw [hk]
    rfl

end Reading

/-! ## 4. Hiding a column -/

section Hiding

/-- The store with one column of its nodes no longer shown. -/
def hideColumn (s : Store) (i : Nat) : Store :=
  { s with nodes := s.nodes.map fun _ (node : GroupNode) => node.hideColumn i }

variable {s : Store} {i : Nat} {key : GroupKey}

theorem getElem?_nodes_hideColumn :
    (s.hideColumn i).nodes[key]? = s.nodes[key]?.map (GroupNode.hideColumn · i) := by
  show (s.nodes.map _)[key]? = _
  rw [Std.ExtTreeMap.getElem?_map]

theorem links_hideColumn {id : ItemId} : (s.hideColumn i).Links key id ↔ s.Links key id := by
  unfold Links
  rw [getElem?_nodes_hideColumn]
  constructor
  · intro h
    obtain ⟨node', hn', hid⟩ := h
    obtain ⟨node, hn, rfl⟩ := Option.map_eq_some_iff.mp hn'
    exact ⟨node, hn, hid⟩
  · intro h
    obtain ⟨node, hn, hid⟩ := h
    exact ⟨node.hideColumn i, Option.map_eq_some_iff.mpr ⟨node, hn, rfl⟩, hid⟩

/-- Hiding a column leaves the store sound. -/
theorem Sound.hideColumn (h : s.Sound) (i : Nat) : (s.hideColumn i).Sound where
  keyed {key node'} hn' := by
    rw [getElem?_nodes_hideColumn] at hn'
    obtain ⟨node, hn, rfl⟩ := Option.map_eq_some_iff.mp hn'
    exact (h.keyed hn : node.key = key)
  links_iff := links_hideColumn.trans h.links_iff
  inhabited {key node'} hn' := by
    rw [getElem?_nodes_hideColumn] at hn'
    obtain ⟨node, hn, rfl⟩ := Option.map_eq_some_iff.mp hn'
    exact (h.inhabited hn : node.members ≠ ∅)
  indexed := h.indexed
  nodup := h.nodup
  mem_rows {key} := by
    rw [Std.ExtTreeMap.mem_iff_isSome_getElem?, getElem?_nodes_hideColumn, Option.isSome_map,
      ← Std.ExtTreeMap.mem_iff_isSome_getElem?]
    exact h.mem_rows

end Hiding

end MediaIndex.Store
