import MediaIndex.Proofs.Grouping.Batch
import MediaIndex.Proofs.Store.Detach

/-!
# Merging a batch into the store

The groups of a batch join the nodes that have their keys; the others become new nodes, shown in the
visible columns, with their rows after the old ones in the order of their keys.

* `links_merge`, `Sound.merge` -- the store stays sound and has gained exactly what the batch puts;
* `rows_merge`, `created_merge` -- the new rows stand at the end;
* `display_merge` -- an old node shows what it showed, a new one the values of its group;
* `mem_grown_merge` -- the nodes said to have gained members;
* `Store.take`, `links_take` -- a batch put in place of what the store had of the same items.
-/

namespace MediaIndex.Store

/-! ## 1. Naming a key -/

theorem getElem?_linkAll {keysOf : Std.ExtTreeMap ItemId KeySet} {key : GroupKey} {ids : List ItemId}
    {id : ItemId} : (linkAll keysOf key ids)[id]? =
      if id ∈ ids then some ((keysOf[id]?.getD (∅ : KeySet)).insert key) else keysOf[id]? := by
  have twice (keys : KeySet) : (keys.insert key).insert key = keys.insert key := by
    refine Std.ExtTreeSet.ext_mem fun k => ?_
    rw [Std.ExtTreeSet.mem_insert, Std.compare_eq_iff_eq]
    exact or_iff_right_of_imp fun e => e ▸ Std.ExtTreeSet.mem_insert_self
  unfold linkAll
  induction ids generalizing keysOf with
  | nil => rw [List.foldl_nil, if_neg List.not_mem_nil]
  | cons a ids ih =>
    rw [List.foldl_cons, ih, Std.ExtTreeMap.getElem?_insert]
    simp only [Std.compare_eq_iff_eq, List.mem_cons]
    by_cases ha : a = id
    · rw [if_pos ha, if_pos (Or.inl ha.symm), ha, Option.getD_some, twice]
      split <;> rfl
    · rw [if_neg ha]
      simp only [Ne.symm ha, false_or]

/-- The items named after one more key has been recorded for some of them. -/
theorem names_linkAll {s s' : Store} {key k : GroupKey} {ids : List ItemId} {id : ItemId}
    (h : s'.keysOf = linkAll s.keysOf key ids) :
    s'.Names id k ↔ s.Names id k ∨ (k = key ∧ id ∈ ids) := by
  unfold Names
  rw [h, getElem?_linkAll]
  split
  · rename_i hm
    have hk : (∃ keys, some ((s.keysOf[id]?.getD (∅ : KeySet)).insert key) = some keys ∧ k ∈ keys) ↔
        k ∈ s.keysOf[id]?.getD (∅ : KeySet) ∨ k = key := by
      refine ⟨?_, fun hk => ⟨_, rfl, ?_⟩⟩
      · intro hx
        obtain ⟨keys, e, hk⟩ := hx
        cases e
        rw [Std.ExtTreeSet.mem_insert, Std.compare_eq_iff_eq] at hk
        exact hk.symm.imp (fun h => h) Eq.symm
      · rw [Std.ExtTreeSet.mem_insert, Std.compare_eq_iff_eq]
        exact hk.symm.imp Eq.symm fun h => h
    rw [hk, and_iff_left hm]
    refine or_congr_left ?_
    cases s.keysOf[id]? with
    | none => exact ⟨fun h => absurd h Std.ExtTreeSet.not_mem_empty, fun ⟨_, e, _⟩ => (by cases e)⟩
    | some keys => exact ⟨fun h => ⟨keys, rfl, h⟩, fun ⟨_, e, h⟩ => (by cases e; exact h)⟩
  · rename_i hm
    exact ⟨Or.inl, fun h => h.elim (fun h => h) fun h => absurd h.2 hm⟩

theorem indexed_linkAll {keysOf : Std.ExtTreeMap ItemId KeySet} {key : GroupKey} {ids : List ItemId}
    (h : ∀ {id : ItemId} {keys : KeySet}, keysOf[id]? = some keys → keys ≠ ∅) {id : ItemId}
    {keys : KeySet} (hk : (linkAll keysOf key ids)[id]? = some keys) : keys ≠ ∅ := by
  rw [getElem?_linkAll] at hk
  split at hk
  · cases hk
    exact ne_empty_of_mem Std.ExtTreeSet.mem_insert_self
  · exact h hk

/-! ## 2. Groups that join nodes -/

/-- What the groups of a list bring to the nodes that are there. -/
structure Grows (m m' : Merged) (groups : List (GroupKey × Group)) : Prop where
  keyed : ∀ {key : GroupKey} {node : GroupNode}, m'.store.nodes[key]? = some node → node.key = key
  display : ∀ {key : GroupKey}, m'.store.nodes[key]?.map (·.display) =
    m.store.nodes[key]?.map (·.display)
  links_iff : ∀ {key : GroupKey} {id : ItemId}, m'.store.Links key id ↔ m.store.Links key id ∨
    (key ∈ m.store.nodes ∧ ∃ group, (key, group) ∈ groups ∧ id ∈ group.members)
  names_iff : ∀ {key : GroupKey} {id : ItemId}, m'.store.Names id key ↔ m.store.Names id key ∨
    (key ∈ m.store.nodes ∧ ∃ group, (key, group) ∈ groups ∧ id ∈ group.members)
  indexed : ∀ {id : ItemId} {keys : KeySet}, m'.store.keysOf[id]? = some keys → keys ≠ ∅
  rows : m'.store.rows = m.store.rows
  created : m'.created = m.created
  grown : ∀ {key : GroupKey}, key ∈ m'.grown ↔ key ∈ m.grown ∨
    (key ∈ m.store.nodes ∧ ∃ group, (key, group) ∈ groups ∧ ∃ id ∈ group.members,
      ¬ m.store.Links key id)

section Growing

variable {m m' m'' : Merged} {groups more : List (GroupKey × Group)} {key : GroupKey} {group : Group}

theorem Grows.mem_nodes (h : Grows m m' groups) : key ∈ m'.store.nodes ↔ key ∈ m.store.nodes := by
  rw [Std.ExtTreeMap.mem_iff_isSome_getElem?, Std.ExtTreeMap.mem_iff_isSome_getElem?,
    ← Option.isSome_map (f := GroupNode.display), h.display, Option.isSome_map]

/-- What two lists bring one after the other is what both bring together. -/
theorem Grows.trans (h : Grows m m' groups) (h' : Grows m' m'' more) :
    Grows m m'' (groups ++ more) where
  keyed := h'.keyed
  display := h'.display.trans h.display
  links_iff {key id} := by
    rw [h'.links_iff, h.links_iff, h.mem_nodes, or_assoc, ← and_or_left]
    simp only [List.mem_append, or_and_right, exists_or]
  names_iff {key id} := by
    rw [h'.names_iff, h.names_iff, h.mem_nodes, or_assoc, ← and_or_left]
    simp only [List.mem_append, or_and_right, exists_or]
  indexed := h'.indexed
  rows := h'.rows.trans h.rows
  created := h'.created.trans h.created
  grown {key} := by
    rw [h'.grown, h.grown, h.mem_nodes, or_assoc, ← and_or_left]
    refine or_congr_right (and_congr_right fun hk => ?_)
    simp only [List.mem_append, or_and_right, exists_or]
    constructor
    · intro hx
      rcases hx with hg | ⟨g, hg, id, hid, hl⟩
      · exact Or.inl hg
      · exact Or.inr ⟨g, hg, id, hid, fun hl' => hl (h.links_iff.mpr (Or.inl hl'))⟩
    · intro hx
      rcases hx with hg | ⟨g, hg, id, hid, hl⟩
      · exact Or.inl hg
      · -- a member that the second list brings may have come with the first one already
        by_cases hl' : m'.store.Links key id
        · obtain ⟨-, g', hg', hid'⟩ := (h.links_iff.mp hl').resolve_left hl
          exact Or.inl ⟨g', hg', id, hid', hl⟩
        · exact Or.inr ⟨g, hg, id, hid, hl'⟩

theorem grows_refl (h : m.store.Linked)
    (hi : ∀ {id : ItemId} {keys : KeySet}, m.store.keysOf[id]? = some keys → keys ≠ ∅) :
    Grows m m [] where
  keyed := h.keyed
  display := rfl
  links_iff := ⟨Or.inl, fun h => h.elim (fun h => h) fun ⟨_, _, h, _⟩ => absurd h List.not_mem_nil⟩
  names_iff := ⟨Or.inl, fun h => h.elim (fun h => h) fun ⟨_, _, h, _⟩ => absurd h List.not_mem_nil⟩
  indexed := hi
  rows := rfl
  created := rfl
  grown := ⟨Or.inl, fun h => h.elim (fun h => h) fun ⟨_, _, h, _⟩ => absurd h List.not_mem_nil⟩

theorem Grows.linked (h : m.store.Linked) (hg : Grows m m' groups) : m'.store.Linked where
  keyed := hg.keyed
  links_iff := by
    intro key id
    rw [hg.links_iff, hg.names_iff, h.links_iff]

theorem mem_insertMany_toList {s t : ItemSet} {id : ItemId} :
    id ∈ s.insertMany t.toList ↔ id ∈ s ∨ id ∈ t := by
  rw [Std.ExtTreeSet.mem_insertMany_list, List.contains_iff_mem, Std.ExtTreeSet.mem_toList]

/-- The node with the members of a group. -/
def enlarged (node : GroupNode) (group : Group) : GroupNode :=
  { node with members := node.members.insertMany group.members.toList }

theorem grow_of_absent (hn : m.store.nodes[key]? = none) : m.grow key group = m := by
  unfold Merged.grow
  rw [hn]

section Present

variable {node : GroupNode} {k : GroupKey} {id : ItemId}

theorem store_grow_of_present (hn : m.store.nodes[key]? = some node) :
    (m.grow key group).store = m.store.grow node group.members := by
  unfold Merged.grow
  rw [hn]

theorem getElem?_nodes_grow (h : m.store.Linked) (hn : m.store.nodes[key]? = some node) :
    (m.grow key group).store.nodes[k]? =
      if key = k then some (enlarged node group) else m.store.nodes[k]? := by
  rw [store_grow_of_present hn]
  show (m.store.nodes.insert node.key (enlarged node group))[k]? = _
  rw [Std.ExtTreeMap.getElem?_insert, h.keyed hn]
  simp only [Std.compare_eq_iff_eq]

theorem links_grow (h : m.store.Linked) (hn : m.store.nodes[key]? = some node) :
    (m.grow key group).store.Links k id ↔ m.store.Links k id ∨ (k = key ∧ id ∈ group.members) := by
  have hk : (m.grow key group).store.nodes[k]? = _ := getElem?_nodes_grow h hn
  by_cases e : key = k
  · subst e
    rw [if_pos rfl] at hk
    rw [links_iff_mem hk, links_iff_mem hn, enlarged, mem_insertMany_toList, eq_self, true_and]
  · rw [if_neg e] at hk
    unfold Links
    rw [hk]
    exact ⟨Or.inl, fun ho => ho.elim (fun h => h) fun ho => absurd ho.1.symm e⟩

theorem keysOf_grow (h : m.store.Linked) (hn : m.store.nodes[key]? = some node) :
    (m.grow key group).store.keysOf = linkAll m.store.keysOf key group.members.toList := by
  rw [store_grow_of_present hn, Store.grow, h.keyed hn]

theorem mem_grown_grow (hn : m.store.nodes[key]? = some node) : k ∈ (m.grow key group).grown ↔
    k ∈ m.grown ∨ (k = key ∧ ∃ id ∈ group.members, ¬ m.store.Links key id) := by
  have hg : (m.grow key group).grown =
      if group.members.toList.all node.members.contains then m.grown else m.grown ++ [key] := by
    unfold Merged.grow
    rw [hn]
  have hall : group.members.toList.all node.members.contains = true ↔
      ¬ ∃ id ∈ group.members, ¬ m.store.Links key id := by
    rw [List.all_eq_true]
    simp only [Std.ExtTreeSet.mem_toList, ← Std.ExtTreeSet.mem_iff_contains, links_iff_mem hn]
    exact ⟨fun h ⟨id, hid, hn⟩ => hn (h id hid), fun h id hid =>
      Classical.byContradiction fun hn => h ⟨id, hid, hn⟩⟩
  rw [hg]
  split
  · rename_i ha
    exact ⟨Or.inl, fun ho => ho.elim (fun h => h) fun ho => absurd ho.2 (hall.mp ha)⟩
  · rename_i ha
    rw [List.mem_append, List.mem_singleton]
    refine or_congr_right ⟨fun e => ⟨e, ?_⟩, fun h => h.1⟩
    exact Classical.byContradiction fun hx => ha (hall.mpr hx)

end Present

/-- A group without a node brings nothing to the nodes that are there. -/
theorem grows_of_absent (h : m.store.Linked)
    (hi : ∀ {id : ItemId} {keys : KeySet}, m.store.keysOf[id]? = some keys → keys ≠ ∅)
    (hn : m.store.nodes[key]? = none) : Grows m m [(key, group)] := by
  have absent {k : GroupKey} {P : Group → Prop} :
      ¬ (k ∈ m.store.nodes ∧ ∃ g, (k, g) ∈ [(key, group)] ∧ P g) := by
    intro hx
    obtain ⟨hk, g, hg, -⟩ := hx
    cases List.mem_singleton.mp hg
    rw [Std.ExtTreeMap.mem_iff_isSome_getElem?, hn] at hk
    cases hk
  refine ⟨h.keyed, rfl, ?_, ?_, hi, rfl, rfl, ?_⟩ <;> exact (or_iff_left absent).symm

/-- A group joins the node that has its key. -/
theorem grows_of_present (h : m.store.Linked)
    (hi : ∀ {id : ItemId} {keys : KeySet}, m.store.keysOf[id]? = some keys → keys ≠ ∅)
    {node : GroupNode} (hn : m.store.nodes[key]? = some node) :
    Grows m (m.grow key group) [(key, group)] := by
  have hmem : key ∈ m.store.nodes := Std.ExtTreeMap.mem_iff_isSome_getElem?.mpr (by rw [hn]; rfl)
  -- what a key gains is the group when the key is its own, and nothing otherwise
  have gain {k : GroupKey} {P : Group → Prop} :
      (k ∈ m.store.nodes ∧ ∃ g, (k, g) ∈ [(key, group)] ∧ P g) ↔ k = key ∧ P group := by
    constructor
    · intro hx
      obtain ⟨-, g, hg, hp⟩ := hx
      cases List.mem_singleton.mp hg
      exact ⟨rfl, hp⟩
    · intro hx
      obtain ⟨rfl, hp⟩ := hx
      exact ⟨hmem, group, List.mem_singleton_self _, hp⟩
  constructor
  · intro k nd hk
    rw [getElem?_nodes_grow h hn] at hk
    split at hk
    · rename_i e
      cases hk
      exact (h.keyed hn : node.key = key).trans e
    · exact h.keyed hk
  · intro k
    rw [getElem?_nodes_grow h hn]
    split
    · rename_i e
      rw [← e, hn]
      rfl
    · rfl
  · intro k id
    rw [gain, links_grow h hn]
  · intro k id
    rw [gain, names_linkAll (keysOf_grow h hn), Std.ExtTreeSet.mem_toList]
  · intro id keys hk
    rw [keysOf_grow h hn] at hk
    exact indexed_linkAll hi hk
  · rw [store_grow_of_present hn]
    rfl
  · unfold Merged.grow
    rw [hn]
  · intro k
    rw [gain, mem_grown_grow hn]
    exact or_congr_right (and_congr_right fun e => by rw [e])

theorem grows_grow (h : m.store.Linked)
    (hi : ∀ {id : ItemId} {keys : KeySet}, m.store.keysOf[id]? = some keys → keys ≠ ∅) :
    Grows m (m.grow key group) [(key, group)] := by
  cases hn : m.store.nodes[key]? with
  | none =>
    rw [grow_of_absent hn]
    exact grows_of_absent h hi hn
  | some node => exact grows_of_present h hi hn

theorem grows_foldl (h : m.store.Linked)
    (hi : ∀ {id : ItemId} {keys : KeySet}, m.store.keysOf[id]? = some keys → keys ≠ ∅)
    (groups : List (GroupKey × Group)) :
    Grows m (groups.foldl (fun m (key, group) => m.grow key group) m) groups := by
  induction groups generalizing m with
  | nil => exact grows_refl h hi
  | cons p groups ih =>
    have hp : Grows m (m.grow p.1 p.2) [p] := grows_grow h hi
    exact hp.trans (ih (hp.linked h) hp.indexed)

end Growing

/-! ## 3. Groups that become nodes -/

/-- What new nodes come to. -/
structure Appends (m m' : Merged) (fresh : List GroupNode) : Prop where
  nodes : ∀ {key : GroupKey} {node : GroupNode}, m'.store.nodes[key]? = some node ↔
    m.store.nodes[key]? = some node ∨ (node ∈ fresh ∧ node.key = key)
  names_iff : ∀ {key : GroupKey} {id : ItemId}, m'.store.Names id key ↔ m.store.Names id key ∨
    ∃ node ∈ fresh, key = node.key ∧ id ∈ node.members
  indexed : ∀ {id : ItemId} {keys : KeySet}, m'.store.keysOf[id]? = some keys → keys ≠ ∅
  rows : m'.store.rows = m.store.rows ++ fresh.map (·.key)
  created : m'.created = m.created + fresh.length
  grown : m'.grown = m.grown

section Appending

variable {m m' m'' : Merged} {node : GroupNode} {fresh more : List GroupNode}

theorem appends_refl
    (hi : ∀ {id : ItemId} {keys : KeySet}, m.store.keysOf[id]? = some keys → keys ≠ ∅) :
    Appends m m [] where
  nodes := ⟨Or.inl, fun h => h.elim (fun h => h) fun h => absurd h.1 List.not_mem_nil⟩
  names_iff := ⟨Or.inl, fun h => h.elim (fun h => h) fun ⟨_, h, _⟩ => absurd h List.not_mem_nil⟩
  indexed := hi
  rows := (List.append_nil _).symm
  created := rfl
  grown := rfl

/-- New nodes one after another stand in their order. -/
theorem Appends.trans (h : Appends m m' fresh) (h' : Appends m' m'' more) :
    Appends m m'' (fresh ++ more) where
  nodes {key new} := by rw [h'.nodes, h.nodes, or_assoc, ← or_and_right, List.mem_append]
  names_iff {key id} := by
    rw [h'.names_iff, h.names_iff, or_assoc]
    simp only [List.mem_append, or_and_right, exists_or]
  indexed := h'.indexed
  rows := by rw [h'.rows, h.rows, List.map_append, List.append_assoc]
  created := by rw [h'.created, h.created, List.length_append, Nat.add_assoc]
  grown := h'.grown.trans h.grown

theorem getElem?_nodes_append (m : Merged) (node : GroupNode) (key : GroupKey) :
    (m.append node).store.nodes[key]? = if node.key = key then some node else m.store.nodes[key]? := by
  show (m.store.nodes.insert node.key node)[key]? = _
  rw [Std.ExtTreeMap.getElem?_insert]
  simp only [Std.compare_eq_iff_eq]

theorem appends_append (hn : node.key ∉ m.store.nodes)
    (hi : ∀ {id : ItemId} {keys : KeySet}, m.store.keysOf[id]? = some keys → keys ≠ ∅) :
    Appends m (m.append node) [node] where
  nodes {key new} := by
    rw [getElem?_nodes_append, List.mem_singleton]
    split
    · rename_i e
      subst e
      rw [Std.ExtTreeMap.getElem?_eq_none hn]
      constructor
      · intro h
        cases h
        exact Or.inr ⟨rfl, rfl⟩
      · rintro (h | ⟨rfl, -⟩)
        · cases h
        · rfl
    · rename_i hne
      refine (or_iff_left ?_).symm
      rintro ⟨rfl, e⟩
      exact hne e
  names_iff {key id} := by
    have hk : (m.append node).store.keysOf =
      linkAll m.store.keysOf node.key node.members.toList := rfl
    rw [names_linkAll hk, Std.ExtTreeSet.mem_toList]
    simp only [List.mem_singleton, exists_eq_left]
  indexed hk := indexed_linkAll hi hk
  rows := rfl
  created := rfl
  grown := rfl

/-- Groups with keys of their own become nodes one by one. -/
theorem appends_foldl (hd : (fresh.map (·.key)).Nodup) (hf : ∀ node ∈ fresh, node.key ∉ m.store.nodes)
    (hi : ∀ {id : ItemId} {keys : KeySet}, m.store.keysOf[id]? = some keys → keys ≠ ∅) :
    Appends m (fresh.foldl Merged.append m) fresh := by
  induction fresh generalizing m with
  | nil => exact appends_refl hi
  | cons node fresh ih =>
    rw [List.map_cons, List.nodup_cons] at hd
    have hnode : Appends m (m.append node) [node] := appends_append (hf node List.mem_cons_self) hi
    have hf' : ∀ new ∈ fresh, new.key ∉ (m.append node).store.nodes := by
      intro new hnew
      rw [Std.ExtTreeMap.mem_iff_isSome_getElem?, getElem?_nodes_append, if_neg]
      · exact fun h => hf new (List.mem_cons_of_mem _ hnew) (Std.ExtTreeMap.mem_iff_isSome_getElem?.mpr h)
      · exact fun e => hd.1 (e ▸ List.mem_map_of_mem hnew)
    exact hnode.trans (ih hd.2 hf' hnode.indexed)

end Appending

/-! ## 4. The whole batch -/

section Whole

variable {s : Store} {visible : List Nat} {batch : Batch} {key : GroupKey} {id : ItemId}

/-- The groups of a batch whose keys have no node. -/
def freshGroups (s : Store) (batch : Batch) : List (GroupKey × Group) :=
  batch.groups.toList.filter fun p => !s.nodes.contains p.1

/-- The nodes that a batch makes. -/
def freshNodes (s : Store) (visible : List Nat) (batch : Batch) : List GroupNode :=
  (s.freshGroups batch).map fun p => ⟨p.1, project visible p.2.display, p.2.members⟩

theorem keys_freshNodes (visible : List Nat) :
    (s.freshNodes visible batch).map (·.key) = (s.freshGroups batch).map (·.1) := by
  rw [freshNodes, List.map_map]
  rfl

theorem mem_freshGroups {group : Group} :
    (key, group) ∈ s.freshGroups batch ↔ batch.groups[key]? = some group ∧ key ∉ s.nodes := by
  rw [freshGroups, List.mem_filter, Std.ExtTreeMap.mem_toList_iff_getElem?_eq_some,
    Bool.not_eq_true', ← Bool.not_eq_true, ← Std.ExtTreeMap.mem_iff_contains]

theorem nodup_keys_freshGroups : ((s.freshGroups batch).map (·.1)).Nodup := by
  have h : (batch.groups.toList.map (·.1)).Nodup := by
    rw [Std.ExtTreeMap.map_fst_toList_eq_keys]
    exact Std.ExtTreeMap.nodup_keys
  exact h.sublist (List.filter_sublist.map _)

/-- The state between the two parts of a merge. -/
theorem merge_eq : s.merge visible batch = (s.freshNodes visible batch).foldl Merged.append
    (batch.groups.toList.foldl (fun m (key, group) => m.grow key group) { store := s }) := by
  rw [freshNodes, List.foldl_map]
  rfl

theorem merge_parts (h : s.Sound) (visible : List Nat) (batch : Batch) :
    ∃ mid : Merged, Grows { store := s } mid batch.groups.toList ∧
      Appends mid (s.merge visible batch) (s.freshNodes visible batch) := by
  have hg : Grows { store := s } _ batch.groups.toList := grows_foldl h.toLinked h.indexed _
  refine ⟨_, hg, ?_⟩
  rw [merge_eq]
  refine appends_foldl ?_ (fun node hnode => ?_) hg.indexed
  · rw [keys_freshNodes]
    exact nodup_keys_freshGroups
  · obtain ⟨⟨k, g⟩, hp, rfl⟩ := List.mem_map.mp hnode
    rw [hg.mem_nodes]
    exact (mem_freshGroups.mp hp).2

theorem exists_mem_freshNodes {P : GroupNode → Prop} : (∃ node ∈ s.freshNodes visible batch, P node) ↔
    ∃ key group, key ∉ s.nodes ∧ batch.groups[key]? = some group ∧
      P ⟨key, project visible group.display, group.members⟩ := by
  constructor
  · intro h
    obtain ⟨node, hnode, hp⟩ := h
    obtain ⟨⟨k, g⟩, hk, rfl⟩ := List.mem_map.mp hnode
    obtain ⟨hg, hk⟩ := mem_freshGroups.mp hk
    exact ⟨k, g, hk, hg, hp⟩
  · intro h
    obtain ⟨k, g, hk, hg, hp⟩ := h
    exact ⟨_, List.mem_map_of_mem (mem_freshGroups.mpr ⟨hg, hk⟩), hp⟩

/-- A group joins an old node or becomes a new one, so what it puts is there in any case. -/
theorem puts_iff (s : Store) (visible : List Nat) :
    (key ∈ s.nodes ∧ ∃ group, (key, group) ∈ batch.groups.toList ∧ id ∈ group.members) ∨
    (∃ node ∈ s.freshNodes visible batch, key = node.key ∧ id ∈ node.members) ↔ batch.Puts key id := by
  rw [exists_mem_freshNodes]
  simp only [Std.ExtTreeMap.mem_toList_iff_getElem?_eq_some]
  constructor
  · intro h
    rcases h with ⟨-, g, hg, hid⟩ | ⟨k, g, -, hg, rfl, hid⟩
    · exact ⟨g, hg, hid⟩
    · exact ⟨g, hg, hid⟩
  · intro h
    obtain ⟨g, hg, hid⟩ := h
    by_cases hk : key ∈ s.nodes
    · exact Or.inl ⟨hk, g, hg, hid⟩
    · exact Or.inr ⟨key, g, hk, hg, rfl, hid⟩

/-- **The store has gained exactly what the batch puts**, read off the nodes. -/
theorem links_merge (h : s.Sound) :
    (s.merge visible batch).store.Links key id ↔ s.Links key id ∨ batch.Puts key id := by
  obtain ⟨mid, hg, ha⟩ := merge_parts h visible batch
  rw [← puts_iff s visible, ← or_assoc, ← hg.links_iff]
  unfold Links
  simp only [ha.nodes, or_and_right, exists_or]
  refine or_congr_right ⟨?_, ?_⟩
  · intro hx
    obtain ⟨node, ⟨hm, e⟩, hid⟩ := hx
    exact ⟨node, hm, e.symm, hid⟩
  · intro hx
    obtain ⟨node, hm, e, hid⟩ := hx
    exact ⟨node, ⟨hm, e.symm⟩, hid⟩

theorem names_merge (h : s.Sound) :
    (s.merge visible batch).store.Names id key ↔ s.Names id key ∨ batch.Puts key id := by
  obtain ⟨mid, hg, ha⟩ := merge_parts h visible batch
  rw [← puts_iff s visible, ha.names_iff, hg.names_iff, or_assoc]

theorem rows_merge (h : s.Sound) :
    (s.merge visible batch).store.rows = s.rows ++ (s.freshGroups batch).map (·.1) := by
  obtain ⟨mid, hg, ha⟩ := merge_parts h visible batch
  rw [ha.rows, hg.rows, keys_freshNodes visible]

theorem created_merge (h : s.Sound) :
    (s.merge visible batch).created = (s.freshGroups batch).length := by
  obtain ⟨mid, hg, ha⟩ := merge_parts h visible batch
  rw [ha.created, hg.created, freshNodes, List.length_map]
  exact Nat.zero_add _

/-- **An old node shows what it showed, a new one the visible values of its group.** -/
theorem display_merge (h : s.Sound) {node : GroupNode}
    (hn : (s.merge visible batch).store.nodes[key]? = some node) :
    (∃ old, s.nodes[key]? = some old ∧ node.display = old.display) ∨
      ∃ group, key ∉ s.nodes ∧ batch.groups[key]? = some group ∧
        node = ⟨key, project visible group.display, group.members⟩ := by
  obtain ⟨mid, hg, ha⟩ := merge_parts h visible batch
  rcases ha.nodes.mp hn with hm | ⟨hm, e⟩
  · have hd : (mid.store.nodes[key]?).map (·.display) = s.nodes[key]?.map (·.display) := hg.display
    rw [hm] at hd
    obtain ⟨old, ho, e⟩ := Option.map_eq_some_iff.mp hd.symm
    exact Or.inl ⟨old, ho, e.symm⟩
  · obtain ⟨k, g, hk, hgr, hnode⟩ := exists_mem_freshNodes.mp ⟨node, hm, rfl⟩
    rw [hnode] at e
    cases e
    exact Or.inr ⟨g, hk, hgr, hnode⟩

/-- The nodes told to have gained members are those that were there and have. -/
theorem mem_grown_merge (h : s.Sound) : key ∈ (s.merge visible batch).grown ↔
    key ∈ s.nodes ∧ ∃ id, batch.Puts key id ∧ ¬ s.Links key id := by
  obtain ⟨mid, hg, ha⟩ := merge_parts h visible batch
  rw [ha.grown, hg.grown]
  simp only [Std.ExtTreeMap.mem_toList_iff_getElem?_eq_some]
  constructor
  · intro hx
    rcases hx with hm | ⟨hk, g, hgr, id, hid, hl⟩
    · exact absurd hm List.not_mem_nil
    · exact ⟨hk, id, ⟨g, hgr, hid⟩, hl⟩
  · intro hx
    obtain ⟨hk, id, ⟨g, hgr, hid⟩, hl⟩ := hx
    exact Or.inr ⟨hk, g, hgr, id, hid, hl⟩

theorem mem_nodes_merge (h : s.Sound) :
    key ∈ (s.merge visible batch).store.nodes ↔
      key ∈ s.nodes ∨ key ∈ (s.freshGroups batch).map (·.1) := by
  obtain ⟨mid, hg, ha⟩ := merge_parts h visible batch
  rw [← (hg.mem_nodes : key ∈ mid.store.nodes ↔ key ∈ s.nodes),
    Std.ExtTreeMap.mem_iff_isSome_getElem?, Option.isSome_iff_exists,
    Std.ExtTreeMap.mem_iff_isSome_getElem?, Option.isSome_iff_exists, ← keys_freshNodes visible,
    List.mem_map]
  simp only [ha.nodes, exists_or]

/-- **Merging a batch leaves the store sound.** -/
theorem Sound.merge (h : s.Sound) (hb : batch.Sound) (visible : List Nat) :
    (s.merge visible batch).store.Sound where
  keyed {key node} hn := by
    obtain ⟨mid, hg, ha⟩ := merge_parts h visible batch
    rcases ha.nodes.mp hn with hm | ⟨-, e⟩
    · exact hg.keyed hm
    · exact e
  links_iff {key id} := by rw [links_merge h, names_merge h, h.links_iff]
  inhabited {key node} hn := by
    rcases display_merge h hn with ⟨old, ho, -⟩ | ⟨g, -, hg, rfl⟩
    · obtain ⟨id, hid⟩ := exists_mem_of_ne_empty (h.inhabited ho)
      exact ne_empty_of_mem ((links_iff_mem hn).mp ((links_merge h).mpr (Or.inl ⟨old, ho, hid⟩)))
    · exact (hb.inhabited hg : g.members ≠ ∅)
  indexed {id keys} hk := by
    obtain ⟨mid, -, ha⟩ := merge_parts h visible batch
    exact ha.indexed hk
  nodup := by
    rw [rows_merge h, List.nodup_append]
    refine ⟨h.nodup, nodup_keys_freshGroups, fun key hk key' hk' e => ?_⟩
    obtain ⟨⟨k, g⟩, hg, rfl⟩ := List.mem_map.mp hk'
    rw [e] at hk
    exact (mem_freshGroups.mp hg).2 (h.mem_rows.mp hk)
  mem_rows {key} := by rw [rows_merge h, List.mem_append, mem_nodes_merge h, h.mem_rows]

/-! ## 5. A batch in place of older members -/

/-- The store with a batch in place of what it had of the same items. -/
def take (s : Store) (visible : List Nat) (batch : Batch) : Store :=
  ((s.detach batch.requested.toList).store.merge visible batch).store

theorem Sound.take (h : s.Sound) (hb : batch.Sound) (visible : List Nat) :
    (s.take visible batch).Sound :=
  (h.detach _).merge hb visible

/-- **Of the requested items the store has what the batch puts, of the others what it had.** -/
theorem links_take (h : s.Sound) : (s.take visible batch).Links key id ↔
    (s.Links key id ∧ id ∉ batch.requested) ∨ batch.Puts key id := by
  rw [take, links_merge (h.detach _), links_detach h, Std.ExtTreeSet.mem_toList]

theorem display_take (h : s.Sound) {node : GroupNode}
    (hn : (s.take visible batch).nodes[key]? = some node) :
    (∃ old, s.nodes[key]? = some old ∧ node.display = old.display) ∨
      ∃ group, batch.groups[key]? = some group ∧ node.display = project visible group.display := by
  rcases display_merge (h.detach _) hn with ⟨mid, hm, e⟩ | ⟨group, -, hg, rfl⟩
  · obtain ⟨old, ho, rfl, -⟩ := (getElem?_nodes_detach h).mp hm
    exact Or.inl ⟨old, ho, e⟩
  · exact Or.inr ⟨group, hg, rfl⟩

/-- The items that a batch puts are indexed, and of the others those that were. -/
theorem indexes_take {id : ItemId} (h : s.Sound) (hb : batch.Sound) :
    (s.take visible batch).indexes id = true ↔
      (s.indexes id = true ∧ id ∉ batch.requested) ∨ ∃ key, batch.Puts key id := by
  rw [(h.take hb visible).indexes_iff, h.indexes_iff]
  simp only [links_take h, exists_or, exists_and_right]

/-- An item that the batch brings has the keys of the groups the batch puts it into. -/
theorem keysOf_take {id : ItemId} {keys : KeySet} (h : s.Sound) (hb : batch.Sound)
    (hr : id ∈ batch.requested) (hne : keys ≠ ∅) (hk : ∀ key, batch.Puts key id ↔ key ∈ keys) :
    (s.take visible batch).keysOf[id]? = some keys := by
  refine (h.take hb visible).getElem?_keysOf_eq_some_iff.mpr ⟨hne, fun key => ?_⟩
  rw [links_take h, hk]
  exact ⟨Or.inr, fun hx => hx.elim (fun hx => absurd hr hx.2) fun hx => hx⟩

/-- An item that the batch does not bring has the keys it had. -/
theorem keysOf_take_of_not_requested {id : ItemId} (h : s.Sound) (hb : batch.Sound)
    (hr : id ∉ batch.requested) (hp : ∀ key, ¬ batch.Puts key id) :
    (s.take visible batch).keysOf[id]? = s.keysOf[id]? := by
  have hlinks (key : GroupKey) : (s.take visible batch).Links key id ↔ s.Links key id := by
    rw [links_take h]
    exact ⟨fun hx => hx.elim (fun hx => hx.1) fun hx => absurd hx (hp key), fun hx => Or.inl ⟨hx, hr⟩⟩
  cases hk : s.keysOf[id]? with
  | none =>
    refine (h.take hb visible).getElem?_keysOf_eq_none_iff.mpr fun key => ?_
    rw [hlinks]
    exact h.getElem?_keysOf_eq_none_iff.mp hk key
  | some keys =>
    obtain ⟨hne, hiff⟩ := h.getElem?_keysOf_eq_some_iff.mp hk
    refine (h.take hb visible).getElem?_keysOf_eq_some_iff.mpr ⟨hne, fun key => ?_⟩
    rw [hlinks]
    exact hiff key

theorem take_empty : ({} : Store).take visible batch = (({} : Store).merge visible batch).store := by
  have he : (({} : Store).detach batch.requested.toList).store = {} := by
    refine (store_detach_of_removed_eq_zero ?_).1
    exact removed_detach_of_none fun id _ => Std.ExtTreeMap.getElem?_empty
  rw [take, he]

end Whole

end MediaIndex.Store
