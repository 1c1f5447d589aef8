import MediaIndex.Proofs.Store.Sound

/-!
# Taking items out of the store

Taking items out leaves every node with its other members, in the order the nodes had, and drops the
nodes that have none left. What is told of it agrees with what has happened.

* `getElem?_nodes_detach` -- the nodes that are left;
* `links_detach`, `Sound.detach` -- the store stays sound and has lost exactly the named items;
* `rows_detach`, `positions_detach` -- the rows that are left, and the places of those that are gone;
* `mem_shrunk_detach` -- the nodes said to have lost members.
-/

namespace MediaIndex

namespace GroupNode

/-- The node without some of its members. -/
def without (node : GroupNode) (gone : List ItemId) : GroupNode :=
  { node with members := node.members.filter (!gone.contains ·) }

variable {node : GroupNode} {gone : List ItemId}

theorem mem_without {id : ItemId} :
    id ∈ (node.without gone).members ↔ id ∈ node.members ∧ id ∉ gone := by
  show id ∈ node.members.filter _ ↔ _
  rw [Store.mem_filter_iff, Bool.not_eq_true', List.contains_eq_mem, decide_eq_false_iff_not]

/-- A node is left as it is when it loses none of its members. -/
theorem without_eq_self (h : ∀ id ∈ gone, id ∉ node.members) : node.without gone = node := by
  refine congrArg (mk node.key node.display) (Std.ExtTreeSet.ext_mem fun id => ?_)
  have hw : id ∈ (node.without gone).members ↔ id ∈ node.members ∧ id ∉ gone := mem_without
  exact hw.trans ⟨fun hm => hm.1, fun hm => ⟨hm, fun hg => h id hg hm⟩⟩

theorem without_without {more : List ItemId} :
    (node.without gone).without more = node.without (gone ++ more) := by
  refine congrArg (mk node.key node.display) (Std.ExtTreeSet.ext_mem fun id => ?_)
  show id ∈ ((node.without gone).without more).members ↔ id ∈ (node.without (gone ++ more)).members
  rw [mem_without, mem_without, mem_without, List.mem_append, not_or, and_assoc]

theorem erase_eq_without {id : ItemId} :
    { node with members := node.members.erase id } = node.without [id] := by
  refine congrArg (mk node.key node.display) (Std.ExtTreeSet.ext_mem fun a => ?_)
  show a ∈ node.members.erase id ↔ a ∈ (node.without [id]).members
  rw [mem_without, Std.ExtTreeSet.mem_erase, ne_eq, Std.compare_eq_iff_eq, List.mem_singleton,
    and_comm, eq_comm]

end GroupNode

namespace Store

/-! ## 1. One item -/

theorem getElem?_dropMember {nodes : Std.ExtTreeMap GroupKey GroupNode} {id : ItemId}
    {keys : List GroupKey} {key : GroupKey} : (dropMember nodes id keys)[key]? =
      if key ∈ keys then nodes[key]?.map (GroupNode.without · [id]) else nodes[key]? := by
  have twice (node : GroupNode) : (node.without [id]).without [id] = node.without [id] :=
    GroupNode.without_eq_self fun a ha hm => (GroupNode.mem_without.mp hm).2 ha
  unfold dropMember
  simp only [GroupNode.erase_eq_without]
  induction keys generalizing nodes with
  | nil => rw [List.foldl_nil, if_neg List.not_mem_nil]
  | cons k keys ih =>
    rw [List.foldl_cons, ih, Std.ExtTreeMap.getElem?_modify]
    simp only [Std.compare_eq_iff_eq, List.mem_cons]
    by_cases hk : k = key
    · rw [if_pos hk, if_pos (Or.inl hk.symm), hk, Option.map_map]
      split
      · exact congrArg (fun f => nodes[key]?.map f) (funext twice)
      · rfl
    · rw [if_neg hk]
      simp only [Ne.symm hk, false_or]

variable {u : Unlinked} {id id' : ItemId} {key : GroupKey}

theorem getElem?_nodes_unlink (h : u.store.Linked) (id : ItemId) (key : GroupKey) :
    (u.unlink id).store.nodes[key]? = u.store.nodes[key]?.map (GroupNode.without · [id]) := by
  -- a node that does not have the item is left as it is
  have same (hk : ¬ u.store.Names id key) :
      u.store.nodes[key]? = u.store.nodes[key]?.map (GroupNode.without · [id]) := by
    cases hn : u.store.nodes[key]? with
    | none => rfl
    | some node =>
      have hm : id ∉ node.members := fun hm => hk (h.links_iff.mp ⟨node, hn, hm⟩)
      refine congrArg some (GroupNode.without_eq_self fun a ha => ?_).symm
      rw [List.mem_singleton.mp ha]
      exact hm
  unfold Unlinked.unlink
  split
  · rename_i hk
    refine same fun ⟨keys, hk', _⟩ => ?_
    rw [hk] at hk'
    cases hk'
  · rename_i keys hk
    dsimp only
    rw [getElem?_dropMember]
    split
    · rfl
    · rename_i hn
      exact same fun hm => hn (Std.ExtTreeSet.mem_toList.mpr ((names_iff_mem hk).mp hm))

theorem getElem?_keysOf_unlink :
    (u.unlink id).store.keysOf[id']? = if id' = id then none else u.store.keysOf[id']? := by
  unfold Unlinked.unlink
  split
  · rename_i hk
    split
    · rename_i e
      rw [e, hk]
    · rfl
  · dsimp only
    rw [Std.ExtTreeMap.getElem?_erase]
    simp only [Std.compare_eq_iff_eq, eq_comm (a := id)]

theorem rows_unlink : (u.unlink id).store.rows = u.store.rows := by
  unfold Unlinked.unlink
  split <;> rfl

theorem mem_touched_unlink :
    key ∈ (u.unlink id).touched ↔ key ∈ u.touched ∨ u.store.Names id key := by
  unfold Unlinked.unlink
  split
  · rename_i hk
    refine ⟨Or.inl, fun h => h.elim (fun h => h) fun ⟨keys, hk', _⟩ => ?_⟩
    rw [hk] at hk'
    cases hk'
  · rename_i keys hk
    rw [names_iff_mem hk]
    dsimp only
    rw [Std.ExtTreeSet.mem_insertMany_list, List.contains_iff_mem, Std.ExtTreeSet.mem_toList]

theorem links_unlink (h : u.store.Linked) :
    (u.unlink id).store.Links key id' ↔ u.store.Links key id' ∧ id' ≠ id := by
  cases hn : u.store.nodes[key]? with
  | none =>
    have hn' := getElem?_nodes_unlink h id key
    rw [hn] at hn'
    refine ⟨fun ⟨node, e, _⟩ => ?_, fun ⟨⟨node, e, _⟩, _⟩ => ?_⟩
    · rw [hn'] at e
      cases e
    · rw [hn] at e
      cases e
  | some node =>
    have hn' := getElem?_nodes_unlink h id key
    rw [hn] at hn'
    rw [links_iff_mem hn', links_iff_mem hn, GroupNode.mem_without, List.mem_singleton]

theorem names_unlink : (u.unlink id).store.Names id' key ↔ u.store.Names id' key ∧ id' ≠ id := by
  unfold Names
  rw [getElem?_keysOf_unlink]
  split
  · rename_i e
    exact ⟨fun ⟨_, h, _⟩ => (by cases h), fun h => absurd e h.2⟩
  · rename_i e
    exact ⟨fun h => ⟨h, e⟩, fun h => h.1⟩

theorem Linked.unlink (h : u.store.Linked) (id : ItemId) : (u.unlink id).store.Linked where
  keyed {key node} hn := by
    rw [getElem?_nodes_unlink h] at hn
    obtain ⟨old, ho, rfl⟩ := Option.map_eq_some_iff.mp hn
    exact (h.keyed ho : old.key = key)
  links_iff {key id'} := by rw [links_unlink h, names_unlink, h.links_iff]

/-! ## 2. Many items -/

/-- What taking out many items comes to, before the empty nodes are dropped. -/
structure Unlinks (u u' : Unlinked) (ids : List ItemId) : Prop where
  linked : u'.store.Linked
  nodes : ∀ key : GroupKey, u'.store.nodes[key]? = u.store.nodes[key]?.map (GroupNode.without · ids)
  keysOf : ∀ id : ItemId, u'.store.keysOf[id]? = if id ∈ ids then none else u.store.keysOf[id]?
  rows : u'.store.rows = u.store.rows
  touched : ∀ key : GroupKey, key ∈ u'.touched ↔ key ∈ u.touched ∨ ∃ id ∈ ids, u.store.Links key id

theorem unlinks_foldl (h : u.store.Linked) (ids : List ItemId) :
    Unlinks u (ids.foldl Unlinked.unlink u) ids := by
  induction ids generalizing u with
  | nil =>
    refine ⟨h, fun key => ?_, fun id => (if_neg List.not_mem_nil).symm, rfl, fun key => ?_⟩
    · have same (node : GroupNode) : node.without [] = node :=
        GroupNode.without_eq_self fun a ha => absurd ha List.not_mem_nil
      rw [List.foldl_nil, funext same, Option.map_id']
    · exact ⟨Or.inl, fun h => h.elim (fun h => h) fun ⟨_, h, _⟩ => absurd h List.not_mem_nil⟩
  | cons id ids ih =>
    have h' := ih (h.unlink id)
    refine ⟨h'.linked, fun key => ?_, fun id' => ?_, by rw [List.foldl_cons, h'.rows, rows_unlink],
      fun key => ?_⟩
    · rw [List.foldl_cons, h'.nodes, getElem?_nodes_unlink h, Option.map_map]
      exact congrArg (fun f => u.store.nodes[key]?.map f) (funext fun _ => GroupNode.without_without)
    · rw [List.foldl_cons, h'.keysOf, getElem?_keysOf_unlink]
      by_cases h1 : id' ∈ ids
      · rw [if_pos h1, if_pos (List.mem_cons_of_mem _ h1)]
      · simp only [h1, List.mem_cons, or_false, if_false]
    · rw [List.foldl_cons, h'.touched, mem_touched_unlink, or_assoc, ← h.links_iff]
      simp only [links_unlink h, List.mem_cons, exists_eq_or_imp]
      refine or_congr_right ⟨?_, ?_⟩
      · intro hx
        rcases hx with hl | ⟨a, ha, hl, -⟩
        · exact Or.inl hl
        · exact Or.inr ⟨a, ha, hl⟩
      · intro hx
        rcases hx with hl | ⟨a, ha, hl⟩
        · exact Or.inl hl
        · by_cases e : a = id
          · exact Or.inl (e ▸ hl)
          · exact Or.inr ⟨a, ha, hl, e⟩

/-! ## 3. What is left -/

section Left

variable {s : Store} {ids : List ItemId}

theorem unlinks_of_sound (h : s.Sound) (ids : List ItemId) :
    Unlinks { store := s } (ids.foldl Unlinked.unlink { store := s }) ids :=
  unlinks_foldl h.toLinked ids

/-- The node of a key is dropped from the unlinked store. -/
def dropped (u : Unlinked) (key : GroupKey) : Bool :=
  u.touched.contains key && u.store.isEmptyNode key

theorem nodes_detach : (s.detach ids).store.nodes =
    (ids.foldl Unlinked.unlink { store := s }).store.nodes.filter
      fun key _ => !dropped (ids.foldl Unlinked.unlink { store := s }) key := rfl

/-- A node that loses all its members is dropped, and no other one. -/
theorem dropped_eq (h : s.Sound) {node : GroupNode} (hn : s.nodes[key]? = some node) :
    dropped (ids.foldl Unlinked.unlink { store := s }) key = (node.without ids).members.isEmpty := by
  have hu := unlinks_of_sound h ids
  have hn' := hu.nodes key
  rw [hn] at hn'
  unfold dropped isEmptyNode
  rw [hn', Option.map_some]
  dsimp only
  cases he : (node.without ids).members.isEmpty with
  | false => rw [Bool.and_false]
  | true =>
    obtain ⟨id, hid⟩ := exists_mem_of_ne_empty (h.inhabited hn)
    have hmem : id ∈ ids := Classical.byContradiction fun hni => by
      have hleft : id ∈ (node.without ids).members := GroupNode.mem_without.mpr ⟨hid, hni⟩
      rw [Std.ExtTreeSet.isEmpty_iff.mp he] at hleft
      exact Std.ExtTreeSet.not_mem_empty hleft
    rw [Bool.and_true, ← Std.ExtTreeSet.mem_iff_contains, hu.touched]
    exact Or.inr ⟨id, hmem, node, hn, hid⟩

/-- **The nodes that are left have their other members; the emptied ones are gone.** -/
theorem getElem?_nodes_detach (h : s.Sound) {node' : GroupNode} :
    (s.detach ids).store.nodes[key]? = some node' ↔
      ∃ node, s.nodes[key]? = some node ∧ node.without ids = node' ∧ node'.members ≠ ∅ := by
  rw [nodes_detach, Std.ExtTreeMap.getElem?_filter', (unlinks_of_sound h ids).nodes,
    Option.filter_eq_some_iff]
  constructor
  · intro hx
    obtain ⟨hm, hd⟩ := hx
    obtain ⟨node, hn, rfl⟩ := Option.map_eq_some_iff.mp hm
    rw [dropped_eq h hn, Bool.not_eq_true'] at hd
    exact ⟨node, hn, rfl, Std.ExtTreeSet.isEmpty_eq_false_iff.mp hd⟩
  · intro hx
    obtain ⟨node, hn, rfl, hne⟩ := hx
    refine ⟨Option.map_eq_some_iff.mpr ⟨node, hn, rfl⟩, ?_⟩
    rw [dropped_eq h hn, Bool.not_eq_true']
    exact Std.ExtTreeSet.isEmpty_eq_false_iff.mpr hne

theorem links_detach (h : s.Sound) : (s.detach ids).store.Links key id ↔ s.Links key id ∧ id ∉ ids := by
  constructor
  · intro hx
    obtain ⟨node', hn', hm⟩ := hx
    obtain ⟨node, hn, rfl, -⟩ := (getElem?_nodes_detach h).mp hn'
    obtain ⟨hm, hni⟩ := GroupNode.mem_without.mp hm
    exact ⟨⟨node, hn, hm⟩, hni⟩
  · intro hx
    obtain ⟨⟨node, hn, hm⟩, hni⟩ := hx
    have hm' : id ∈ (node.without ids).members := GroupNode.mem_without.mpr ⟨hm, hni⟩
    exact ⟨_, (getElem?_nodes_detach h).mpr ⟨node, hn, rfl, ne_empty_of_mem hm'⟩, hm'⟩

theorem getElem?_keysOf_detach (h : s.Sound) :
    (s.detach ids).store.keysOf[id]? = if id ∈ ids then none else s.keysOf[id]? :=
  (unlinks_of_sound h ids).keysOf id

theorem indexes_detach (h : s.Sound) : (s.detach ids).store.indexes id =
    if id ∈ ids then false else s.indexes id := by
  rw [indexes_eq_isSome, getElem?_keysOf_detach h, indexes_eq_isSome]
  split <;> rfl

theorem names_detach (h : s.Sound) : (s.detach ids).store.Names id key ↔ s.Names id key ∧ id ∉ ids := by
  unfold Names
  rw [getElem?_keysOf_detach h]
  split
  · rename_i hm
    exact ⟨fun ⟨_, e, _⟩ => (by cases e), fun hn => absurd hm hn.2⟩
  · rename_i hm
    exact ⟨fun hn => ⟨hn, hm⟩, fun hn => hn.1⟩

theorem not_dropped_eq (h : s.Sound) (hk : key ∈ s.nodes) :
    (!dropped (ids.foldl Unlinked.unlink { store := s }) key) =
      (s.detach ids).store.nodes.contains key := by
  have hu := unlinks_of_sound h ids
  rw [nodes_detach, Std.ExtTreeMap.contains_eq_isSome_getElem?, Std.ExtTreeMap.getElem?_filter',
    hu.nodes]
  obtain ⟨node, hn⟩ := Option.isSome_iff_exists.mp (Std.ExtTreeMap.mem_iff_isSome_getElem?.mp hk)
  rw [hn, Option.map_some, Option.filter_some]
  cases dropped (ids.foldl Unlinked.unlink { store := s }) key <;> rfl

/-- The rows that are left are those of the nodes that are left, in their order. -/
theorem rows_detach (h : s.Sound) :
    (s.detach ids).store.rows = s.rows.filter (s.detach ids).store.nodes.contains := by
  have hr : (s.detach ids).store.rows =
      (ids.foldl Unlinked.unlink { store := s }).store.rows.filter
        (!dropped (ids.foldl Unlinked.unlink { store := s }) ·) := rfl
  rw [hr, (unlinks_of_sound h ids).rows]
  exact List.filter_congr fun key hk => not_dropped_eq h (h.mem_rows.mp hk)

theorem positionsFrom_congr {p q : GroupKey → Bool} {keys : List GroupKey} (i : Nat)
    (h : ∀ key ∈ keys, p key = q key) : positionsFrom p i keys = positionsFrom q i keys := by
  induction keys generalizing i with
  | nil => rfl
  | cons key keys ih =>
    rw [positionsFrom, positionsFrom, ih (i + 1) fun k hk => h k (List.mem_cons_of_mem _ hk),
      h key List.mem_cons_self]

/-- The places told are those of the rows that are gone. -/
theorem positions_detach (h : s.Sound) : (s.detach ids).positions =
    positionsFrom (fun key => !(s.detach ids).store.nodes.contains key) 0 s.rows := by
  refine positionsFrom_congr 0 fun key hk => ?_
  rw [← not_dropped_eq h (h.mem_rows.mp hk), Bool.not_not]
  rfl

/-- The nodes told to have lost members are those that have, and are still there. -/
theorem mem_shrunk_detach (h : s.Sound) : key ∈ (s.detach ids).shrunk ↔
    key ∈ (s.detach ids).store.nodes ∧ ∃ id ∈ ids, s.Links key id := by
  show key ∈ List.filter _ (Std.ExtTreeSet.toList _) ↔ _
  rw [List.mem_filter, Std.ExtTreeSet.mem_toList, (unlinks_of_sound h ids).touched, and_comm]
  refine and_congr Std.ExtTreeMap.mem_iff_contains.symm
    ⟨fun ht => ht.elim (fun ht => ?_) fun ht => ht, Or.inr⟩
  exact absurd ht Std.ExtTreeSet.not_mem_empty

/-- **Taking items out leaves the store sound.** -/
theorem Sound.detach (h : s.Sound) (ids : List ItemId) : (s.detach ids).store.Sound where
  keyed {key node'} hn' := by
    obtain ⟨node, hn, rfl, -⟩ := (getElem?_nodes_detach h).mp hn'
    exact (h.keyed hn : node.key = key)
  links_iff {key id} := by rw [links_detach h, names_detach h, h.links_iff]
  inhabited {key node'} hn' := by
    obtain ⟨node, -, -, hne⟩ := (getElem?_nodes_detach h).mp hn'
    exact hne
  indexed {id keys} hk := by
    rw [getElem?_keysOf_detach h] at hk
    split at hk
    · cases hk
    · exact h.indexed hk
  nodup := by
    rw [rows_detach h]
    exact h.nodup.sublist List.filter_sublist
  mem_rows {key} := by
    rw [rows_detach h, List.mem_filter, Std.ExtTreeMap.mem_iff_contains]
    refine ⟨fun hm => hm.2, fun hc => ⟨?_, hc⟩⟩
    obtain ⟨node', hn'⟩ := Option.isSome_iff_exists.mp
      (Std.ExtTreeMap.mem_iff_isSome_getElem?.mp (Std.ExtTreeMap.mem_iff_contains.mpr hc))
    obtain ⟨node, hn, -, -⟩ := (getElem?_nodes_detach h).mp hn'
    exact h.mem_rows.mpr (Std.ExtTreeMap.mem_iff_isSome_getElem?.mpr (by rw [hn]; rfl))

end Left

/-! ## 4. Items that are not indexed -/

theorem removed_foldl_unlink {u : Unlinked} {ids : List ItemId}
    (h : (ids.foldl Unlinked.unlink u).removed = 0) :
    u.removed = 0 ∧ ∀ id ∈ ids, u.store.keysOf[id]? = none := by
  induction ids generalizing u with
  | nil => exact ⟨h, fun _ h => absurd h List.not_mem_nil⟩
  | cons id ids ih =>
    obtain ⟨hr, hk⟩ := ih h
    cases hid : u.store.keysOf[id]? with
    | none =>
      have e : u.unlink id = u := by
        unfold Unlinked.unlink
        rw [hid]
      rw [e] at hr hk
      refine ⟨hr, fun a ha => ?_⟩
      rcases List.mem_cons.mp ha with rfl | ha
      · exact hid
      · exact hk a ha
    | some keys =>
      unfold Unlinked.unlink at hr
      rw [hid] at hr
      exact absurd hr (Nat.succ_ne_zero _)

theorem foldl_unlink_of_none {u : Unlinked} {ids : List ItemId}
    (h : ∀ id ∈ ids, u.store.keysOf[id]? = none) : ids.foldl Unlinked.unlink u = u := by
  induction ids with
  | nil => rfl
  | cons id ids ih =>
    have e : u.unlink id = u := by
      unfold Unlinked.unlink
      rw [h id List.mem_cons_self]
    rw [List.foldl_cons, e]
    exact ih fun a ha => h a (List.mem_cons_of_mem _ ha)

theorem removed_detach_of_none {s : Store} {ids : List ItemId} (h : ∀ id ∈ ids, s.keysOf[id]? = none) :
    (s.detach ids).removed = 0 := by
  have e : ids.foldl Unlinked.unlink { store := s } = { store := s } := foldl_unlink_of_none h
  show (ids.foldl Unlinked.unlink { store := s }).removed = 0
  rw [e]

theorem dropNodes_of_none (s : Store) : s.dropNodes (fun _ => false) = s := by
  have hn : s.nodes.filter (fun _ _ => !false) = s.nodes := by
    refine Std.ExtTreeMap.ext_getElem? fun key => ?_
    rw [Std.ExtTreeMap.getElem?_filter']
    cases s.nodes[key]? <;> rfl
  have hr : s.rows.filter (fun _ => !false) = s.rows := List.filter_eq_self.mpr fun _ _ => rfl
  rw [dropNodes, hn, hr]

theorem positionsFrom_of_none (i : Nat) (keys : List GroupKey) :
    positionsFrom (fun _ => false) i keys = [] := by
  induction keys generalizing i with
  | nil => rfl
  | cons key keys ih => rw [positionsFrom, ih]; rfl

/-- When none of the items was indexed, the store is as it was and nothing is told. -/
theorem store_detach_of_removed_eq_zero {s : Store} {ids : List ItemId}
    (h : (s.detach ids).removed = 0) :
    (s.detach ids).store = s ∧ (s.detach ids).positions = [] ∧ (s.detach ids).shrunk = [] := by
  have hk : ∀ id ∈ ids, s.keysOf[id]? = none := (removed_foldl_unlink (u := { store := s }) h).2
  have e : ids.foldl Unlinked.unlink { store := s } = { store := s } := foldl_unlink_of_none hk
  have stays : (fun key => dropped { store := s } key) = fun _ => false := by
    funext key
    unfold dropped
    rw [Std.ExtTreeSet.contains_empty, Bool.false_and]
  have hs : (s.detach ids).store = s.dropNodes fun _ => false := by
    rw [← stays]
    exact congrArg (fun u : Unlinked => u.store.dropNodes fun key => dropped u key) e
  have hp : (s.detach ids).positions = positionsFrom (fun _ => false) 0 s.rows := by
    rw [← stays, ← e]
    rfl
  refine ⟨by rw [hs, dropNodes_of_none], by rw [hp, positionsFrom_of_none], ?_⟩
  show (ids.foldl Unlinked.unlink { store := s }).touched.toList.filter _ = []
  rw [e, Std.ExtTreeSet.toList_eq_nil_iff.mpr rfl, List.filter_nil]

end Store

end MediaIndex
