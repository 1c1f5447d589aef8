import Mathlib.Data.Finset.Card
import Mathlib.Data.Finset.Image
import Mathlib.Data.List.Nodup
import MediaIndex.Proofs.Store.Displayed

/-!
# The rows of a store after a change

Taking items out drops the rows of the nodes that have no other member and leaves the others in their
order. Taking in a batch drops rows in the same way and puts the keys it brings anew at the end, in their
own order. None of this looks at what the nodes show.

* `Store.hasOther`, `Sound.rows_detach_eq` -- the rows that stay when items are taken out;
* `Sound.rows_take` -- the rows after a batch has been taken in;
* `removed_detach` -- how many items were taken out;
* `Sound.keysOf_eq` -- the members of the nodes fix the keys of the items;
* `Sound.take_hideColumn` -- hiding a column commutes with taking in a batch;
* `rows_take_empty`, `nodesInOrder_take_empty` -- a store that is filled from nothing.
-/

namespace MediaIndex.Store

variable {s s' : Store} {visible : List Nat} {batch : Batch} {key : GroupKey} {ids : List ItemId}
  {id : ItemId}

/-! ## 1. Rows that stay -/

/-- The node of the key has a member besides the given items. -/
def hasOther (s : Store) (ids : List ItemId) (key : GroupKey) : Bool :=
  s.nodes[key]?.any fun node => node.members.toList.any (!ids.contains ·)

theorem hasOther_iff : s.hasOther ids key = true ↔ ∃ id, s.Links key id ∧ id ∉ ids := by
  unfold hasOther
  cases hn : s.nodes[key]? with
  | none =>
    refine iff_of_false (fun h => by cases h) fun ⟨id, ⟨node, hn', _⟩, _⟩ => ?_
    rw [hn] at hn'
    cases hn'
  | some node =>
    simp only [Option.any_some, List.any_eq_true, Std.ExtTreeSet.mem_toList, Bool.not_eq_true',
      List.contains_eq_mem, decide_eq_false_iff_not, links_iff_mem hn]

/-- The nodes that are left are those that have another member. -/
theorem Sound.contains_nodes_detach (h : s.Sound) (ids : List ItemId) (key : GroupKey) :
    (s.detach ids).store.nodes.contains key = s.hasOther ids key := by
  rw [Bool.eq_iff_iff, ← Std.ExtTreeMap.mem_iff_contains, (h.detach ids).mem_nodes_iff, hasOther_iff]
  exact exists_congr fun id => links_detach h

/-- **The rows that stay are those of the nodes that have another member**, in the order they had. -/
theorem Sound.rows_detach_eq (h : s.Sound) (ids : List ItemId) :
    (s.detach ids).store.rows = s.rows.filter (s.hasOther ids) := by
  rw [rows_detach h]
  exact List.filter_congr fun key _ => h.contains_nodes_detach ids key

theorem keys_freshGroups :
    (s.freshGroups batch).map (·.1) = batch.groups.keys.filter (!s.nodes.contains ·) := by
  rw [freshGroups, ← Std.ExtTreeMap.map_fst_toList_eq_keys, List.filter_map]
  rfl

/-- **The rows after a batch are those that stay without the requested items, and behind them the keys
    that have no row then**, in the order of the keys. -/
theorem Sound.rows_take (h : s.Sound) (visible : List Nat) (batch : Batch) :
    (s.take visible batch).rows = s.rows.filter (s.hasOther batch.requested.toList) ++
      batch.groups.keys.filter
        (!(s.rows.filter (s.hasOther batch.requested.toList)).contains ·) := by
  have hd := h.detach batch.requested.toList
  rw [Store.take, rows_merge hd, h.rows_detach_eq, keys_freshGroups]
  refine congrArg _ (List.filter_congr fun key _ => congrArg _ ?_)
  rw [Bool.eq_iff_iff, ← Std.ExtTreeMap.mem_iff_contains, ← hd.mem_rows, h.rows_detach_eq,
    List.contains_iff_mem]

/-! ## 2. Items taken out -/

theorem removed_foldl_unlink_eq {u : Unlinked} (ids : List ItemId) :
    (ids.foldl Unlinked.unlink u).removed =
      u.removed + (ids.toFinset.filter fun id => u.store.indexes id = true).card := by
  induction ids generalizing u with
  | nil => rfl
  | cons id ids ih =>
    rw [List.foldl_cons, ih, List.toFinset_cons, Finset.filter_insert]
    cases hk : u.store.keysOf[id]? with
    | none =>
      have he : u.unlink id = u := by
        unfold Unlinked.unlink
        rw [hk]
      have hi : u.store.indexes id = false := by
        rw [indexes_eq_isSome, hk]
        rfl
      rw [he, hi, if_neg Bool.false_ne_true]
    | some keys =>
      have hr : (u.unlink id).removed = u.removed + 1 := by
        unfold Unlinked.unlink
        rw [hk]
      have hi : u.store.indexes id = true := by
        rw [indexes_eq_isSome, hk]
        rfl
      -- from here on the item is not indexed, so it is not counted again
      have hleft : (ids.toFinset.filter fun a => (u.unlink id).store.indexes a = true) =
          (ids.toFinset.filter fun a => u.store.indexes a = true).erase id := by
        ext a
        rw [Finset.mem_erase, Finset.mem_filter, Finset.mem_filter, indexes_eq_isSome,
          indexes_eq_isSome, getElem?_keysOf_unlink]
        by_cases e : a = id
        · simp [e]
        · simp [e]
      rw [hi, if_pos rfl, hr, hleft, ← Finset.card_erase_add_one (Finset.mem_insert_self id _),
        Finset.erase_insert_eq_erase]
      omega

/-- As many items are taken out as there are different ones among the named that were indexed. -/
theorem removed_detach (s : Store) (ids : List ItemId) :
    (s.detach ids).removed = (ids.toFinset.filter fun id => s.indexes id = true).card :=
  (removed_foldl_unlink_eq (u := { store := s }) ids).trans (Nat.zero_add _)

/-! ## 3. Hiding a column -/

/-- **The members of the nodes fix the keys of the items.** -/
theorem Sound.keysOf_eq (h : s.Sound) (h' : s'.Sound)
    (hl : ∀ key id, s'.Links key id ↔ s.Links key id) : s'.keysOf = s.keysOf := by
  refine Std.ExtTreeMap.ext_getElem? fun id => ?_
  cases hk : s.keysOf[id]? with
  | none =>
    refine h'.getElem?_keysOf_eq_none_iff.mpr fun key => ?_
    rw [hl]
    exact h.getElem?_keysOf_eq_none_iff.mp hk key
  | some keys =>
    obtain ⟨hne, hiff⟩ := h.getElem?_keysOf_eq_some_iff.mp hk
    refine h'.getElem?_keysOf_eq_some_iff.mpr ⟨hne, fun key => ?_⟩
    rw [hl]
    exact hiff key

theorem hasOther_hideColumn (i : Nat) : (s.hideColumn i).hasOther ids = s.hasOther ids := by
  funext key
  rw [Bool.eq_iff_iff, hasOther_iff, hasOther_iff]
  simp only [links_hideColumn]

/-- **Hiding a column commutes with taking in a batch**: new nodes are shown in the columns that are left,
    or in all of them and cut afterwards, with the same outcome. -/
theorem Sound.take_hideColumn (h : s.Sound) (hd : s.Displays visible) (hb : batch.Sound) (i : Nat) :
    (s.hideColumn i).take (visible.eraseIdx i) batch = (s.take visible batch).hideColumn i := by
  have hfirst : ((s.hideColumn i).take (visible.eraseIdx i) batch).Sound := (h.hideColumn i).take hb _
  have hlast : ((s.take visible batch).hideColumn i).Sound := (h.take hb visible).hideColumn i
  have hlinks (key : GroupKey) (id : ItemId) :
      ((s.hideColumn i).take (visible.eraseIdx i) batch).Links key id ↔
        ((s.take visible batch).hideColumn i).Links key id := by
    rw [links_take (h.hideColumn i), links_hideColumn, links_hideColumn, links_take h]
  have hkeys := hlast.keysOf_eq hfirst hlinks
  have hdfirst : ((s.hideColumn i).take (visible.eraseIdx i) batch).Displays (visible.eraseIdx i) :=
    (hd.hideColumn i).take (h.hideColumn i) hb
  have hdlast : ((s.take visible batch).hideColumn i).Displays (visible.eraseIdx i) :=
    (hd.take h hb).hideColumn i
  have hnodes := hdlast.nodes_eq hdfirst hlast hfirst hkeys
  have hrows : ((s.hideColumn i).take (visible.eraseIdx i) batch).rows =
      ((s.take visible batch).hideColumn i).rows := by
    rw [(h.hideColumn i).rows_take, hasOther_hideColumn]
    exact (h.rows_take visible batch).symm
  generalize (s.hideColumn i).take (visible.eraseIdx i) batch = first at hnodes hrows hkeys
  generalize (s.take visible batch).hideColumn i = last at hnodes hrows hkeys
  obtain ⟨nodes, rows, keysOf⟩ := first
  cases hnodes
  cases hrows
  cases hkeys
  rfl

/-! ## 4. A store filled from nothing -/

/-- A store that is filled from nothing lists the keys of the batch in their order. -/
theorem rows_take_empty (visible : List Nat) (batch : Batch) :
    (({} : Store).take visible batch).rows = batch.groups.keys := by
  rw [sound_empty.rows_take]
  exact List.filter_eq_self.mpr fun _ _ => rfl

theorem getElem?_nodes_take_empty (visible : List Nat) (batch : Batch) (key : GroupKey) :
    (({} : Store).take visible batch).nodes[key]? =
      batch.groups[key]?.map fun group => ⟨key, project visible group.display, group.members⟩ := by
  obtain ⟨mid, hg, ha⟩ := merge_parts sound_empty visible batch
  have hold (node : GroupNode) : mid.store.nodes[key]? ≠ some node := by
    intro hn
    have hm : key ∈ mid.store.nodes := Std.ExtTreeMap.mem_iff_isSome_getElem?.mpr (by rw [hn]; rfl)
    exact Std.ExtTreeMap.not_mem_empty (hg.mem_nodes.mp hm)
  refine Option.ext fun node => ?_
  rw [take_empty, ha.nodes, or_iff_right (hold node), Option.map_eq_some_iff]
  constructor
  · intro hx
    obtain ⟨hm, rfl⟩ := hx
    obtain ⟨k, group, -, hgr, e⟩ := exists_mem_freshNodes.mp ⟨node, hm, rfl⟩
    subst e
    exact ⟨group, hgr, rfl⟩
  · intro hx
    obtain ⟨group, hgr, rfl⟩ := hx
    have hk : key ∉ ({} : Store).nodes := Std.ExtTreeMap.not_mem_empty
    exact ⟨List.mem_map_of_mem (mem_freshGroups.mpr ⟨hgr, hk⟩), rfl⟩

/-- **A store that is filled from nothing shows the groups of the batch in the order of their keys.** -/
theorem nodesInOrder_take_empty (visible : List Nat) (batch : Batch) :
    (({} : Store).take visible batch).nodesInOrder =
      batch.groups.toList.map fun p => ⟨p.1, project visible p.2.display, p.2.members⟩ := by
  rw [nodesInOrder, rows_take_empty, ← Std.ExtTreeMap.map_fst_toList_eq_keys, List.filterMap_map,
    ← List.filterMap_eq_map]
  refine List.filterMap_congr fun p hp => ?_
  show (({} : Store).take visible batch).nodes[p.1]? = _
  rw [getElem?_nodes_take_empty, Std.ExtTreeMap.mem_toList_iff_getElem?_eq_some.mp hp]
  rfl

end MediaIndex.Store
