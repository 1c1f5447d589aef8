import MediaIndex.Proofs.RowView

/-!
# Rows and nodes find each other

The row list names every node once, with the summary before all groups. So looking up the node of a row
and looking up the row of a node undo each other, and the nodes of some keys come in the order of their rows.

* `nodup_refs`, `rowOf_eq_some_iff` -- no name has two rows, and a name is found at its row;
* `mem_nodes_iff` -- the nodes in row order are those that are found by their keys;
* `Index.named?`, `Index.Above` -- the node that a name stands for, and the order of rows;
* `Corresponds`, `rows_and_nodes_correspond` -- rows and nodes correspond, after every run.
-/

namespace MediaIndex.Index

variable {ix : Index}

/-! ## 1. Names of rows -/

/-- **No two rows have the same name.** -/
theorem nodup_refs (hs : ix.store.Sound) : ix.refs.Nodup := by
  have hgroups : (ix.store.rows.map NodeRef.group).Nodup :=
    hs.nodup.map fun _ _ e => NodeRef.group.inj e
  unfold refs
  cases ix.summary with
  | none => exact hgroups
  | some summary => exact List.nodup_cons.mpr ⟨by simp, hgroups⟩

/-- The row of a name is its place in the list of all names. -/
theorem rowOf_eq_findIdx? (ref : NodeRef) : ix.rowOf ref = ix.refs.findIdx? (· == ref) := by
  have hlen : (ix.summary.toList.map fun _ => NodeRef.summary).length = ix.rowOffset := length_summary
  rw [refs, List.findIdx?_append, List.findIdx?_map, List.findIdx?_map, hlen]
  cases ref with
  | summary =>
    have hnone : ix.store.rows.findIdx? ((· == NodeRef.summary) ∘ NodeRef.group) = none :=
      List.findIdx?_eq_none_iff.mpr fun _ _ => rfl
    rw [hnone, rowOf]
    cases ix.summary with
    | none => rfl
    | some summary => rfl
  | group key =>
    have hnone : ix.summary.toList.findIdx? ((· == NodeRef.group key) ∘ fun _ => NodeRef.summary) = none :=
      List.findIdx?_eq_none_iff.mpr fun _ _ => rfl
    have hkey : ((· == NodeRef.group key) ∘ NodeRef.group) = (· == key) := by
      funext other
      exact Bool.eq_iff_iff.mpr (by rw [Function.comp, beq_iff_eq, beq_iff_eq, NodeRef.group.injEq])
    rw [hnone, hkey, Option.none_or, rowOf]

/-- **A name is found at the row that has it.** -/
theorem rowOf_eq_some_iff (hs : ix.store.Sound) {ref : NodeRef} {row : Nat} :
    ix.rowOf ref = some row ↔ ix.refs[row]? = some ref := by
  rw [rowOf_eq_findIdx?, List.findIdx?_eq_some_iff_getElem]
  constructor
  · intro h
    obtain ⟨hlt, href, -⟩ := h
    rw [List.getElem?_eq_getElem hlt, eq_of_beq href]
  · intro h
    obtain ⟨hlt, rfl⟩ := List.getElem?_eq_some_iff.mp h
    refine ⟨hlt, beq_self_eq_true _, fun j hj e => ?_⟩
    have hsame : j = row := (nodup_refs hs).getElem_inj_iff.mp (eq_of_beq e)
    exact Nat.ne_of_lt hj hsame

/-- A name of a row is found somewhere. -/
theorem exists_rowOf (hs : ix.store.Sound) {ref : NodeRef} (h : ref ∈ ix.refs) :
    ∃ row, ix.rowOf ref = some row := by
  obtain ⟨row, href⟩ := List.mem_iff_getElem?.mp h
  exact ⟨row, (rowOf_eq_some_iff hs).mpr href⟩

/-- A row shows a node of some name exactly when the name is found there. -/
theorem exists_nodeAtRow_iff (hs : ix.store.Sound) {ref : NodeRef} {row : Nat} :
    (∃ node, ix.nodeAtRow row = some node ∧ node.ref = ref) ↔ ix.rowOf ref = some row := by
  rw [rowOf_eq_some_iff hs, ← ref_nodeAtRow hs, Option.map_eq_some_iff]

/-! ## 2. Nodes in row order -/

theorem mem_rows_of_node? (hs : ix.store.Sound) {key : GroupKey} {node : GroupNode}
    (h : ix.node? key = some node) : key ∈ ix.store.rows :=
  hs.mem_rows.mpr (Std.ExtTreeMap.mem_iff_isSome_getElem?.mpr (Option.isSome_of_eq_some h))

theorem mem_nodes_iff (hs : ix.store.Sound) {node : GroupNode} :
    node ∈ ix.nodes ↔ ix.node? node.key = some node := by
  constructor
  · intro h
    obtain ⟨key, -, hn⟩ := List.mem_filterMap.mp h
    have hkey : node.key = key := hs.keyed hn
    rw [hkey]
    exact hn
  · intro h
    exact List.mem_filterMap.mpr ⟨node.key, mem_rows_of_node? hs h, h⟩

/-- The node that a name stands for. -/
def named? (ix : Index) : NodeRef → Option RowNode
  | .summary => ix.summary.map .summary
  | .group key => (ix.node? key).map .group

/-- What a row shows is what its name stands for. -/
theorem named?_ref_of_nodeAtRow (hs : ix.store.Sound) {row : Nat} {node : RowNode}
    (h : ix.nodeAtRow row = some node) : ix.named? node.ref = some node := by
  unfold nodeAtRow at h
  split at h
  · obtain ⟨summary, hsum, rfl⟩ := Option.map_eq_some_iff.mp h
    exact Option.map_eq_some_iff.mpr ⟨summary, hsum, rfl⟩
  · obtain ⟨key, -, h⟩ := Option.bind_eq_some_iff.mp h
    obtain ⟨group, hn, h⟩ := Option.bind_eq_some_iff.mp h
    cases h
    have hkey : group.key = key := hs.keyed hn
    refine Option.map_eq_some_iff.mpr ⟨group, ?_, rfl⟩
    rw [hkey]
    exact hn

/-- What has a name has a row. -/
theorem mem_refs_of_named? (hs : ix.store.Sound) {ref : NodeRef} {node : RowNode}
    (h : ix.named? ref = some node) : ref ∈ ix.refs := by
  cases ref with
  | summary =>
    obtain ⟨summary, hsum, -⟩ := Option.map_eq_some_iff.mp h
    exact summary_mem_refs.mpr (Option.isSome_of_eq_some hsum)
  | group key =>
    obtain ⟨group, hn, -⟩ := Option.map_eq_some_iff.mp h
    exact group_mem_refs.mpr (mem_rows_of_node? hs hn)

/-! ## 3. Rows and nodes -/

/-- The one name has a row above that of the other. -/
def Above (ix : Index) (ref ref' : NodeRef) : Prop :=
  ∃ row row', ix.rowOf ref = some row ∧ ix.rowOf ref' = some row' ∧ row < row'

theorem pairwise_above_refs (hs : ix.store.Sound) : ix.refs.Pairwise ix.Above := by
  rw [List.pairwise_iff_getElem]
  intro i j hi hj hlt
  exact ⟨i, j, (rowOf_eq_some_iff hs).mpr (List.getElem?_eq_getElem hi),
    (rowOf_eq_some_iff hs).mpr (List.getElem?_eq_getElem hj), hlt⟩

/-- The summary has row 0, when there is one. -/
theorem rowOf_summary_eq_some_iff {row : Nat} :
    ix.rowOf .summary = some row ↔ row = 0 ∧ ix.summary.isSome = true := by
  rw [rowOf]
  cases ix.summary with
  | none => simp
  | some summary => simp [eq_comm]

/-- The nodes of some keys come in the order of their rows. -/
theorem pairwise_above_nodesForKeys (hs : ix.store.Sound) (keys : List GroupKey) :
    (ix.nodesForKeys keys).Pairwise fun node node' => ix.Above (.group node.key) (.group node'.key) := by
  have hrows : (ix.store.rows.map NodeRef.group).Sublist ix.refs := List.sublist_append_right _ _
  have hnodes := (pairwise_above_refs hs).sublist hrows
  rw [← map_key_nodes hs, List.map_map, List.pairwise_map] at hnodes
  exact hnodes.sublist List.filter_sublist

/-- Rows and nodes correspond. -/
structure Corresponds (ix : Index) : Prop where
  /-- Every row there is shows a node, and the row of the node is this row. -/
  shown : ∀ row < ix.rowCount, ∃ node, ix.nodeAtRow row = some node ∧ ix.rowOf node.ref = some row
  /-- The row of a node shows the node. -/
  found : ∀ ref row, ix.rowOf ref = some row →
    ∃ node, ix.named? ref = some node ∧ ix.nodeAtRow row = some node
  /-- Every node has a row. -/
  placed : ∀ ref node, ix.named? ref = some node → ∃ row, ix.rowOf ref = some row
  /-- No row shows anything from the number of rows on. -/
  beyond : ∀ row, ix.rowCount ≤ row → ix.nodeAtRow row = none
  /-- The summary is in row 0 when it is to be shown, and nowhere else. -/
  summary_iff : ∀ row, (∃ summary, ix.nodeAtRow row = some (.summary summary)) ↔
    row = 0 ∧ ix.showSummary = true
  /-- The nodes of some keys are those there are, each listed once and in the order of their rows. -/
  wanted : ∀ keys node, node ∈ ix.nodesForKeys keys ↔ node.key ∈ keys ∧ ix.node? node.key = some node
  once : ∀ keys, (ix.nodesForKeys keys).Nodup
  ordered : ∀ keys, (ix.nodesForKeys keys).Pairwise fun node node' =>
    ix.Above (.group node.key) (.group node'.key)

theorem Headed.corresponds (h : ix.Headed) (hs : ix.store.Sound) : ix.Corresponds where
  shown row hrow := by
    have hlt : row < ix.refs.length := length_refs ▸ hrow
    obtain ⟨node, hn, -⟩ := (exists_nodeAtRow_iff hs).mpr
      ((rowOf_eq_some_iff hs).mpr (List.getElem?_eq_getElem hlt))
    exact ⟨node, hn, (exists_nodeAtRow_iff hs).mp ⟨node, hn, rfl⟩⟩
  found ref row hrow := by
    obtain ⟨node, hn, rfl⟩ := (exists_nodeAtRow_iff hs).mpr hrow
    exact ⟨node, named?_ref_of_nodeAtRow hs hn, hn⟩
  placed ref node hn := exists_rowOf hs (mem_refs_of_named? hs hn)
  beyond row hrow := by
    rw [← Option.map_eq_none_iff, ref_nodeAtRow hs]
    exact List.getElem?_eq_none (length_refs ▸ hrow)
  summary_iff row := by
    have hshown : ix.summary.isSome = ix.showSummary := h
    rw [← hshown, ← rowOf_summary_eq_some_iff, ← exists_nodeAtRow_iff hs]
    constructor
    · intro hrow
      obtain ⟨summary, hn⟩ := hrow
      exact ⟨.summary summary, hn, rfl⟩
    · intro hrow
      obtain ⟨node, hn, href⟩ := hrow
      cases node with
      | summary summary => exact ⟨summary, hn⟩
      | group node => cases href
  wanted keys node := by
    rw [nodesForKeys, List.mem_filter, mem_nodes_iff hs, List.contains_iff_mem, and_comm]
  once keys := by
    have hnodes : ix.nodes.Nodup := List.Nodup.of_map (·.key) (map_key_nodes hs ▸ hs.nodup)
    exact hnodes.sublist List.filter_sublist
  ordered keys := pairwise_above_nodesForKeys hs keys

/-- **Looking up rows and looking up nodes undo each other after every run**, whatever is asked of the index
    and however jobs are delivered. Every row there is shows a node whose row it is, the row of a node shows
    that node, the summary is in row 0 when it is to be shown, and no row comes after the last. The nodes
    of some keys, also when keys repeat or have no node, are listed once each in the order of their rows. -/
theorem rows_and_nodes_correspond (extractor : Extractor) (options : IndexOptions) (steps : List Step) :
    ∃ ix, (ofOptions extractor options).run steps = .ok ix ∧ ix.Corresponds := by
  have ho := orderly_ofOptions extractor options
  have hh := (headed_ofOptions extractor options).foldl_after steps
  exact ⟨_, run_eq ho.quiet steps, hh.corresponds (ho.foldl_after steps).store⟩

end MediaIndex.Index
