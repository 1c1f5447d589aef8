import Mathlib.Data.List.InsertIdx
import MediaIndex.Proofs.Store.Merge

/-!
# What the nodes of a store show

Every node shows the values its key was made of, in the columns that are visible. Together with the
keys of the items this fixes the nodes: the order of the rows is all that two stores can differ in.

* `Store.Displays` -- the nodes show the values of their keys in the visible columns;
* `Displays.detach`, `Displays.take`, `Displays.hideColumn` -- the operations on a store keep this;
* `Displays.nodes_eq` -- stores with the same keys of items have the same nodes;
* `ofNodes_nodesInOrder` -- and the same summary.
-/

namespace MediaIndex.Store

variable {s s' : Store} {visible : List Nat} {key : GroupKey} {node : GroupNode}

/-! ## 1. Values shown -/

/-- Every node shows the values of its key in the visible columns. -/
def Displays (s : Store) (visible : List Nat) : Prop :=
  ∀ ⦃key : GroupKey⦄ ⦃node : GroupNode⦄, s.nodes[key]? = some node →
    ∃ values, Separable values ∧ GroupKey.compose values = key ∧ node.display = project visible values

theorem displays_empty (visible : List Nat) : Displays {} visible := by
  intro key node hn
  rw [Std.ExtTreeMap.getElem?_empty] at hn
  cases hn

theorem Displays.detach (h : s.Displays visible) (hs : s.Sound) (ids : List ItemId) :
    (s.detach ids).store.Displays visible := by
  intro key node hn
  obtain ⟨old, ho, rfl, -⟩ := (getElem?_nodes_detach hs).mp hn
  obtain ⟨values, hv, hk, hd⟩ := h ho
  exact ⟨values, hv, hk, hd⟩

/-- The nodes that a batch brings show the values of their groups, the others what they showed. -/
theorem Displays.take (h : s.Displays visible) (hs : s.Sound) {batch : Batch} (hb : batch.Sound) :
    (s.take visible batch).Displays visible := by
  intro key node hn
  rcases display_take hs hn with ⟨old, ho, e⟩ | ⟨group, hg, e⟩
  · rw [e]
    exact h ho
  · exact ⟨group.display, hb.separable hg, hb.compose hg, e⟩

theorem project_eraseIdx (visible : List Nat) (i : Nat) (values : List String) :
    project (visible.eraseIdx i) values = (project visible values).eraseIdx i := by
  unfold project
  rw [List.eraseIdx_map]

theorem Displays.hideColumn (h : s.Displays visible) (i : Nat) :
    (s.hideColumn i).Displays (visible.eraseIdx i) := by
  intro key node' hn'
  rw [getElem?_nodes_hideColumn] at hn'
  obtain ⟨node, hn, rfl⟩ := Option.map_eq_some_iff.mp hn'
  obtain ⟨values, hv, hk, hd⟩ := h hn
  refine ⟨values, hv, hk, ?_⟩
  show node.display.eraseIdx i = project (visible.eraseIdx i) values
  rw [project_eraseIdx, hd]

/-- A node shows one value in each visible column. -/
theorem Displays.length_display (h : s.Displays visible) (hn : s.nodes[key]? = some node) :
    node.display.length = visible.length := by
  obtain ⟨values, -, -, hd⟩ := h hn
  rw [hd, project, List.length_map]

/-! ## 2. Stores that differ in the order of their rows -/

theorem links_congr (hs : s.Sound) (hs' : s'.Sound) (hk : s'.keysOf = s.keysOf) (key : GroupKey)
    (id : ItemId) : s'.Links key id ↔ s.Links key id := by
  rw [hs.links_iff, hs'.links_iff, Names, hk, Names]

/-- **The keys of the items and the visible columns fix the nodes.** -/
theorem Displays.nodes_eq (h : s.Displays visible) (h' : s'.Displays visible) (hs : s.Sound)
    (hs' : s'.Sound) (hk : s'.keysOf = s.keysOf) : s'.nodes = s.nodes := by
  have hlinks := links_congr hs hs' hk
  refine Std.ExtTreeMap.ext_getElem? fun key => ?_
  have hmem : key ∈ s'.nodes ↔ key ∈ s.nodes := by
    rw [hs'.mem_nodes_iff, hs.mem_nodes_iff]
    exact exists_congr fun id => hlinks key id
  cases hn : s.nodes[key]? with
  | none =>
    refine Option.eq_none_iff_forall_ne_some.mpr fun node' hn' => ?_
    have hin := hmem.mp (Std.ExtTreeMap.mem_iff_isSome_getElem?.mpr (by rw [hn']; rfl))
    rw [Std.ExtTreeMap.mem_iff_isSome_getElem?, hn] at hin
    cases hin
  | some node =>
    have hin := hmem.mpr (Std.ExtTreeMap.mem_iff_isSome_getElem?.mpr (by rw [hn]; rfl))
    obtain ⟨node', hn'⟩ := Option.isSome_iff_exists.mp (Std.ExtTreeMap.mem_iff_isSome_getElem?.mp hin)
    obtain ⟨values, hv, hc, hd⟩ := h hn
    obtain ⟨values', hv', hc', hd'⟩ := h' hn'
    have hvalues : values' = values := hv'.compose_inj hv (hc'.trans hc.symm)
    have hmembers : node'.members = node.members := by
      refine Std.ExtTreeSet.ext_mem fun id => ?_
      rw [← links_iff_mem hn', ← links_iff_mem hn, hlinks]
    have hdisplay : node'.display = node.display := by rw [hd', hvalues, hd]
    have hkey : node'.key = node.key := (hs'.keyed hn').trans (hs.keyed hn).symm
    rw [hn']
    cases node
    cases node'
    cases hkey
    cases hdisplay
    cases hmembers
    rfl

/-- Stores with the same nodes list them in orders that differ by a permutation. -/
theorem nodesInOrder_perm (hs : s.Sound) (hs' : s'.Sound) (hn : s'.nodes = s.nodes) :
    s'.nodesInOrder.Perm s.nodesInOrder := by
  have hrows : s'.rows.Perm s.rows := by
    refine (List.perm_ext_iff_of_nodup hs'.nodup hs.nodup).mpr fun key => ?_
    rw [hs'.mem_rows, hs.mem_rows, hn]
  unfold nodesInOrder
  rw [hn]
  exact hrows.filterMap _

/-- The number of different values in a column does not depend on the order of the nodes. -/
theorem countUnique_perm {nodes nodes' : List GroupNode} (h : nodes'.Perm nodes) (i : Nat) :
    SummaryNode.countUnique nodes' i = SummaryNode.countUnique nodes i := by
  have hset : Std.ExtTreeSet.ofList (nodes'.filterMap (·.display[i]?)) =
      Std.ExtTreeSet.ofList (nodes.filterMap (·.display[i]?)) := by
    refine Std.ExtTreeSet.ext_mem fun value => ?_
    rw [Std.ExtTreeSet.mem_ofList, Std.ExtTreeSet.mem_ofList, List.contains_iff_mem,
      List.contains_iff_mem]
    exact (h.filterMap _).mem_iff
  unfold SummaryNode.countUnique
  rw [hset]

/-- **Stores with the same nodes have the same summary.** -/
theorem ofNodes_nodesInOrder (hs : s.Sound) (hs' : s'.Sound) (hn : s'.nodes = s.nodes)
    (columns : List Column) :
    SummaryNode.ofNodes s'.nodesInOrder columns = SummaryNode.ofNodes s.nodesInOrder columns := by
  have hcount : SummaryNode.countUnique s'.nodesInOrder = SummaryNode.countUnique s.nodesInOrder :=
    funext (countUnique_perm (nodesInOrder_perm hs hs' hn))
  unfold SummaryNode.ofNodes
  rw [hcount]

end MediaIndex.Store
