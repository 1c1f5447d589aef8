import MediaIndex.Proofs.Index.Bringing
import MediaIndex.Proofs.RowView
import MediaIndex.Proofs.Store.Displayed

/-!
# The parts of the index agree

The index keeps its nodes, the rows, the keys of every item, the summary and the columns that are shown
each for itself. Between operations they agree, whatever was asked of the index, so the check of them
finds nothing wrong.

* `Layout.Sound` -- the columns that are shown are key columns, in their order;
* `Index.Arranged` -- nodes show the visible columns and the summary is that of the nodes;
* `Arranged.after` -- every step keeps this;
* `Index.Consistent`, `Consistent.problem?_eq_none` -- the parts agree, so no problem is found;
* `parts_agree` -- both hold after every run.
-/

namespace MediaIndex

/-! ## 1. Layouts -/

/-- The columns that are shown are those key columns whose places are visible, in ascending order. -/
structure Layout.Sound (l : Layout) : Prop where
  increasing : l.visible.Pairwise (· < ·)
  columns_eq : l.columns.map some = l.visible.map (l.keyColumns[·]?)

namespace Layout

variable {l : Layout}

theorem sound_ofColumns (columns : List Column) : (ofColumns columns).Sound where
  increasing := List.pairwise_lt_range
  columns_eq := by
    show columns.map some = (List.range columns.length).map (columns[·]?)
    refine List.ext_getElem? fun i => ?_
    rw [List.getElem?_map, List.getElem?_map]
    by_cases hi : i < columns.length
    · rw [List.getElem?_range hi, Option.map_some, List.getElem?_eq_getElem hi, Option.map_some]
    · rw [List.getElem?_eq_none (by omega), List.getElem?_eq_none (by rw [List.length_range]; omega)]
      rfl

theorem Sound.hide (h : l.Sound) (i : Nat) : (l.hide i).Sound where
  increasing := h.increasing.eraseIdx i
  columns_eq := by
    show (l.columns.eraseIdx i).map some = (l.visible.eraseIdx i).map (l.keyColumns[·]?)
    rw [← List.eraseIdx_map, ← List.eraseIdx_map, h.columns_eq]

theorem Sound.length_columns (h : l.Sound) : l.columns.length = l.visible.length := by
  have hl := congrArg List.length h.columns_eq
  rwa [List.length_map, List.length_map] at hl

/-- What is visible is a place among the key columns. -/
theorem Sound.visible_lt (h : l.Sound) {i : Nat} (hi : i ∈ l.visible) : i < l.keyColumns.length := by
  have hm : l.keyColumns[i]? ∈ l.columns.map some := h.columns_eq ▸ List.mem_map_of_mem hi
  obtain ⟨column, -, hc⟩ := List.mem_map.mp hm
  exact (List.getElem?_eq_some_iff.mp hc.symm).1

end Layout

namespace Index

variable {ix ix' : Index} {job : FinishedJob}

/-! ## 2. The summary -/

/-- The summary is that of the nodes as they are, when it is to be shown. -/
def Summed (ix : Index) : Prop := ix.summary = if ix.showSummary then some ix.currentSummary else none

theorem Summed.congr (h : ix.Summed) (hsum : ix'.summary = ix.summary)
    (hshow : ix'.showSummary = ix.showSummary) (hs : ix'.store = ix.store)
    (hl : ix'.layout = ix.layout) : ix'.Summed := by
  unfold Summed currentSummary at h ⊢
  rw [hsum, hshow, hs, hl, h]

theorem Summed.headed (h : ix.Summed) : ix.Headed := by
  unfold Headed
  rw [h]
  cases ix.showSummary with
  | true => rfl
  | false => rfl

/-- Bringing the summary up to date makes it that of the nodes. -/
theorem Headed.summed_refreshSummary (h : ix.Headed) : ix.refreshSummary.Summed := by
  unfold Index.refreshSummary
  cases hshow : ix.showSummary with
  | true =>
    rw [if_pos rfl]
    split
    · rename_i hsum
      unfold Summed
      rw [hsum, hshow, if_pos rfl]
    · unfold Summed
      exact (if_pos rfl).symm
  | false =>
    rw [if_neg Bool.false_ne_true]
    unfold Summed
    rw [hshow, if_neg Bool.false_ne_true]
    exact Option.isNone_iff_eq_none.mp (Option.isSome_eq_false_iff.mp (h.trans hshow))

theorem Summed.clear (h : ix.Summed) : ix.clear.Summed := by
  unfold Summed at h ⊢
  show (if ix.showSummary then some _ else ix.summary) = if ix.showSummary then some _ else none
  cases hshow : ix.showSummary with
  | true => rfl
  | false =>
    rw [hshow, if_neg Bool.false_ne_true] at h
    rw [if_neg Bool.false_ne_true, if_neg Bool.false_ne_true, h]

/-- A job that is taken in leaves the summary of the nodes it leaves. -/
theorem Headed.summed_takenIn (h : ix.Headed) (job : FinishedJob) : (ix.takenIn job).Summed := by
  unfold Index.takenIn
  split
  · have ho : ix.opened.Headed := h.congr rfl rfl
    exact (ho.clear.takenUp job true).summed_refreshSummary.congr rfl rfl rfl rfl
  · exact (h.takenUp job false).summed_refreshSummary

theorem Summed.delivered (h : ix.Summed) : ix.delivered.Summed := by
  rcases ix.delivered_cases with ⟨-, e⟩ | ⟨job, rest, -, e⟩
  · rw [e]
    exact h
  · rw [e]
    unfold applied
    split
    · exact h.congr rfl rfl rfl rfl
    · have ha : (ix.popped rest).applying.Headed := h.headed.congr rfl rfl
      exact (ha.summed_takenIn job).congr rfl rfl rfl rfl

/-! ## 3. What is shown -/

/-- The layout is sound, the nodes show its visible columns, and the summary is that of the nodes. -/
structure Arranged (ix : Index) : Prop where
  layout : ix.layout.Sound
  displays : ix.store.Displays ix.layout.visible
  summed : ix.Summed

theorem arranged_ofOptions (extractor : Extractor) (options : IndexOptions) :
    (ofOptions extractor options).Arranged where
  layout := Layout.sound_ofColumns _
  displays := Store.displays_empty _
  summed := rfl

theorem Arranged.congr (h : ix.Arranged) (hl : ix'.layout = ix.layout) (hs : ix'.store = ix.store)
    (hsum : ix'.summary = ix.summary) (hshow : ix'.showSummary = ix.showSummary) : ix'.Arranged where
  layout := hl ▸ h.layout
  displays := by
    rw [hl, hs]
    exact h.displays
  summed := h.summed.congr hsum hshow hs hl

theorem Arranged.dispatchSome (h : ix.Arranged) (kind : JobKind) (items : List Item) :
    (ix.dispatchSome kind items).2.Arranged :=
  dispatchSome_induct (P := fun r => r.2.Arranged) (fun _ => h) (h.congr rfl rfl rfl rfl)

theorem sound_layout_clear (h : ix.layout.Sound) : ix.clear.layout.Sound := by
  unfold clear
  dsimp only
  split
  · exact Layout.sound_ofColumns _
  · exact h

theorem Arranged.clear (h : ix.Arranged) : ix.clear.Arranged where
  layout := sound_layout_clear h.layout
  displays := Store.displays_empty _
  summed := h.summed.clear

theorem Arranged.rebuilt (h : ix.Arranged) (columns : List Column) (items : List Item) :
    (ix.rebuilt columns items).Arranged := by
  unfold Index.rebuilt
  split
  · have ha : (ix.opened.adopting columns).Arranged := h.congr rfl rfl rfl rfl
    exact ha.clear.congr rfl rfl rfl rfl
  · exact h.congr rfl rfl rfl rfl

/-- The layout and the store after the summary has been brought up to date are those before. -/
theorem arranged_refreshSummary (hl : ix.layout.Sound) (hd : ix.store.Displays ix.layout.visible)
    (hh : ix.Headed) : ix.refreshSummary.Arranged := by
  have hsummed := hh.summed_refreshSummary
  obtain ⟨summary, notifier, e⟩ := ix.refreshSummary_eq
  rw [e] at hsummed ⊢
  exact ⟨hl, hd, hsummed⟩

theorem Arranged.removed (h : ix.Arranged) (hs : ix.store.Sound) (ids : List ItemId) :
    (ix.removed ids).Arranged := by
  have hd : ((ix.buried ids).detached ids).store.Displays ix.layout.visible := h.displays.detach hs ids
  unfold Index.removed
  split
  · rename_i hnone
    -- nothing was indexed, so the summary is still that of the nodes
    have hsame : ((ix.buried ids).detached ids).store = ix.store :=
      (Store.store_detach_of_removed_eq_zero hnone).1
    exact h.congr rfl hsame rfl rfl
  · exact arranged_refreshSummary h.layout hd (h.summed.headed.congr rfl rfl)

theorem Arranged.hidden (h : ix.Arranged) (i : Nat) : (ix.hidden i).Arranged := by
  unfold Index.hidden
  split
  · exact h
  · rename_i column _
    have hd : (ix.narrowed i column).store.Displays (ix.layout.visible.eraseIdx i) :=
      h.displays.hideColumn i
    exact arranged_refreshSummary (h.layout.hide i) hd (h.summed.headed.congr rfl rfl)

theorem Arranged.summarised (h : ix.Arranged) (shown : Bool) : (ix.summarised shown).Arranged := by
  unfold Index.summarised
  split
  · exact h
  · exact ⟨h.layout, h.displays, rfl⟩

/-- The index that a job meets has a sound layout, and its nodes show the visible columns of it. -/
theorem Arranged.met (h : ix.Arranged) : ix.met.Arranged := by
  unfold Index.met
  split
  · exact h.clear
  · exact h

theorem Arranged.delivered (h : ix.Arranged) (ho : ix.Coherent) : ix.delivered.Arranged := by
  have hsummed := h.summed.delivered
  rcases ix.delivered_cases with ⟨-, e⟩ | ⟨job, rest, hf, -⟩
  · rw [e]
    exact h
  · have hpop : (ix.popped rest).Arranged := h.congr rfl rfl rfl rfl
    have happlying : (ix.popped rest).applying.Arranged := h.congr rfl rfl rfl rfl
    have hmet : (ix.popped rest).applying.met.Arranged := happlying.met
    obtain ⟨stage, summary, notifier, batchesApplied, resets, hout, e⟩ := delivered_outcome hf
    suffices hs : stage.layout.Sound ∧ stage.store.Displays stage.layout.visible by
      rw [e] at hsummed ⊢
      exact ⟨hs.1, hs.2, hsummed⟩
    cases hout with
    | dropped hr hs =>
      subst hs
      exact ⟨hpop.layout, hpop.displays⟩
    | taken hr hc hs =>
      subst hs
      have hb : job.batch = (ix.popped rest).worker.grouper.compute job.items job.columns :=
        ho.worker.batch_eq job (hf ▸ List.mem_cons_self)
      have hstore : (ix.popped rest).met.store.Sound := by
        rw [met_popped]
        exact ho.store_met
      refine ⟨hmet.layout, ?_⟩
      have ht := hpop.met.displays.take hstore ((ix.popped rest).sound_wanted hb)
      rw [met_applying]
      exact ht
    | again hr hc hs =>
      subst hs
      rw [resubmitted_eq]
      exact ⟨(hmet.dispatchSome _ _).layout, (hmet.dispatchSome _ _).displays⟩

/-- **Every step leaves the nodes showing the visible columns, and the summary that of the nodes.** -/
theorem Arranged.after (h : ix.Arranged) (ho : ix.Orderly) (s : Step) : (ix.after s).Arranged := by
  cases s with
  | reset columns items => exact h.rebuilt columns items
  | fullReload items => exact h.rebuilt _ items
  | add items => exact h.dispatchSome .add _
  | update items =>
    exact updated_induct (P := Arranged) h fun _ kind part _ _ h => h.dispatchSome kind part
  | remove ids => exact h.removed ho.store ids
  | hideColumn i => exact h.hidden i
  | setSummaryShown shown => exact h.summarised shown
  | decorationReady id => exact h.congr rfl rfl rfl rfl
  | subscribe => exact h.congr rfl rfl rfl rfl
  | start => exact h.congr rfl rfl rfl rfl
  | finish => exact h.congr rfl rfl rfl rfl
  | deliver => exact h.delivered ho.toCoherent

theorem Arranged.foldl_after (h : ix.Arranged) (ho : ix.Orderly) (steps : List Step) :
    (steps.foldl Index.after ix).Arranged := by
  induction steps generalizing ix with
  | nil => exact h
  | cons s steps ih => exact ih (h.after ho s) (ho.after s)

/-! ## 4. Agreement -/

/-- The parts of the index agree, read through its look-ups. -/
structure Consistent (ix : Index) : Prop where
  /-- An item is in a node exactly when the key of the node is recorded for it. -/
  member_iff : ∀ id key, (∃ node, ix.node? key = some node ∧ id ∈ node.members) ↔
    ∃ keys, ix.keysOf? id = some keys ∧ key ∈ keys
  /-- A node has the key it is found under, and has members. -/
  node : ∀ key node, ix.node? key = some node → node.key = key ∧ node.members ≠ ∅
  /-- An item that is recorded has keys. -/
  keys_ne : ∀ id keys, ix.keysOf? id = some keys → keys ≠ ∅
  /-- The rows list every node once. -/
  rows_nodup : ix.store.rows.Nodup
  mem_rows : ∀ key, key ∈ ix.store.rows ↔ ∃ node, ix.node? key = some node
  /-- The summary is there when it is to be shown, and is that of the nodes. -/
  summary_eq : ix.summary = if ix.showSummary then some (.ofNodes ix.nodes ix.layout.columns) else none
  /-- The columns that are shown are key columns, in their order. -/
  visible_increasing : ix.layout.visible.Pairwise (· < ·)
  visible_lt : ∀ i ∈ ix.layout.visible, i < ix.layout.keyColumns.length
  columns_eq : ix.layout.columns.map some = ix.layout.visible.map (ix.layout.keyColumns[·]?)
  /-- A node shows one value in each of them. -/
  length_display : ∀ key node, ix.node? key = some node → node.display.length = ix.layout.columns.length

theorem Arranged.consistent (h : ix.Arranged) (hs : ix.store.Sound) : ix.Consistent where
  member_iff _ _ := hs.links_iff
  node _ _ hn := ⟨hs.keyed hn, hs.inhabited hn⟩
  keys_ne _ _ hk := hs.indexed hk
  rows_nodup := hs.nodup
  mem_rows key := by
    rw [hs.mem_rows, Std.ExtTreeMap.mem_iff_isSome_getElem?]
    exact Option.isSome_iff_exists
  summary_eq := h.summed
  visible_increasing := h.layout.increasing
  visible_lt _ hi := h.layout.visible_lt hi
  columns_eq := h.layout.columns_eq
  length_display _ _ hn := (h.displays.length_display hn).trans h.layout.length_columns.symm

section Check

variable (h : ix.Consistent)

include h

/-- No recorded item is without keys, and every node it names has it. -/
theorem Consistent.itemProblem?_eq_none {id : ItemId} {keys : KeySet} (hk : ix.keysOf? id = some keys) :
    ix.itemProblem? id keys = none := by
  have hne : keys.isEmpty = false := Std.ExtTreeSet.isEmpty_eq_false_iff.mpr (h.keys_ne id keys hk)
  unfold itemProblem?
  rw [hne, if_neg Bool.false_ne_true, List.findSome?_eq_none_iff]
  intro key hkey
  obtain ⟨node, hn, hm⟩ := (h.member_iff id key).mpr ⟨keys, hk, Std.ExtTreeSet.mem_toList.mp hkey⟩
  refine if_pos ?_
  rw [itemsOf?, hn]
  exact Std.ExtTreeSet.mem_iff_contains.mp hm

/-- No node is empty, and every item of it names it. -/
theorem Consistent.nodeProblem?_eq_none {key : GroupKey} {node : GroupNode}
    (hn : ix.node? key = some node) : ix.nodeProblem? key node = none := by
  have hne : node.members.isEmpty = false :=
    Std.ExtTreeSet.isEmpty_eq_false_iff.mpr (h.node key node hn).2
  unfold nodeProblem?
  rw [hne, if_neg Bool.false_ne_true, List.findSome?_eq_none_iff]
  intro id hid
  obtain ⟨keys, hk, hkey⟩ := (h.member_iff id key).mp ⟨node, hn, Std.ExtTreeSet.mem_toList.mp hid⟩
  refine if_pos ?_
  rw [hk]
  exact Std.ExtTreeSet.mem_iff_contains.mp hkey

/-- There are as many rows as nodes. -/
theorem Consistent.length_rows : ix.store.rows.length = ix.store.nodes.size := by
  rw [← Std.ExtTreeMap.length_keys]
  refine ((List.perm_ext_iff_of_nodup h.rows_nodup Std.ExtTreeMap.nodup_keys).mpr fun key => ?_).length_eq
  rw [Std.ExtTreeMap.mem_keys, Std.ExtTreeMap.mem_iff_isSome_getElem?, h.mem_rows]
  exact Option.isSome_iff_exists.symm

/-- **When the parts agree the check of them finds nothing wrong.** -/
theorem Consistent.problem?_eq_none : ix.problem? = none := by
  have hitems : ix.store.keysOf.toList.findSome? (fun entry => ix.itemProblem? entry.1 entry.2) = none :=
    List.findSome?_eq_none_iff.mpr fun entry hm =>
      h.itemProblem?_eq_none (Std.ExtTreeMap.mem_toList_iff_getElem?_eq_some.mp hm)
  have hnodes : ix.store.nodes.toList.findSome? (fun entry => ix.nodeProblem? entry.1 entry.2) = none :=
    List.findSome?_eq_none_iff.mpr fun entry hm =>
      h.nodeProblem?_eq_none (Std.ExtTreeMap.mem_toList_iff_getElem?_eq_some.mp hm)
  have hrows : (ix.store.rows.length == ix.store.nodes.size &&
      ix.store.rows.all ix.store.nodes.contains) = true := by
    rw [Bool.and_eq_true, beq_iff_eq, List.all_eq_true]
    refine ⟨h.length_rows, fun key hk => ?_⟩
    rw [Std.ExtTreeMap.contains_eq_isSome_getElem?]
    exact Option.isSome_iff_exists.mpr ((h.mem_rows key).mp hk)
  have hsummary : (ix.showSummary == ix.summary.isSome) = true := by
    rw [h.summary_eq]
    cases ix.showSummary with
    | true => rfl
    | false => rfl
  unfold problem?
  rw [hitems, hnodes, if_pos hrows, if_pos hsummary]
  rfl

end Check

/-- **The parts of the index agree after every run**, whatever is asked of it and however jobs and
    deliveries interleave, also when a request brings an item twice. So the check of them finds nothing
    wrong. -/
theorem parts_agree (extractor : Extractor) (options : IndexOptions) (steps : List Step) :
    ∃ ix, (ofOptions extractor options).run steps = .ok ix ∧ ix.Consistent ∧ ix.problem? = none := by
  have ho := orderly_ofOptions extractor options
  have ha := (arranged_ofOptions extractor options).foldl_after ho steps
  have hc := ha.consistent (ho.foldl_after steps).store
  exact ⟨_, run_eq ho.quiet steps, hc, hc.problem?_eq_none⟩

end Index

end MediaIndex
