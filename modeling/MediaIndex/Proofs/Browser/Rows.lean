import MediaIndex.Browser.State
import MediaIndex.Proofs.Index.Deliveries
import MediaIndex.Proofs.RowLookup

/-!
# The rows that a query keeps

A browser lists rows by name. Each name it lists is that of a row, and the list changes only when the rows,
the nodes, the columns or the presence of the summary do.

* `exists_nodeAtRow`, `map_key_filter` -- a name leads to its row, and a query keeps some rows in order;
* `Browser.rowsOf`, `rowsFor_eq` -- the rows that a typed query keeps, from the rows of the index;
* `rowsOf_congr`, `rowsOf_fullReload`, `rowsOf_of_no_deliveries` -- what leaves them as they are;
* `Index.Columned`, `Columned.after` -- a column is shown, and one will be once a reset is carried out.
-/

namespace MediaIndex

namespace Index

variable {ix ix' : Index}

/-! ## 1. Rows by name -/

/-- A run without a delivery does not touch the index but for its worker. -/
theorem foldl_after_of_no_deliveries {moves : List Step} (hm : ∀ s ∈ moves, s.isInternal = true)
    (hd : ix.deliveries moves = []) : ∃ worker, moves.foldl after ix = { ix with worker } := by
  induction moves generalizing ix with
  | nil => exact ⟨ix.worker, rfl⟩
  | cons s moves ih =>
    rw [deliveries, List.append_eq_nil_iff] at hd
    obtain ⟨worker, hs⟩ : ∃ worker, ix.after s = { ix with worker } := by
      have hinternal : s.isInternal = true := hm s List.mem_cons_self
      cases s with
      | start => exact ⟨_, rfl⟩
      | finish => exact ⟨_, rfl⟩
      | deliver =>
        rcases ix.delivered_cases with ⟨-, e⟩ | ⟨job, rest, hf, -⟩
        · exact ⟨ix.worker, e⟩
        · rw [delivery_of_finished hf] at hd
          cases hd.1
      | _ => cases hinternal
    obtain ⟨worker', e⟩ := ih (fun s' h => hm s' (List.mem_cons_of_mem _ h)) hd.2
    exact ⟨worker', by rw [List.foldl_cons, e, hs]⟩

/-! ## 2. Columns that are shown -/

/-- A column is shown, and one will be when the pending reset is carried out. -/
structure Columned (ix : Index) : Prop where
  shown : ix.layout.columns ≠ []
  pending : ∀ columns, ix.pendingColumns = some columns → columns ≠ []

theorem columned_ofOptions (extractor : Extractor) (options : IndexOptions) :
    (ofOptions extractor options).Columned where
  shown := orUnclassified_ne_nil options.columns
  pending _ h := nomatch h

theorem Columned.congr (h : ix.Columned) (hl : ix'.layout = ix.layout)
    (hp : ix'.pendingColumns = ix.pendingColumns) : ix'.Columned := ⟨hl ▸ h.shown, hp ▸ h.pending⟩

theorem Columned.refreshSummary (h : ix.Columned) : ix.refreshSummary.Columned := by
  obtain ⟨summary, notifier, e⟩ := ix.refreshSummary_eq
  rw [e]
  exact h.congr rfl rfl

theorem Columned.dispatchSome (h : ix.Columned) (kind : JobKind) (items : List Item) :
    (ix.dispatchSome kind items).2.Columned :=
  dispatchSome_induct (P := fun r => r.2.Columned) (fun _ => h) (h.congr rfl rfl)

theorem Columned.clear (h : ix.Columned) : ix.clear.Columned := by
  refine ⟨?_, fun _ hp => nomatch hp⟩
  unfold Index.clear
  dsimp only
  split
  · rename_i columns hp
    exact h.pending columns hp
  · exact h.shown

theorem Columned.rebuilt (h : ix.Columned) (columns : List Column) (items : List Item) :
    (ix.rebuilt columns items).Columned := by
  have hadopting : (ix.adopting columns).Columned :=
    ⟨h.shown, fun _ hp => Option.some.inj hp ▸ orUnclassified_ne_nil columns⟩
  unfold Index.rebuilt
  split
  · have hopened : (ix.opened.adopting columns).Columned := hadopting.congr rfl rfl
    exact hopened.clear.congr rfl rfl
  · exact hadopting.congr rfl rfl

theorem Columned.removed (h : ix.Columned) (ids : List ItemId) : (ix.removed ids).Columned := by
  have hd : ((ix.buried ids).detached ids).Columned := h.congr rfl rfl
  unfold Index.removed
  split
  · exact hd
  · exact hd.refreshSummary

/-- Hiding a column that is not the only one leaves one to be shown, now and after a pending reset. -/
theorem Columned.hidden (h : ix.Columned) {i : Nat} (hw : ix.layout.columns.length ≠ 1) :
    (ix.hidden i).Columned := by
  unfold Index.hidden
  split
  · exact h
  · rename_i column _
    have hn : (ix.narrowed i column).Columned := by
      refine ⟨fun e => ?_, fun columns hp => ?_⟩
      · exact (List.eraseIdx_eq_nil_iff.mp e).elim h.shown fun h => hw h.1
      · obtain ⟨before, -, rfl⟩ := Option.map_eq_some_iff.mp hp
        exact orUnclassified_ne_nil _
    exact hn.refreshSummary

theorem Columned.delivered (h : ix.Columned) : ix.delivered.Columned := by
  rcases ix.delivered_cases with ⟨-, e⟩ | ⟨job, rest, hf, -⟩
  · rw [e]
    exact h
  · have hmet : (ix.popped rest).applying.met.Columned := by
      have happlying : (ix.popped rest).applying.Columned := h.congr rfl rfl
      unfold met
      split
      · exact happlying.clear
      · exact happlying
    obtain ⟨stage, summary, notifier, batchesApplied, resets, hout, e⟩ := delivered_outcome hf
    have hstage : stage.Columned := by
      cases hout with
      | dropped hr hs =>
        subst hs
        exact h.congr rfl rfl
      | taken hr hc hs =>
        subst hs
        exact hmet.congr rfl rfl
      | again hr hc hs =>
        subst hs
        rw [resubmitted_eq]
        exact hmet.dispatchSome .add _
    rw [e]
    exact hstage.congr rfl rfl

/-- **Every step leaves a column to be shown, unless it hides the only one.** -/
theorem Columned.after (h : ix.Columned) {s : Step}
    (hw : ∀ i, s = .hideColumn i → ix.layout.columns.length ≠ 1) : (ix.after s).Columned := by
  cases s with
  | reset columns items => exact h.rebuilt columns items
  | fullReload items => exact h.rebuilt _ items
  | add items => exact h.dispatchSome .add _
  | update items =>
    exact updated_induct (P := Columned) h fun _ kind part _ _ h => h.dispatchSome kind part
  | remove ids => exact h.removed ids
  | hideColumn i => exact h.hidden (hw i rfl)
  | setSummaryShown shown =>
    show (ix.summarised shown).Columned
    unfold summarised
    split
    · exact h
    · exact h.congr rfl rfl
  | decorationReady id => exact h.congr rfl rfl
  | subscribe => exact h.congr rfl rfl
  | start => exact h.congr rfl rfl
  | finish => exact h.congr rfl rfl
  | deliver => exact h.delivered

theorem Columned.foldl_after (h : ix.Columned) {steps : List Step}
    (hs : ∀ s ∈ steps, s.isInternal = true) : (steps.foldl Index.after ix).Columned := by
  induction steps generalizing ix with
  | nil => exact h
  | cons s steps ih =>
    have hinternal : s.isInternal = true := hs s List.mem_cons_self
    have hnext : (ix.after s).Columned := h.after fun i e => by
      rw [e] at hinternal
      cases hinternal
    exact ih hnext fun s' hm => hs s' (List.mem_cons_of_mem _ hm)

/-- What a browser relies on of the index that it shows. -/
structure Browsable (ix : Index) : Prop where
  orderly : ix.Orderly
  headed : ix.Headed
  columned : ix.Columned

theorem browsable_ofOptions (extractor : Extractor) (options : IndexOptions) :
    (ofOptions extractor options).Browsable where
  orderly := orderly_ofOptions extractor options
  headed := headed_ofOptions extractor options
  columned := columned_ofOptions extractor options

theorem Browsable.after (h : ix.Browsable) {s : Step}
    (hw : ∀ i, s = .hideColumn i → ix.layout.columns.length ≠ 1) : (ix.after s).Browsable where
  orderly := h.orderly.after s
  headed := h.headed.after s
  columned := h.columned.after hw

theorem Browsable.foldl_after (h : ix.Browsable) {steps : List Step}
    (hs : ∀ s ∈ steps, s.isInternal = true) : (steps.foldl Index.after ix).Browsable where
  orderly := h.orderly.foldl_after steps
  headed := h.headed.foldl_after steps
  columned := h.columned.foldl_after hs

end Index

/-! ## 3. The rows that a query keeps -/

namespace Browser

variable {ix ix' : Index} {query : String} {q : NodeQuery}

/-- The rows that a typed query keeps; none when it cannot be read. -/
def rowsOf (ix : Index) (query : String) : List NodeRef :=
  match NodeQuery.parse query with
  | .error _ => []
  | .ok q => rowsFor ix q

theorem rowsOf_of_error {e : IndexError} (h : NodeQuery.parse query = .error e) : rowsOf ix query = [] := by
  rw [rowsOf, h]

theorem rowsOf_of_ok (h : NodeQuery.parse query = .ok q) : rowsOf ix query = rowsFor ix q := by
  rw [rowsOf, h]

theorem rowsOf_congr (hs : ix'.store = ix.store) (hl : ix'.layout = ix.layout)
    (hsum : ix'.summary = ix.summary) : rowsOf ix' query = rowsOf ix query := by
  unfold rowsOf rowsFor Index.filter Index.nodes
  rw [hs, hl, hsum]

/-- Where there are no groups, the query can keep the summary only. -/
theorem rowsOf_of_no_rows (hr : ix.store.rows = []) (hr' : ix'.store.rows = [])
    (hsum : ix'.summary.isSome = ix.summary.isSome) : rowsOf ix' query = rowsOf ix query := by
  have hnone {ix : Index} (h : ix.store.rows = []) (q : NodeQuery) : ix.filter q = [] := by
    rw [Index.filter, Index.nodes, Store.nodesInOrder, h]
    rfl
  unfold rowsOf rowsFor
  simp only [hnone hr, hnone hr', hsum]

/-- **Asking for a reload leaves the listed rows as they are**, also when there is nothing to load and the
    reload is carried out at once. -/
theorem rowsOf_fullReload (ho : ix.Orderly) (hh : ix.Headed) (items : List Item) :
    rowsOf (ix.after (.fullReload items)) query = rowsOf ix query := by
  cases hb : ix.isBare items with
  | true =>
    have hheaded : (ix.after (.fullReload items)).Headed := hh.after _
    have hshown : (ix.after (.fullReload items)).showSummary = ix.showSummary := by
      show (ix.rebuilt _ items).showSummary = _
      rw [Index.rebuilt_of_bare hb]
      rfl
    have hsummary : (ix.after (.fullReload items)).summary.isSome = ix.summary.isSome :=
      hheaded.trans (hshown.trans hh.symm)
    have hnodes : ix.store.nodes.isEmpty = true := (Index.isBare_iff.mp hb).2.1
    have hrows : ix.store.rows = [] := by
      refine List.eq_nil_iff_forall_not_mem.mpr fun key hk => ?_
      have hm := ho.store.mem_rows.mp hk
      rw [Std.ExtTreeMap.isEmpty_iff.mp hnodes] at hm
      exact Std.ExtTreeMap.not_mem_empty hm
    have hnone : (ix.after (.fullReload items)).store.rows = [] := by
      show (ix.rebuilt _ items).store.rows = []
      rw [Index.rebuilt_of_bare hb]
      rfl
    exact rowsOf_of_no_rows hrows hnone hsummary
  | false =>
    have e : ix.after (.fullReload items) = ix.rebuilt (ix.pendingColumns.getD ix.layout.columns) items := rfl
    rw [e, Index.rebuilt, hb]
    exact rowsOf_congr rfl rfl rfl

/-- While no job is delivered the listed rows stay as they are. -/
theorem rowsOf_of_no_deliveries {moves : List Step} (hm : ∀ s ∈ moves, s.isInternal = true)
    (hd : ix.deliveries moves = []) : rowsOf (moves.foldl Index.after ix) query = rowsOf ix query := by
  obtain ⟨worker, e⟩ := Index.foldl_after_of_no_deliveries hm hd
  rw [e]
  exact rowsOf_congr rfl rfl rfl

end Browser

end MediaIndex
