import MediaIndex.Index.Lookup
import MediaIndex.Proofs.Grouping.Partition
import MediaIndex.Proofs.Store.Rows
import MediaIndex.Proofs.Termination
import MediaIndex.Proofs.Text.Bytes

/-!
# The order of the rows

A row keeps its place among the others until its group has lost its last member. New rows come behind all
that are left, in the order of their keys, and a group that vanishes and is there again within one batch
gets a new row. So an index that is filled once lists its groups in the order of their keys.

* `Batch.ascending_keys` -- the keys of a batch ascend, byte by byte;
* `rows_after` -- only removals and deliveries change the rows;
* `TakesOut`, `takesOut_removed` -- what a removal comes to;
* `Delivers`, `delivers_delivered` -- what a delivery comes to, whatever becomes of the job;
* `Filling`, `Lists`, `lists_of_filling` -- an index that is filled by one job lists the groups of its batch;
* `rows_keep_their_order` -- all of it, after every run.
-/

namespace MediaIndex

/-- The keys of a batch ascend, byte by byte. -/
theorem Batch.ascending_keys (b : Batch) :
    b.groups.keys.Pairwise fun key later => bytesOf key.text < bytesOf later.text :=
  Std.ExtTreeMap.ordered_keys.imp bytesOf_lt_of_compare

namespace Index

variable {ix : Index} {job : FinishedJob} {rest : List FinishedJob}

/-! ## 1. Steps that leave the rows alone -/

theorem store_refreshSummary : ix.refreshSummary.store = ix.store := by
  obtain ⟨summary, notifier, e⟩ := ix.refreshSummary_eq
  rw [e]

/-- A reset empties the store at once only when it is empty already. -/
theorem rows_rebuilt (hs : ix.store.Sound) (columns : List Column) (items : List Item) :
    (ix.rebuilt columns items).store.rows = ix.store.rows := by
  cases hb : ix.isBare items with
  | true =>
    have hnone : ix.store.rows = [] := by
      refine List.eq_nil_iff_forall_not_mem.mpr fun key hk => ?_
      rw [hs.mem_rows, Std.ExtTreeMap.isEmpty_iff.mp (isBare_iff.mp hb).2.1] at hk
      exact Std.ExtTreeMap.not_mem_empty hk
    rw [rebuilt_of_bare hb, hnone]
    rfl
  | false =>
    rw [rebuilt, hb]
    rfl

theorem rows_dispatchSome (kind : JobKind) (items : List Item) :
    (ix.dispatchSome kind items).2.store.rows = ix.store.rows :=
  dispatchSome_induct (P := fun r => r.2.store.rows = _) (fun _ => rfl) rfl

theorem rows_hidden (i : Nat) : (ix.hidden i).store.rows = ix.store.rows := by
  unfold hidden
  split
  · rfl
  · rw [store_refreshSummary]
    rfl

/-- **Only removals and deliveries change the rows.** -/
theorem rows_after (hs : ix.store.Sound) {s : Step} (hr : ∀ ids, s ≠ .remove ids) (hd : s ≠ .deliver) :
    (ix.after s).store.rows = ix.store.rows := by
  cases s with
  | reset columns items => exact rows_rebuilt hs columns items
  | fullReload items => exact rows_rebuilt hs _ items
  | add items => exact rows_dispatchSome .add _
  | update items =>
    exact updated_induct (P := fun ix' => ix'.store.rows = ix.store.rows) rfl
      fun _ kind part _ _ h => (rows_dispatchSome kind part).trans h
  | remove ids => exact absurd rfl (hr ids)
  | hideColumn i => exact rows_hidden i
  | setSummaryShown shown =>
    show (ix.summarised shown).store.rows = _
    unfold summarised
    split <;> rfl
  | decorationReady id => rfl
  | subscribe => rfl
  | start => rfl
  | finish => rfl
  | deliver => exact absurd rfl hd

/-! ## 2. Removals -/

/-- The rows that stay when items are taken out: those of the groups that have another member. -/
def rowsWithout (ix : Index) (ids : List ItemId) : List GroupKey :=
  ix.store.rows.filter (ix.store.hasOther ids)

/-- What a removal comes to. -/
structure TakesOut (ix : Index) (ids : List ItemId) (count : Nat) (now : Index) : Prop where
  rows_eq : now.store.rows = ix.rowsWithout ids
  keysOf_eq : ∀ id, now.keysOf? id = if id ∈ ids then none else ix.keysOf? id
  /-- An item that is named twice counts once, one that is not indexed not at all. -/
  count_eq : count = (ids.toFinset.filter fun id => ix.store.indexes id = true).card

theorem store_removed (ids : List ItemId) : (ix.removed ids).store = (ix.store.detach ids).store := by
  unfold removed
  split
  · rfl
  · exact store_refreshSummary

/-- **A removal drops the rows of the groups that have no other member.** -/
theorem takesOut_removed (hs : ix.store.Sound) (ids : List ItemId) :
    ix.TakesOut ids (ix.store.detach ids).removed (ix.removed ids) where
  rows_eq := by
    rw [store_removed]
    exact hs.rows_detach_eq ids
  keysOf_eq id := by
    rw [keysOf?, store_removed]
    exact Store.getElem?_keysOf_detach hs
  count_eq := Store.removed_detach ix.store ids

/-! ## 3. Deliveries -/

theorem store_delivered_of_replaced (hf : ix.worker.finished = job :: rest)
    (hr : ix.replaces job = true) : ix.delivered.store = ix.store := by
  obtain ⟨stage, summary, notifier, batchesApplied, resets, hout, e⟩ := delivered_outcome hf
  rw [e]
  cases hout with
  | dropped _ hs =>
    rw [hs]
    rfl
  | taken hr' _ _ => exact absurd (hr'.symm.trans hr) Bool.false_ne_true
  | again hr' _ _ => exact absurd (hr'.symm.trans hr) Bool.false_ne_true

theorem store_delivered_of_fresh (hf : ix.worker.finished = job :: rest) (hr : ix.replaces job = false)
    (hc : job.columns = ix.met.layout.keyColumns) :
    ix.delivered.store = ix.met.store.take ix.met.layout.visible (ix.wanted job) := by
  obtain ⟨stage, summary, notifier, batchesApplied, resets, hout, e⟩ := delivered_outcome hf
  rw [e]
  cases hout with
  | dropped hr' _ => exact absurd (hr.symm.trans hr') Bool.false_ne_true
  | taken _ _ hs =>
    rw [hs, met_popped]
    rfl
  | again _ hc' _ =>
    rw [met_popped] at hc'
    exact absurd hc hc'

theorem store_delivered_of_stale (hf : ix.worker.finished = job :: rest) (hr : ix.replaces job = false)
    (hc : job.columns ≠ ix.met.layout.keyColumns) : ix.delivered.store = ix.met.store := by
  obtain ⟨stage, summary, notifier, batchesApplied, resets, hout, e⟩ := delivered_outcome hf
  rw [e]
  cases hout with
  | dropped hr' _ => exact absurd (hr.symm.trans hr') Bool.false_ne_true
  | taken _ hc' _ =>
    rw [met_popped] at hc'
    exact absurd hc' hc
  | again _ _ hs =>
    have hmet : (ix.popped rest).applying.met.store = ix.met.store := by
      rw [met_applying, met_popped]
      rfl
    rw [hs, ← hmet, resubmitted_eq]
    exact dispatchSome_induct (P := fun r => r.2.store = _) (fun _ => rfl) rfl

/-- What applying a job comes to. Its batch counts without the items that were removed after it had been
    submitted. -/
structure Delivers (ix : Index) (job : FinishedJob) (now : Index) : Prop where
  batch_eq : job.batch = ix.worker.grouper.compute job.items job.columns
  requested_iff : ∀ id, id ∈ (ix.wanted job).requested ↔
    id ∈ idsOf job.items ∧ ix.isTombstoned id job.ticket = false
  groups_iff : ∀ key, key ∈ (ix.wanted job).groups ↔ ∃ item ∈ job.items,
    ix.isTombstoned item.id job.ticket = false ∧ key ∈ ix.worker.grouper.keySet job.columns item
  ascending : (ix.wanted job).groups.keys.Pairwise fun key later => bytesOf key.text < bytesOf later.text
  /-- A batch for the columns in force: the rows that stay without its items, and then its keys that have
      no row. -/
  folded : ix.replaces job = false → ix.resetting = false → job.columns = ix.layout.keyColumns →
    now.store.rows = ix.rowsWithout (ix.wanted job).requested.toList ++ (ix.wanted job).groups.keys.filter
      (!(ix.rowsWithout (ix.wanted job).requested.toList).contains ·)
  /-- The items that it does not bring keep their keys. -/
  others : ix.replaces job = false → ix.resetting = false → job.columns = ix.layout.keyColumns →
    ∀ id, id ∉ (ix.wanted job).requested → now.keysOf? id = ix.keysOf? id
  /-- The first batch after a reset, when it is for the new columns: its keys. -/
  cleared : ix.replaces job = false → ix.resetting = true → job.columns = ix.dispatchColumns →
    now.store.rows = (ix.wanted job).groups.keys
  /-- A batch for other columns: nothing new. -/
  again : ix.replaces job = false → job.columns ≠ ix.dispatchColumns →
    now.store = if ix.resetting then {} else ix.store
  /-- A rebuild that a newer reset has replaced: nothing at all. -/
  replaced : ix.replaces job = true → now.store = ix.store

/-- **What a delivery comes to for the rows.** -/
theorem delivers_delivered (ho : ix.Coherent) (hf : ix.worker.finished = job :: rest) :
    ix.Delivers job ix.delivered := by
  have hb : job.batch = ix.worker.grouper.compute job.items job.columns :=
    ho.worker.batch_eq job (hf ▸ List.mem_cons_self)
  have hsound : (ix.wanted job).Sound := ix.sound_wanted hb
  have hcolumns : ix.met.layout.keyColumns = ix.dispatchColumns := ho.keyColumns_met
  have hfold (hr : ix.replaces job = false) (hn : ix.resetting = false)
      (hc : job.columns = ix.layout.keyColumns) :
      ix.delivered.store = ix.store.take ix.layout.visible (ix.wanted job) := by
    have hm := met_of_not_resetting hn
    have h := store_delivered_of_fresh hf hr (by rw [hm]; exact hc)
    rwa [hm] at h
  refine ⟨hb, fun id => ?_, fun key => ?_, Batch.ascending_keys _, fun hr hn hc => ?_,
    fun hr hn hc id hid => ?_, fun hr hn hc => ?_, fun hr hc => ?_, store_delivered_of_replaced hf⟩
  · rw [mem_requested_wanted_iff hb, mem_idsOf_kept]
  · rw [hsound.mem_groups_iff, wanted, hb]
    simp only [Batch.puts_without, Grouper.puts_compute]
    constructor
    · intro h
      obtain ⟨id, ⟨item, hm, rfl, hk⟩, ht⟩ := h
      exact ⟨item, hm, ht, hk⟩
    · intro h
      obtain ⟨item, hm, ht, hk⟩ := h
      exact ⟨item.id, ⟨item, hm, rfl, hk⟩, ht⟩
  · rw [hfold hr hn hc]
    exact ho.store.rows_take _ _
  · rw [keysOf?, hfold hr hn hc]
    refine Store.keysOf_take_of_not_requested ho.store hsound hid fun key hp => hid ?_
    exact (mem_requested_wanted_iff hb).mpr ((exists_puts_wanted hb).mp ⟨key, hp⟩)
  · rw [store_delivered_of_fresh hf hr (hc.trans hcolumns.symm), store_met, hn]
    exact Store.rows_take_empty _ _
  · rw [store_delivered_of_stale hf hr (hcolumns ▸ hc), store_met]

/-! ## 4. An index that is filled -/

variable {columns : List Column} {items : List Item}

/-- The index lists the groups of a batch in the order of their keys. -/
structure Lists (ix : Index) (b : Batch) : Prop where
  rows_eq : ix.store.rows = b.groups.keys
  nodes_eq : ix.nodes = b.groups.toList.map fun p => ⟨p.1, p.2.display, p.2.members⟩

/-- An index with one job and nothing else, until the job has filled it. -/
inductive Filling (ix : Index) (columns : List Column) (items : List Item) : Prop
  | awaits {job : Job} (hj : ix.jobs = [job]) (hc : job.columns = columns) (hi : job.items = items)
      (hr : job.kind = .reset → ix.latestReset = some job.ticket)
      (hl : ix.met.layout = .ofColumns columns) (hs : ix.store = {})
      (ht : ∀ id : ItemId, ix.tombstones[id]? = none)
  | filled (hj : ix.jobs = []) (hs : ix.store =
      ({} : Store).take (List.range columns.length) (ix.worker.grouper.compute items columns))

theorem Filling.withWorker (h : ix.Filling columns items) {worker : Worker}
    (hj : worker.jobs = ix.worker.jobs) (hg : worker.grouper = ix.worker.grouper) :
    Filling { ix with worker } columns items := by
  cases h with
  | awaits hjob hc hi hr hl hs ht =>
    have hmet : (Index.met { ix with worker }).layout = ix.met.layout := layout_met_congr rfl rfl rfl
    exact .awaits (hj.trans hjob) hc hi hr (hmet.trans hl) hs ht
  | filled hnone hs =>
    refine .filled (hj.trans hnone) (hs.trans ?_)
    show _ = Store.take _ _ (worker.grouper.compute items columns)
    rw [hg]

/-- The one job is for the columns in force and has not been replaced, so it fills the index. -/
theorem Filling.delivered (h : ix.Filling columns items) (ho : ix.Coherent) :
    ix.delivered.Filling columns items := by
  rcases ix.delivered_cases with ⟨-, e⟩ | ⟨job, rest, hf, -⟩
  · rw [e]
    exact h
  · have hjobs := jobs_popped hf
    cases h with
    | filled hnone _ => exact absurd (hjobs.symm.trans hnone) (List.cons_ne_nil _ _)
    | awaits hjob hc hi hr hl hs ht =>
      obtain ⟨rfl, hrest⟩ := List.cons.inj (hjobs.symm.trans hjob)
      have hfresh : job.columns = ix.met.layout.keyColumns := by
        rw [hl]
        exact hc
      have hreplaces : ix.replaces job = false := by
        refine Bool.eq_false_iff.mpr fun hx => ?_
        rw [replaces, Bool.and_eq_true, beq_iff_eq, bne_iff_ne] at hx
        exact hx.2 (hr hx.1)
      have hb : job.batch = ix.worker.grouper.compute items columns := by
        rw [← hc, ← hi]
        exact ho.worker.batch_eq job (hf ▸ List.mem_cons_self)
      have hwanted : ix.wanted job = ix.worker.grouper.compute items columns := by
        rw [wanted, hb]
        exact (ix.worker.grouper.sound_compute items).without_of_none fun id =>
          isTombstoned_eq_false (ht id) job.ticket
      have hmet : ix.met.store = {} := by
        rw [store_met, hs]
        exact ite_self _
      refine .filled ?_ ?_
      · rcases worker_delivered ho hf with ⟨-, e⟩ | ⟨hstale, -⟩
        · rw [jobs, e]
          exact hrest
        · exact absurd (hfresh.trans ho.keyColumns_met) hstale
      · rw [store_delivered_of_fresh hf hreplaces hfresh, hmet, hl, hwanted, grouper_delivered]
        rfl

/-- **Whatever the worker does and is delivered, the index is filled by the one job.** -/
theorem Filling.after (h : ix.Filling columns items) (ho : ix.Coherent) {s : Step}
    (hs : s.isInternal = true) : (ix.after s).Filling columns items := by
  cases s with
  | start => exact h.withWorker ix.worker.jobs_start ix.worker.grouper_start
  | finish => exact h.withWorker ix.worker.jobs_finish ix.worker.grouper_finish
  | deliver => exact h.delivered ho
  | _ => cases hs

theorem Filling.foldl_after (h : ix.Filling columns items) (ho : ix.Orderly) {moves : List Step}
    (hm : ∀ s ∈ moves, s.isInternal = true) : (moves.foldl Index.after ix).Filling columns items := by
  induction moves generalizing ix with
  | nil => exact h
  | cons s moves ih =>
    exact ih (h.after ho.toCoherent (hm s List.mem_cons_self)) (ho.after s) fun s' hs =>
      hm s' (List.mem_cons_of_mem _ hs)

/-- A group shows one value for each column. -/
theorem length_display_compute (g : Grouper) {key : GroupKey} {group : Group}
    (hg : (g.compute items columns).groups[key]? = some group) :
    group.display.length = (orUnclassified columns).length := by
  have hp := g.partitions_compute columns items
  obtain ⟨item, hm, vector, hv, rfl⟩ := (hp.keys key).mp
    (Std.ExtTreeMap.mem_iff_isSome_getElem?.mpr (by rw [hg]; rfl))
  obtain ⟨group', hg', rfl, -⟩ := hp.group item hm vector hv
  rw [hg] at hg'
  cases hg'
  exact List.Forall₂.length_eq hv

theorem project_range (display : List String) :
    Store.project (List.range display.length) display = display := by
  refine List.ext_getElem (by rw [Store.project, List.length_map, List.length_range]) fun i h h' => ?_
  simp [Store.project, h']

/-- **A filled index lists the groups of the batch.** -/
theorem Filling.lists (h : ix.Filling (orUnclassified columns) items) (hj : ix.jobs = []) :
    ix.Lists (ix.worker.grouper.compute items columns) := by
  have hcompute : ix.worker.grouper.compute items (orUnclassified columns) =
      ix.worker.grouper.compute items columns := by
    rw [Grouper.compute, orUnclassified_orUnclassified, Grouper.compute]
  cases h with
  | awaits hjob _ _ _ _ _ _ => exact absurd (hjob.symm.trans hj) (List.cons_ne_nil _ _)
  | filled _ hs =>
    rw [hcompute] at hs
    refine ⟨?_, ?_⟩
    · rw [hs]
      exact Store.rows_take_empty _ _
    · rw [nodes, hs, Store.nodesInOrder_take_empty]
      refine List.map_congr_left fun p hp => ?_
      have hlength := length_display_compute ix.worker.grouper
        (Std.ExtTreeMap.mem_toList_iff_getElem?_eq_some.mp hp)
      rw [← hlength, project_range]

/-- Nothing more is asked of an index, and it comes to list the groups of a batch. -/
structure Fills (ix : Index) (b : Batch) : Prop where
  /-- It lists them whenever nothing is outstanding, whatever the worker and the deliveries have done. -/
  idle : ∀ moves : List Step, (∀ s ∈ moves, s.isInternal = true) →
    ∃ now, ix.run moves = .ok now ∧ (now.phase = .idle → now.Lists b)
  wait : ∃ now, ix.wait = .ok (true, now) ∧ now.Lists b

theorem Filling.fills (h : ix.Filling (orUnclassified columns) items) (ho : ix.Orderly) :
    ix.Fills (ix.worker.grouper.compute items columns) := by
  have hidle (moves : List Step) (hm : ∀ s ∈ moves, s.isInternal = true)
      (hp : (moves.foldl Index.after ix).phase = .idle) :
      (moves.foldl Index.after ix).Lists (ix.worker.grouper.compute items columns) := by
    have hlists := (h.foldl_after ho hm).lists ((ho.foldl_after moves).jobs_eq_nil hp)
    rwa [grouper_foldl_after] at hlists
  refine ⟨fun moves hm => ⟨_, run_eq ho.quiet moves, hidle moves hm⟩, ?_⟩
  obtain ⟨moves, hm, hpoll⟩ := poll_eq ho.quiet .open
  obtain ⟨applied, now, hp⟩ := ho.polled .open
  have hnow : now = moves.foldl Index.after ix :=
    (Prod.mk.inj (Except.ok.inj (hp.poll_eq.symm.trans hpoll))).2
  have hdone := hp.idle rfl
  refine ⟨now, ?_, ?_⟩
  · rw [hp.wait_eq, hdone]
    rfl
  · subst hnow
    exact hidle moves hm hdone

/-- An index without groups, jobs and remembered removals is filled by a reset. -/
theorem filling_rebuilt (hj : ix.jobs = []) (hs : ix.store = {})
    (ht : ∀ id : ItemId, ix.tombstones[id]? = none) (columns : List Column) (items : List Item) :
    (ix.rebuilt columns items).Filling (orUnclassified columns) items := by
  cases hb : ix.isBare items with
  | true =>
    rw [rebuilt_of_bare hb, (isBare_iff.mp hb).1]
    refine .filled hj ?_
    rw [Store.take_empty]
    rfl
  | false =>
    obtain ⟨hjobs, hlatest⟩ := ix.jobs_rebuilt columns hb
    rw [hj, List.nil_append] at hjobs
    refine .awaits hjobs rfl rfl (fun _ => hlatest) ?_ ?_ fun id => ?_
    · rw [rebuilt, hb]
      rfl
    · rw [rebuilt, hb]
      exact hs
    · rw [getElem?_tombstones_rebuilt hb, ht]
      exact ite_self _

/-- So it is by items that are brought. -/
theorem filling_brought (hj : ix.jobs = []) (hs : ix.store = {}) (hp : ix.pendingColumns = none)
    (hr : ix.resetting = false) (hl : ix.layout = .ofColumns columns)
    (ht : ∀ id : ItemId, ix.tombstones[id]? = none) (items : List Item) :
    (ix.brought items).Filling columns items := by
  have hnew : ix.unindexed items = items := by
    rw [unindexed, hr, hs]
    exact List.filter_eq_self.mpr fun _ _ => rfl
  rw [brought, hnew]
  refine dispatchSome_induct (P := fun r => r.2.Filling columns items) (fun hnone => ?_) ?_
  · rw [hnone]
    refine .filled hj (hs.trans ?_)
    rw [Store.take_empty]
    rfl
  · have hcolumns : ix.dispatchColumns = columns := by
      rw [dispatchColumns, hp, hl]
      rfl
    rcases ix.submitted_dispatch .add items with ⟨-, hjobs, -⟩ | ⟨front, tail, -, hold, -⟩
    · have hone : (ix.dispatch .add items).2.jobs = _ := hjobs
      have hnone : ix.worker.jobs = [] := hj
      rw [hnone, List.nil_append] at hone
      have hmet : (ix.dispatch .add items).2.met = (ix.dispatch .add items).2 := met_of_not_resetting hr
      have hlayout : (ix.dispatch .add items).2.met.layout = .ofColumns columns := by
        rw [hmet]
        exact hl
      have hrecall (id : ItemId) : (ix.dispatch .add items).2.tombstones[id]? = none := by
        rw [getElem?_tombstones_dispatch, ht]
        exact ite_self _
      exact .awaits hone hcolumns rfl (fun e => by cases e) hlayout hs hrecall
    · exact absurd (hold.symm.trans hj) (List.append_ne_nil_of_right_ne_nil _ (List.cons_ne_nil _ _))

/-! ## 5. Runs -/

/-- What becomes of the rows of an index in one step, whatever the step. -/
structure KeepsOrder (ix : Index) : Prop where
  removes : ∀ ids, ∃ count now, ix.remove ids = .ok (count, now) ∧ ix.TakesOut ids count now
  delivers : ∀ job rest, ix.worker.finished = job :: rest →
    ∃ now, ix.applyNext? = .ok (some now) ∧ ix.Delivers job now
  stays : ∀ s : Step, (∀ ids, s ≠ .remove ids) → s ≠ .deliver →
    ∃ now, ix.step s = .ok now ∧ now.store.rows = ix.store.rows

theorem Orderly.keepsOrder (ho : ix.Orderly) : ix.KeepsOrder where
  removes ids := ⟨_, _, remove_eq ho.quiet ids, takesOut_removed ho.store ids⟩
  delivers _ _ hf := ⟨_, applyNext?_of_finished ho.quiet hf, delivers_delivered ho.toCoherent hf⟩
  stays s hr hd := ⟨_, step_eq ho.quiet s, rows_after ho.store hr hd⟩

/-- **Rows keep their order.** After every run, a removal and a delivery drop the rows of the groups that
    have lost their last member and leave the others as they stand; a delivery puts the keys that have no
    row then behind them, in the order of their bytes; and other items keep their keys. An index that is
    filled from nothing lists the groups of all items in the order of their keys. -/
theorem rows_keep_their_order (extractor : Extractor) (options : IndexOptions) :
    (∀ steps, ∃ ix, (ofOptions extractor options).run steps = .ok ix ∧ ix.KeepsOrder) ∧
    (∀ columns items, ∃ ticket ix, (ofOptions extractor options).reset columns items = .ok (ticket, ix) ∧
      ix.Fills (Grouper.compute { extractor } items columns)) ∧
    ∀ items, ∃ ticket ix, (ofOptions extractor options).add items = .ok (ticket, ix) ∧
      ix.Fills (Grouper.compute { extractor } items options.columns) := by
  have ho := orderly_ofOptions extractor options
  have ht (id : ItemId) : (ofOptions extractor options).tombstones[id]? = none :=
    Std.ExtTreeMap.getElem?_empty
  refine ⟨fun steps => ⟨_, run_eq ho.quiet steps, (ho.foldl_after steps).keepsOrder⟩,
    fun columns items => ?_, fun items => ?_⟩
  · obtain ⟨ticket, e⟩ := reset_eq ho.quiet columns items
    refine ⟨ticket, _, e, ?_⟩
    have hfills := (filling_rebuilt rfl rfl ht columns items).fills (ho.rebuilt columns items)
    rwa [grouper_rebuilt] at hfills
  · obtain ⟨ticket, e⟩ := add_eq ho.quiet items
    refine ⟨ticket, _, e, ?_⟩
    have hfills := (filling_brought rfl rfl rfl rfl rfl ht items).fills (ho.dispatchSome .add _)
    rwa [brought, grouper_dispatchSome] at hfills

/-- The group of item 1 vanishes and is there again within one batch, so its row moves behind the others. -/
example :
    let steps : List Step := [.add [Item.withField ⟨1, ∅⟩ "artist" "A", Item.withField ⟨2, ∅⟩ "artist" "C",
        Item.withField ⟨3, ∅⟩ "artist" "B"], .start, .finish, .deliver,
      .update [Item.withField ⟨1, ∅⟩ "artist" "A", Item.withField ⟨3, ∅⟩ "artist" "D"], .start, .finish,
      .deliver]
    (steps.foldl after (ofOptions rawExtractor { columns := [.ofField "artist" "Artist"] })).store.rows.map
      (·.text) = ["C", "A", "D"] := by decide +kernel

end Index

end MediaIndex
