import MediaIndex.Index.Lookup
import MediaIndex.Proofs.BatchAccounting
import MediaIndex.Proofs.Index.Landings
import MediaIndex.Proofs.Schedule

/-!
# Requests that bring an item more than once

Copies of items are sent to an idle index, as the items of one reset or of several updates, and a list
may have several copies of one item. The last job that brings the item has its last copy. It may have
older copies as well: those of the request that it was made for, but for the one that a joining request
has replaced. The item comes into the groups of them all.

* `Sends` -- the requests in question;
* `Index.Passed`, `Passed.foldl_after` -- every job is taken in, and the last job to bring an item has
  the last copy of it;
* `Passed.exists_job`, `exists_job_of_sends` -- an item gets the keys of the last job that brings it;
* `last_write_wins_iff` -- when the item has the keys of its last copy only.
-/

namespace MediaIndex

/-- Copies of items that are sent as the items of one reset, or of updates one after another. -/
inductive Sends : List Step → Prop
  | reset {s : Step} (hs : s.isReset = true) : Sends [s]
  | updates (batches : List (List Item)) : Sends (batches.map .update)

namespace Index

variable {ix : Index} {sent items : List Item} {done : List FinishedJob} {kind : JobKind} {id : ItemId}

/-! ## 1. The last copy is on its way or delivered -/

/-- Every outstanding job will be taken in, and the last of all jobs to bring an item, delivered or
    outstanding, has the last copy of it that was sent. -/
structure Passed (ix : Index) (sent : List Item) (done : List FinishedJob) : Prop where
  prompt : ∀ job ∈ ix.jobs, ix.awaits job = true ∧ job.columns = ix.dispatchColumns
  last : ∀ id, lastCopyOf (done.flatMap (·.items) ++ ix.jobs.flatMap (·.items)) id = lastCopyOf sent id

theorem Passed.congr {ix' : Index} (h : ix.Passed sent done) (hj : ix'.jobs = ix.jobs)
    (hc : ix'.dispatchColumns = ix.dispatchColumns) (hl : ix'.latestReset = ix.latestReset) :
    ix'.Passed sent done := by
  have ha : ix'.awaits = ix.awaits := by
    unfold awaits
    rw [hl]
  refine ⟨?_, ?_⟩
  · rw [hj, hc, ha]
    exact h.prompt
  · rw [hj]
    exact h.last

theorem passed_of_no_jobs (hj : ix.jobs = []) : ix.Passed [] [] where
  prompt job hm := by
    rw [hj] at hm
    exact absurd hm List.not_mem_nil
  last id := by
    rw [hj]
    rfl

/-- The last copies of the jobs are those handed over, where there are any. -/
theorem lastCopyOf_jobs_dispatchSome :
    lastCopyOf ((ix.dispatchSome kind items).2.jobs.flatMap (·.items)) id =
      (lastCopyOf items id).or (lastCopyOf (ix.jobs.flatMap (·.items)) id) := by
  refine dispatchSome_induct (P := fun r => lastCopyOf (r.2.jobs.flatMap (·.items)) id = _)
    (fun e => ?_) ?_
  · rw [e]
    rfl
  · unfold jobs
    rcases ix.submitted_dispatch kind items with ⟨-, hjobs, -⟩ | ⟨front, tail, -, hold, hjobs, -⟩
    · rw [hjobs, List.flatMap_append, List.flatMap_singleton, lastCopyOf_append]
    · rw [hjobs, hold, List.flatMap_append, List.flatMap_append, List.flatMap_singleton,
        List.flatMap_singleton, lastCopyOf_append, lastCopyOf_append]
      show (lastCopyOf (MediaIndex.absorb tail.items items) id).or _ = _
      rw [lastCopyOf_absorb, Option.or_assoc]

theorem Passed.dispatchSome (h : ix.Passed sent done) (hk : kind ≠ .reset) (items : List Item) :
    (ix.dispatchSome kind items).2.Passed (sent ++ items) done where
  prompt := by
    refine dispatchSome_induct (P := fun r => ∀ job ∈ r.2.jobs,
      r.2.awaits job = true ∧ job.columns = r.2.dispatchColumns) (fun _ => h.prompt) fun job hm => ?_
    rcases ix.mem_jobs_dispatch kind items hm with hm | ⟨hkind, hcolumns, -⟩
    · exact h.prompt job hm
    · refine ⟨?_, hcolumns⟩
      unfold awaits
      rw [hkind, beq_eq_false_iff_ne.mpr hk]
      rfl
  last id := by
    have hl := h.last id
    rw [lastCopyOf_append] at hl
    rw [lastCopyOf_append, lastCopyOf_append, lastCopyOf_jobs_dispatchSome, Option.or_assoc, hl]

/-- An update hands its items over in two parts, that have no item in common. -/
theorem Passed.updated (h : ix.Passed sent done) (items : List Item) :
    (ix.updated items).Passed (sent ++ items) done := by
  unfold Index.updated
  split
  · exact h.dispatchSome (fun e => by cases e) items
  · have hknown : (ix.dispatchSome .update (items.filter fun item => ix.store.indexes item.id)).2.Passed
        (sent ++ items.filter fun item => ix.store.indexes item.id) done :=
      h.dispatchSome (fun e => by cases e) _
    have hparts := hknown.dispatchSome (fun e : JobKind.add = .reset => by cases e)
      (items.filter fun item => !ix.store.indexes item.id)
    refine ⟨hparts.prompt, fun id => ?_⟩
    rw [hparts.last, List.append_assoc, lastCopyOf_append, lastCopyOf_append sent, lastCopyOf_append,
      lastCopyOf_filter items (fun id => !ix.store.indexes id),
      lastCopyOf_filter items fun id => ix.store.indexes id]
    cases ix.store.indexes id with
    | true => rfl
    | false =>
      show ((lastCopyOf items id).or none).or _ = _
      rw [Option.or_none]

/-- A rebuild that is the only job will be taken in. -/
theorem passed_rebuilt (hj : ix.jobs = []) (columns : List Column) (hb : ix.isBare items = false) :
    (ix.rebuilt columns items).Passed items [] := by
  obtain ⟨hjobs, hlatest⟩ := ix.jobs_rebuilt columns hb
  rw [hj, List.nil_append] at hjobs
  refine ⟨fun job hm => ?_, fun id => ?_⟩
  · rw [hjobs] at hm
    rw [List.mem_singleton.mp hm]
    refine ⟨?_, (dispatchColumns_rebuilt hb).symm⟩
    unfold awaits
    rw [hlatest, bne_self_eq_false, Bool.and_false]
    rfl
  · rw [hjobs, List.flatMap_singleton]
    rfl

/-! ## 2. Deliveries -/

/-- A delivery moves the first job to those delivered, and takes it in. -/
theorem Passed.delivered (h : ix.Passed sent done) (ho : ix.Coherent) :
    ix.delivered.Passed sent (done ++ ix.delivery .deliver) ∧
      ix.landing .deliver = ix.delivery .deliver ∧
      ix.delivered.dispatchColumns = ix.dispatchColumns := by
  rcases ix.delivered_cases with ⟨hf, e⟩ | ⟨job, rest, hf, -⟩
  · rw [e, landing, delivery_of_none hf, List.append_nil]
    exact ⟨h, rfl, rfl⟩
  · obtain ⟨hawaits, hcolumns⟩ := h.prompt job.toJob.unmarked (mem_jobs_of_finished hf)
    have hr : ix.replaces job = false := Bool.not_eq_true' _ |>.mp hawaits
    have hc : job.columns = ix.met.layout.keyColumns := hcolumns.trans ho.keyColumns_met.symm
    have hjobs : (ix.popped rest).applying.met.jobs = (ix.popped rest).jobs := jobs_met
    have hdispatch : (ix.popped rest).applying.met.dispatchColumns = ix.dispatchColumns :=
      dispatchColumns_popped_met ho
    have hlatest : (ix.popped rest).applying.met.latestReset = ix.latestReset := latestReset_met
    have hrest : (ix.popped rest).Passed sent (done ++ [job]) := by
      refine ⟨fun other hm => h.prompt other (mem_jobs_of_popped hf hm), fun id => ?_⟩
      rw [← h.last, jobs_popped hf, List.flatMap_append, List.flatMap_singleton, List.append_assoc]
      rfl
    have hmet : (ix.popped rest).applying.met.Passed sent (done ++ [job]) :=
      hrest.congr hjobs hdispatch hlatest
    obtain ⟨stage, summary, notifier, batchesApplied, resets, hout, e⟩ := delivered_outcome hf
    rw [landing_of_taken hf hr hc, delivery_of_finished hf, e]
    cases hout with
    | dropped hr' hs =>
      have hr' : ix.replaces job = true := hr'
      rw [hr] at hr'
      cases hr'
    | taken hr' hc' hs =>
      subst hs
      exact ⟨hmet.congr rfl rfl rfl, rfl, hdispatch⟩
    | again hr' hc' hs =>
      rw [met_popped] at hc'
      exact absurd hc hc'

/-- **Updates, moves of the worker and deliveries keep the last copies**, and every job is taken in. -/
theorem Passed.after (h : ix.Passed sent done) (ho : ix.Orderly) {s : Step}
    (hs : s.isInternal = true ∨ ∃ items, s = .update items) :
    (ix.after s).Passed (sent ++ s.items) (done ++ ix.delivery s) ∧
      ix.landing s = ix.delivery s ∧ (ix.after s).dispatchColumns = ix.dispatchColumns := by
  have hstay {ix' : Index} (h' : ix'.Passed sent done) : ix'.Passed (sent ++ []) (done ++ []) := by
    rwa [List.append_nil, List.append_nil]
  rcases hs with hs | ⟨items, rfl⟩
  · cases s with
    | start => exact ⟨hstay (h.congr ix.worker.jobs_start rfl rfl), rfl, rfl⟩
    | finish => exact ⟨hstay (h.congr ix.worker.jobs_finish rfl rfl), rfl, rfl⟩
    | deliver =>
      have hd := h.delivered ho.toCoherent
      refine ⟨?_, hd.2⟩
      show ix.delivered.Passed (sent ++ []) _
      rw [List.append_nil]
      exact hd.1
    | _ => cases hs
  · refine ⟨?_, rfl, ?_⟩
    · show (ix.updated items).Passed (sent ++ items) (done ++ [])
      rw [List.append_nil]
      exact h.updated items
    · exact updated_induct (P := fun ix' => ix'.dispatchColumns = ix.dispatchColumns) rfl
        fun _ _ _ _ _ h => dispatchColumns_dispatchSome.trans h

/-- **Over a run every job is taken in, for the columns in force from the start**, and the last of them
    to bring an item has the last copy of it. -/
theorem Passed.foldl_after (h : ix.Passed sent done) (ho : ix.Orderly) {steps : List Step}
    (hs : ∀ s ∈ steps, s.isInternal = true ∨ ∃ items, s = .update items) :
    (steps.foldl Index.after ix).Passed (sent ++ steps.flatMap Step.items) (done ++ ix.deliveries steps) ∧
      ix.landings steps = ix.deliveries steps ∧
      (steps.foldl Index.after ix).dispatchColumns = ix.dispatchColumns := by
  induction steps generalizing ix sent done with
  | nil =>
    refine ⟨?_, rfl, rfl⟩
    rw [deliveries, List.flatMap_nil, List.append_nil, List.append_nil]
    exact h
  | cons s steps ih =>
    obtain ⟨hnext, hland, hcol⟩ := h.after ho (hs s List.mem_cons_self)
    obtain ⟨hrest, hlands, hcols⟩ := ih hnext (ho.after s) fun s' hm => hs s' (List.mem_cons_of_mem _ hm)
    refine ⟨?_, ?_, hcols.trans hcol⟩
    · rw [deliveries, List.flatMap_cons, ← List.append_assoc, ← List.append_assoc]
      exact hrest
    · rw [landings, deliveries, hland, hlands]

/-! ## 3. What the last job gives -/

/-- Every job that a run delivers was made for the columns in force. -/
theorem Passed.columns_eq (h : ix.Passed sent done) (ho : ix.Orderly) {steps : List Step}
    (hs : ∀ s ∈ steps, s.isInternal = true ∨ ∃ items, s = .update items) :
    ∀ job ∈ ix.deliveries steps, job.columns = ix.dispatchColumns := by
  let I : Index → Prop := fun ix' =>
    ix'.Orderly ∧ (∃ sent done, ix'.Passed sent done) ∧ ix'.dispatchColumns = ix.dispatchColumns
  refine forall_mem_deliveries (I := I) ⟨ho, ⟨sent, done, h⟩, rfl⟩ (fun ix' h' s hm => ?_) fun ix' h' job hm => ?_
  · obtain ⟨ho', ⟨sent', done', hp⟩, hc⟩ := h'
    obtain ⟨hnext, -, hcol⟩ := hp.after ho' (hs s hm)
    exact ⟨ho'.after s, ⟨_, _, hnext⟩, hcol.trans hc⟩
  · obtain ⟨-, ⟨sent', done', hp⟩, hc⟩ := h'
    have hjob : job.toJob.unmarked ∈ ix'.jobs :=
      List.mem_map_of_mem (List.mem_append_left _ (List.mem_append_left _ (List.mem_map_of_mem hm)))
    exact (hp.prompt _ hjob).2.trans hc

/-- **An idle index has, for every item sent, the keys of the last job that brought it**, which has the
    last copy. -/
theorem Passed.exists_job (h : ix.Passed sent []) (ho : ix.Orderly) {steps : List Step}
    (hs : ∀ s ∈ steps, s.isInternal = true ∨ ∃ items, s = .update items)
    (hi : (steps.foldl Index.after ix).phase = .idle) {c : Item} (ht : ix.tombstones[c.id]? = none)
    (hc : lastCopyOf (sent ++ steps.flatMap Step.items) c.id = some c) :
    ∃ front job back, ix.deliveries steps = front ++ job :: back ∧ lastCopyOf job.items c.id = some c ∧
      (∀ other ∈ back, c.id ∉ idsOf other.items) ∧
      (steps.foldl Index.after ix).keysOf? c.id =
        ix.worker.grouper.keysIn (steps.foldl Index.after ix).layout.keyColumns job.items c.id := by
  obtain ⟨hpassed, hland, hcolumns⟩ := h.foldl_after ho hs
  have ho' := ho.foldl_after steps
  have hnone := ho'.jobs_eq_nil hi
  have hres := ho'.resetting_eq_false hi
  have hlast := hpassed.last c.id
  rw [hnone, List.nil_append, List.flatMap_nil, List.append_nil, hc] at hlast
  obtain ⟨front, job, back, hdel, hjob, hback⟩ := lastCopyOf_flatMap_eq_some_iff.mp hlast
  refine ⟨front, job, back, hdel, hjob, hback, ?_⟩
  have hquiet : ∀ s ∈ steps, s.isReset = false ∧ c.id ∉ s.removes := by
    intro s hm
    rcases hs s hm with hs | ⟨items, rfl⟩
    · cases s <;> first | exact ⟨rfl, List.not_mem_nil⟩ | cases hs
    · exact ⟨rfl, List.not_mem_nil⟩
  have hkeys := metKeys_foldl_after ho ht (fun s hm => (hquiet s hm).1) fun s hm => (hquiet s hm).2
  have hmem : c.id ∈ idsOf job.items := (mem_of_lastCopyOf hjob).2 ▸ mem_idsOf_of_mem (mem_of_lastCopyOf hjob).1
  have hjobcol : job.columns = (steps.foldl Index.after ix).layout.keyColumns := by
    rw [h.columns_eq ho hs job (hdel ▸ List.mem_append_right _ List.mem_cons_self), ← hcolumns,
      ← ho'.toCoherent.keyColumns_met, met_of_not_resetting hres]
  rw [metKeys_of_not_resetting hres, hland, hdel, Grouper.lastKeys_of_last hmem hback,
    Grouper.keysIn_or_of_mem hmem, hjobcol] at hkeys
  exact hkeys

/-! ## 4. Idle indexes -/

/-- The moves that nobody asks for do nothing on an index without jobs. -/
theorem after_of_no_jobs (hj : ix.jobs = []) {s : Step} (hs : s.isInternal = true) :
    ix.after s = ix ∧ ix.delivery s = [] := by
  have hparts : ix.worker.finished = [] ∧ ix.worker.running = none ∧ ix.worker.waiting = [] := by
    have h : (ix.worker.finished.map (·.toJob) ++ ix.worker.running.toList ++ ix.worker.waiting).map
      Job.unmarked = [] := hj
    simpa [List.append_eq_nil_iff, and_assoc] using h
  obtain ⟨hf, hr, hw⟩ := hparts
  cases s with
  | start =>
    refine ⟨?_, rfl⟩
    show { ix with worker := ix.worker.start } = ix
    rw [Worker.start, hr, hw]
  | finish =>
    refine ⟨?_, rfl⟩
    show { ix with worker := ix.worker.finish } = ix
    rw [Worker.finish, hr]
  | deliver =>
    refine ⟨?_, delivery_of_none hf⟩
    show ix.delivered = ix
    rcases ix.delivered_cases with ⟨-, e⟩ | ⟨job, rest, hf', -⟩
    · exact e
    · rw [hf] at hf'
      cases hf'
  | _ => cases hs

theorem after_of_isReset (ix : Index) {s : Step} (hs : s.isReset = true) :
    ∃ columns, ix.after s = ix.rebuilt columns s.items := by
  cases s with
  | reset columns items => exact ⟨columns, rfl⟩
  | fullReload items => exact ⟨_, rfl⟩
  | _ => cases hs

theorem delivery_of_isReset {s : Step} (hs : s.isReset = true) : ix.delivery s = [] := by
  cases s with
  | deliver => cases hs
  | _ => rfl

theorem foldl_after_of_no_jobs (hj : ix.jobs = []) {steps : List Step}
    (hs : ∀ s ∈ steps, s.isInternal = true) :
    steps.foldl after ix = ix ∧ ix.deliveries steps = [] := by
  induction steps with
  | nil => exact ⟨rfl, rfl⟩
  | cons s steps ih =>
    obtain ⟨he, hd⟩ := after_of_no_jobs hj (hs s List.mem_cons_self)
    obtain ⟨hes, hds⟩ := ih fun s' hm => hs s' (List.mem_cons_of_mem _ hm)
    refine ⟨?_, ?_⟩
    · rw [List.foldl_cons, he, hes]
    · rw [deliveries, hd, he, hds]
      rfl

/-! ## 5. Runs -/

/-- What is sent comes to an idle index that has the keys of the last job to bring each item. -/
theorem exists_job_of_sends (ho : ix.Orderly) (hidle : ix.phase = .idle) {steps : List Step}
    (hs : Sends (requestsOf steps)) (hi : (steps.foldl after ix).phase = .idle) {c : Item}
    (ht : ix.tombstones[c.id]? = none) (hc : lastCopyOf (steps.flatMap Step.items) c.id = some c) :
    ∃ front job back, ix.deliveries steps = front ++ job :: back ∧ lastCopyOf job.items c.id = some c ∧
      (∀ other ∈ back, c.id ∉ idsOf other.items) ∧
      (steps.foldl after ix).keysOf? c.id =
        ix.worker.grouper.keysIn (steps.foldl after ix).layout.keyColumns job.items c.id := by
  have hj := ho.jobs_eq_nil hidle
  generalize hreq : requestsOf steps = requests at hs
  cases hs with
  | updates batches =>
    refine (passed_of_no_jobs hj).exists_job ho (fun s hm => ?_) hi ht hc
    cases hint : s.isInternal with
    | true => exact Or.inl rfl
    | false =>
      have hm' : s ∈ requestsOf steps := List.mem_filter.mpr ⟨hm, by rw [hint]; rfl⟩
      rw [hreq] at hm'
      obtain ⟨batch, -, rfl⟩ := List.mem_map.mp hm'
      exact Or.inr ⟨batch, rfl⟩
  | @reset s hreset =>
    -- before the reset nothing is done, and after it nothing is asked for
    obtain ⟨moves, later, rfl, hmoves, -, hlater⟩ := List.filter_eq_cons_iff.mp hreq
    have hmoves : ∀ s ∈ moves, s.isInternal = true := fun s hm => by simpa using hmoves s hm
    have hlater : ∀ s ∈ later, s.isInternal = true := fun s hm => by
      simpa using List.filter_eq_nil_iff.mp hlater s hm
    have hnone {some : List Step} (h : ∀ s ∈ some, s.isInternal = true) : some.flatMap Step.items = [] :=
      List.flatMap_eq_nil_iff.mpr fun s hm => Step.items_of_isInternal (h s hm)
    obtain ⟨hstart, hdel⟩ := foldl_after_of_no_jobs hj hmoves
    obtain ⟨columns, hafter⟩ := ix.after_of_isReset hreset
    rw [List.flatMap_append, List.flatMap_cons, hnone hmoves, hnone hlater, List.nil_append,
      List.append_nil] at hc
    rw [List.foldl_append, List.foldl_cons, hstart] at hi ⊢
    rw [deliveries_append, hdel, hstart, List.nil_append, deliveries, delivery_of_isReset hreset,
      List.nil_append]
    have hbare : ix.isBare s.items = false := by
      refine eq_false_of_ne_true fun hb => ?_
      rw [(isBare_iff.mp hb).1] at hc
      cases hc
    have hpassed : (ix.after s).Passed s.items [] := hafter ▸ passed_rebuilt hj columns hbare
    have hns : c.id ∉ s.removes := by
      cases s <;> first | exact List.not_mem_nil | cases hreset
    rw [← grouper_after s]
    refine hpassed.exists_job (ho.after s) (fun s' hm => Or.inl (hlater s' hm)) hi
      (tombstones_after_eq_none ht hns) ?_
    rw [hnone hlater, List.append_nil, hc]

/-- **When the last write of a repeated item wins.** Copies of items are sent to an idle index, as the
    items of one reset or of several updates. Once the index is idle again, every item sent has the keys
    of all copies that the last delivered job to bring it has, and the last copy sent is one of these. So
    the item has the keys of its last copy alone exactly when those of the other copies in this job are
    among them, and in particular when no request brings the item twice. -/
theorem last_write_wins_iff (extractor : Extractor) (options : IndexOptions) (before : List Step)
    {steps : List Step} (hs : Sends (requestsOf steps)) :
    ∃ start ix, (ofOptions extractor options).run before = .ok start ∧ start.run steps = .ok ix ∧
      (start.isIdle = true → ix.isIdle = true → ∀ c, lastCopyOf (steps.flatMap Step.items) c.id = some c →
        (∃ front job back, start.deliveries steps = front ++ job :: back ∧
          lastCopyOf job.items c.id = some c ∧ (∀ other ∈ back, c.id ∉ idsOf other.items) ∧
          ix.keysOf? c.id = Grouper.keysIn { extractor } ix.layout.keyColumns job.items c.id ∧
          (ix.keysOf? c.id = some (Grouper.keySet { extractor } ix.layout.keyColumns c) ↔
            ∀ copy ∈ job.items, copy.id = c.id →
              ∀ key ∈ Grouper.keySet { extractor } ix.layout.keyColumns copy,
                key ∈ Grouper.keySet { extractor } ix.layout.keyColumns c)) ∧
        ((∀ s ∈ steps, (idsOf s.items).count c.id ≤ 1) →
          ix.keysOf? c.id = some (Grouper.keySet { extractor } ix.layout.keyColumns c))) := by
  have ho := orderly_ofOptions extractor options
  have hstart := ho.foldl_after before
  refine ⟨_, _, run_eq ho.quiet before, run_eq hstart.quiet steps, fun hidle hi c hc => ?_⟩
  have hidle := beq_iff_eq.mp hidle
  have htallied := (tallied_ofOptions extractor options).foldl_after ho before
  have ht : (before.foldl Index.after (ofOptions extractor options)).tombstones[c.id]? = none := by
    rw [(htallied.accounts hstart).forgotten hidle, Std.ExtTreeMap.getElem?_empty]
  obtain ⟨front, job, back, hdel, hjob, hback, hkeys⟩ :=
    exists_job_of_sends hstart hidle hs (beq_iff_eq.mp hi) ht hc
  rw [grouper_foldl_after] at hkeys
  have hmem := (mem_of_lastCopyOf hjob).1
  refine ⟨⟨front, job, back, hdel, hjob, hback, hkeys, ?_⟩, fun honce => ?_⟩
  · rw [hkeys]
    exact Grouper.keysIn_eq_keySet_iff hmem
  -- the job brings the item once, so all copies it has are the last one
  have hloads := forall_mem_deliveries (I := fun ix => ix.Loads fun items => (idsOf items).count c.id ≤ 1)
    (P := fun job => (idsOf job.items).count c.id ≤ 1) (loads_of_no_jobs (hstart.jobs_eq_nil hidle))
    (fun ix h s hm => h.after (inherited_count c.id) (honce s hm))
    fun ix h job hm => h.forall_finished job hm
  have hcount := hloads job (hdel ▸ List.mem_append_right _ List.mem_cons_self)
  rw [hkeys]
  exact Grouper.keysIn_of_count_le_one hmem hcount

/-- A copy of item 1 with a genre. -/
def inGenre (genre : String) : Item := Item.withField ⟨1, ∅⟩ "genre" genre

/-- A reset brings an item twice. -/
def rebuiltRun : List Step :=
  [.reset [.ofField "genre" "Genre"] [inGenre "Rock", inGenre "Jazz"], .start, .finish, .deliver]

/-- Two updates bring an item once each. -/
def rewrittenRun : List Step :=
  [.update [inGenre "Rock"], .update [inGenre "Jazz"], .start, .finish, .deliver]

/-- The job of the reset has both copies and the first one has a key of its own, so the item ends with the
    keys of both. Of copies brought once each the last one alone counts. -/
theorem last_write_wins_iff_rebuilt :
    (Sends (requestsOf rebuiltRun) ∧
      ∃ start ix, (ofOptions (fieldExtractor "") {}).run [] = .ok start ∧
        start.run rebuiltRun = .ok ix ∧ start.isIdle = true ∧ ix.isIdle = true ∧
        lastCopyOf (rebuiltRun.flatMap Step.items) 1 = some (inGenre "Jazz") ∧
        (∃ front job back, start.deliveries rebuiltRun = front ++ job :: back ∧
          lastCopyOf job.items 1 = some (inGenre "Jazz") ∧ (∀ other ∈ back, 1 ∉ idsOf other.items) ∧
          ix.keysOf? 1 =
            Grouper.keysIn { extractor := fieldExtractor "" } ix.layout.keyColumns job.items 1 ∧
          (ix.keysOf? 1 = some (Grouper.keySet { extractor := fieldExtractor "" } ix.layout.keyColumns
              (inGenre "Jazz")) ↔
            ∀ copy ∈ job.items, copy.id = 1 →
              ∀ key ∈ Grouper.keySet { extractor := fieldExtractor "" } ix.layout.keyColumns copy,
                key ∈ Grouper.keySet { extractor := fieldExtractor "" } ix.layout.keyColumns
                  (inGenre "Jazz")) ∧
          ¬ ∀ copy ∈ job.items, copy.id = 1 →
              ∀ key ∈ Grouper.keySet { extractor := fieldExtractor "" } ix.layout.keyColumns copy,
                key ∈ Grouper.keySet { extractor := fieldExtractor "" } ix.layout.keyColumns
                  (inGenre "Jazz")) ∧
        (ix.keysOf? 1).map (·.toList) = some [⟨"Jazz"⟩, ⟨"Rock"⟩]) ∧
    Sends (requestsOf rewrittenRun) ∧ (∀ s ∈ rewrittenRun, (idsOf s.items).count 1 ≤ 1) ∧
      ∃ start ix, (ofOptions (fieldExtractor "") { columns := [.ofField "genre" "Genre"] }).run [] =
          .ok start ∧ start.run rewrittenRun = .ok ix ∧ start.isIdle = true ∧ ix.isIdle = true ∧
        lastCopyOf (rewrittenRun.flatMap Step.items) 1 = some (inGenre "Jazz") ∧
        ix.keysOf? 1 = some (Grouper.keySet { extractor := fieldExtractor "" } ix.layout.keyColumns
          (inGenre "Jazz")) ∧
        (ix.keysOf? 1).map (·.toList) = some [⟨"Jazz"⟩] := by
  constructor
  · have hs : Sends (requestsOf rebuiltRun) := .reset rfl
    obtain ⟨start, ix, hstart, hrun, hlast⟩ := last_write_wins_iff (fieldExtractor "") {} [] hs
    obtain rfl := eq_foldl_after_of_run (quiet_ofOptions _ _) hstart
    obtain rfl := eq_foldl_after_of_run (quiet_ofOptions _ _) hrun
    obtain ⟨⟨front, job, back, hdel, hjob, hback, hkeys, hiff⟩, -⟩ :=
      hlast rfl (by decide +kernel) (inGenre "Jazz") (by decide +kernel)
    exact ⟨hs, _, _, hstart, hrun, rfl, by decide +kernel, by decide +kernel,
      ⟨front, job, back, hdel, hjob, hback, hkeys, hiff, mt hiff.mpr (by decide +kernel)⟩,
      by decide +kernel⟩
  · have hs : Sends (requestsOf rewrittenRun) := .updates [[inGenre "Rock"], [inGenre "Jazz"]]
    have honce : ∀ s ∈ rewrittenRun, (idsOf s.items).count 1 ≤ 1 := by decide
    obtain ⟨start, ix, hstart, hrun, hlast⟩ :=
      last_write_wins_iff (fieldExtractor "") { columns := [.ofField "genre" "Genre"] } [] hs
    obtain rfl := eq_foldl_after_of_run (quiet_ofOptions _ _) hstart
    obtain rfl := eq_foldl_after_of_run (quiet_ofOptions _ _) hrun
    obtain ⟨-, hwins⟩ := hlast rfl (by decide +kernel) (inGenre "Jazz") (by decide +kernel)
    exact ⟨hs, honce, _, _, hstart, hrun, rfl, by decide +kernel, by decide +kernel, hwins honce,
      by decide +kernel⟩

/-- Two copies of an item wait in one job, and an update that joins the job brings a third one. -/
def joinedRun : List Step :=
  [.update [inGenre "Rock", inGenre "Pop"], .update [inGenre "Jazz"], .start, .finish, .deliver]

/-- **An older copy can stay beside the last one**: a job that takes a newer copy in gives up its last
    older one only. -/
theorem older_copy_can_stay : ¬ ∀ (extractor : Extractor) (options : IndexOptions)
    (before steps : List Step) (c : Item) (start ix : Index), Sends (requestsOf steps) →
    (ofOptions extractor options).run before = .ok start → start.run steps = .ok ix →
    start.isIdle = true → ix.isIdle = true → lastCopyOf (steps.flatMap Step.items) c.id = some c →
    ix.keysOf? c.id = some (Grouper.keySet { extractor } ix.layout.keyColumns c) := by
  intro h
  have hkeys := h (fieldExtractor "") { columns := [.ofField "genre" "Genre"] } [] joinedRun
    (inGenre "Jazz") _ _ (.updates [[inGenre "Rock", inGenre "Pop"], [inGenre "Jazz"]])
    (run_eq (quiet_ofOptions _ _) []) (run_eq (quiet_ofOptions _ _) joinedRun) rfl
    (by decide +kernel) (by decide +kernel)
  exact absurd hkeys (by decide +kernel)

end Index

end MediaIndex
