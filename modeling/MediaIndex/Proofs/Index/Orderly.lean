import MediaIndex.Proofs.Index.Outcome

/-!
# What holds in every state between operations

An invariant of all runs, whatever is asked of the index and however the worker proceeds.

* `Index.Orderly` -- the index counts its jobs, a pending reset is still outstanding, the store is sound;
* `orderly_ofOptions`, `Orderly.after` -- it holds at the start and every step keeps it;
* `Orderly.foldl_after` -- so it holds after every run.
-/

namespace MediaIndex.Index

/-! ## 1. The invariant -/

/-- The parts of the index agree, also while a job is being applied. -/
structure Coherent (ix : Index) : Prop where
  worker : ix.worker.Orderly
  /-- The index counts the jobs of the worker. -/
  outstanding_eq : ix.outstanding = ix.jobs.length
  /-- Columns are pending exactly while a reset is. -/
  resetting_iff : ix.resetting = true ↔ ix.pendingColumns.isSome = true
  /-- The rebuild of a pending reset is outstanding. -/
  awaited : ix.resetting = true → ∃ job ∈ ix.jobs, job.kind = .reset ∧ ix.latestReset = some job.ticket
  store : ix.store.Sound

/-- The parts of the index agree, and no operation is under way. -/
structure Orderly (ix : Index) : Prop extends Coherent ix where
  quiet : ix.Quiet
  idle_iff : ix.phase = .idle ↔ ix.outstanding = 0

variable {ix : Index}

theorem orderly_ofOptions (extractor : Extractor) (options : IndexOptions) :
    (ofOptions extractor options).Orderly where
  quiet := quiet_ofOptions extractor options
  worker := Worker.orderly_of_no_jobs rfl rfl rfl
  outstanding_eq := rfl
  idle_iff := iff_of_true rfl rfl
  resetting_iff := iff_of_false Bool.false_ne_true Bool.false_ne_true
  awaited h := absurd h Bool.false_ne_true
  store := Store.sound_empty

theorem Coherent.pendingColumns_eq_none (h : ix.Coherent) (hr : ix.resetting = false) :
    ix.pendingColumns = none := by
  cases hp : ix.pendingColumns with
  | none => rfl
  | some columns =>
    have := h.resetting_iff.mpr (by rw [hp]; rfl)
    rw [hr] at this
    cases this

theorem Coherent.pendingColumns_met (h : ix.Coherent) : ix.met.pendingColumns = none := by
  cases hr : ix.resetting with
  | true =>
    rw [met_of_resetting hr]
    rfl
  | false =>
    rw [met_of_not_resetting hr]
    exact h.pendingColumns_eq_none hr

/-- **The columns that jobs are computed with are those in force when the index is met.** -/
theorem Coherent.keyColumns_met (h : ix.Coherent) : ix.met.layout.keyColumns = ix.dispatchColumns := by
  unfold dispatchColumns
  cases hr : ix.resetting with
  | true =>
    obtain ⟨columns, hp⟩ := Option.isSome_iff_exists.mp (h.resetting_iff.mp hr)
    rw [met_of_resetting hr, clear, hp]
    rfl
  | false => rw [met_of_not_resetting hr, h.pendingColumns_eq_none hr, Option.getD_none]

theorem Coherent.store_met (h : ix.Coherent) : ix.met.store.Sound := by
  rw [Index.store_met]
  split
  · exact Store.sound_empty
  · exact h.store

/-- An idle index has no outstanding job. -/
theorem Orderly.jobs_eq_nil (h : ix.Orderly) (hi : ix.phase = .idle) : ix.jobs = [] :=
  List.length_eq_zero_iff.mp (h.outstanding_eq ▸ h.idle_iff.mp hi)

theorem Coherent.jobs_eq_nil_of_bare (h : ix.Coherent) {items : List Item}
    (hb : ix.isBare items = true) : ix.jobs = [] :=
  List.length_eq_zero_iff.mp (h.outstanding_eq ▸ (isBare_iff.mp hb).2.2)

/-- An idle index has no pending reset. -/
theorem Orderly.resetting_eq_false (h : ix.Orderly) (hi : ix.phase = .idle) : ix.resetting = false := by
  refine eq_false_of_ne_true fun hr => ?_
  obtain ⟨job, hj, -⟩ := h.awaited hr
  rw [h.jobs_eq_nil hi] at hj
  exact absurd hj List.not_mem_nil

/-! ## 2. Handing items to the worker -/

section Dispatch

variable (kind : JobKind) (items : List Item)

theorem jobs_dispatch_ne_nil : (ix.dispatch kind items).2.jobs ≠ [] := by
  unfold jobs
  rcases ix.submitted_dispatch kind items with ⟨-, hjobs, -⟩ | ⟨front, tail, -, -, hjobs, -⟩
  · rw [hjobs]
    exact List.append_ne_nil_of_right_ne_nil _ (List.cons_ne_nil _ _)
  · rw [hjobs]
    exact List.append_ne_nil_of_right_ne_nil _ (List.cons_ne_nil _ _)

theorem idle_iff_dispatch (h : ix.outstanding = ix.jobs.length) :
    (ix.dispatch kind items).2.phase = .idle ↔ (ix.dispatch kind items).2.outstanding = 0 := by
  rw [outstanding_dispatch kind items h, List.length_eq_zero_iff]
  refine iff_of_false ?_ (jobs_dispatch_ne_nil kind items)
  show (if ix.phase = .idle then Phase.awaitingBatch else ix.phase) ≠ .idle
  split
  · exact fun e => by cases e
  · assumption

/-- A job that was outstanding still is, perhaps with more items. -/
theorem exists_mem_jobs_dispatch {job : Job} (h : job ∈ ix.jobs) :
    ∃ job' ∈ (ix.dispatch kind items).2.jobs, job'.kind = job.kind ∧ job'.ticket = job.ticket := by
  unfold jobs at h ⊢
  rcases ix.submitted_dispatch kind items with ⟨-, hjobs, -⟩ | ⟨front, tail, -, hold, hjobs, -⟩
  · rw [hjobs]
    exact ⟨job, List.mem_append_left _ h, rfl, rfl⟩
  · rw [hjobs]
    rw [hold] at h
    rcases List.mem_append.mp h with h | h
    · exact ⟨job, List.mem_append_left _ h, rfl, rfl⟩
    · rw [List.mem_singleton.mp h]
      exact ⟨tail.absorb items, List.mem_append_right _ (List.mem_singleton_self _), rfl, rfl⟩

theorem Coherent.dispatch (h : ix.Coherent) : (ix.dispatch kind items).2.Coherent where
  worker := h.worker.submit kind ix.dispatchColumns items
  outstanding_eq := outstanding_dispatch kind items h.outstanding_eq
  resetting_iff := h.resetting_iff
  awaited hr := by
    obtain ⟨job, hj, hk, hl⟩ := h.awaited hr
    obtain ⟨job', hj', hk', ht'⟩ := exists_mem_jobs_dispatch kind items hj
    exact ⟨job', hj', hk'.trans hk, ht' ▸ hl⟩
  store := h.store

theorem Orderly.dispatch (h : ix.Orderly) : (ix.dispatch kind items).2.Orderly where
  toCoherent := h.toCoherent.dispatch kind items
  quiet := h.quiet.dispatch kind items
  idle_iff := idle_iff_dispatch kind items h.outstanding_eq

theorem Orderly.dispatchSome (h : ix.Orderly) : (ix.dispatchSome kind items).2.Orderly :=
  dispatchSome_induct (P := fun r => r.2.Orderly) (fun _ => h) (h.dispatch kind items)

end Dispatch

/-! ## 3. What is carried out at once -/

theorem Orderly.refreshSummary (h : ix.Orderly) : ix.refreshSummary.Orderly := by
  have hq : ix.refreshSummary.Quiet := h.quiet.refreshSummary
  obtain ⟨summary, notifier, e⟩ := ix.refreshSummary_eq
  rw [e] at hq ⊢
  exact ⟨⟨h.worker, h.outstanding_eq, h.resetting_iff, h.awaited, h.store⟩, hq, h.idle_iff⟩

theorem Orderly.detached (h : ix.Orderly) (ids : List ItemId) : (ix.detached ids).Orderly :=
  ⟨⟨h.worker, h.outstanding_eq, h.resetting_iff, h.awaited, h.store.detach ids⟩,
    ⟨Notifier.current_tell.trans h.quiet.closed, h.quiet.phase_ne⟩, h.idle_iff⟩

theorem Orderly.removed (h : ix.Orderly) (ids : List ItemId) : (ix.removed ids).Orderly := by
  have hb : (ix.buried ids).Orderly :=
    ⟨⟨h.worker, h.outstanding_eq, h.resetting_iff, h.awaited, h.store⟩,
      ⟨h.quiet.closed, h.quiet.phase_ne⟩, h.idle_iff⟩
  unfold Index.removed
  split
  · exact hb.detached ids
  · exact (hb.detached ids).refreshSummary

theorem isSome_hidePending (pending : Option (List Column)) (hidden : Column) :
    (hidePending pending hidden).isSome = pending.isSome := Option.isSome_map

theorem Orderly.narrowed (h : ix.Orderly) (i : Nat) (column : Column) :
    (ix.narrowed i column).Orderly where
  quiet := ⟨Notifier.current_tell.trans h.quiet.closed, h.quiet.phase_ne⟩
  worker := h.worker
  outstanding_eq := h.outstanding_eq
  idle_iff := h.idle_iff
  resetting_iff := by
    show _ ↔ (hidePending ix.pendingColumns column).isSome = true
    rw [isSome_hidePending]
    exact h.resetting_iff
  awaited := h.awaited
  store := h.store.hideColumn i

theorem Orderly.hidden (h : ix.Orderly) (i : Nat) : (ix.hidden i).Orderly := by
  unfold Index.hidden
  split
  · exact h
  · exact (h.narrowed i _).refreshSummary

/-- A reset that has something to rebuild is the last job, and the newest reset. -/
theorem jobs_rebuilt (columns : List Column) {items : List Item} (hb : ix.isBare items = false) :
    (ix.rebuilt columns items).jobs = ix.jobs ++
        [{ ticket := ix.worker.lastTicket + 1, kind := .reset,
           columns := orUnclassified columns, items }] ∧
      (ix.rebuilt columns items).latestReset = some (ix.worker.lastTicket + 1) := by
  let asked : Index := { ix.adopting columns with worker := ix.worker.supersede.2, resetting := true }
  have e : ix.rebuilt columns items = { (asked.dispatch .reset items).2 with
      latestReset := some (asked.dispatch .reset items).1 } := by
    unfold rebuilt
    rw [hb]
    rfl
  rcases asked.submitted_dispatch .reset items with
    ⟨hs, hjobs, -⟩ | ⟨front, tail, -, -, -, -, hreset, -⟩
  · rw [e]
    refine ⟨?_, ?_⟩
    · refine hjobs.trans ?_
      show ix.worker.supersede.2.jobs ++ _ = _
      rw [Worker.jobs_supersede]
      rfl
    · show some (asked.dispatch .reset items).1 = _
      rw [ticket_dispatch, hs]
      rfl
  · exact absurd rfl hreset

/-- Jobs after a reset are for its columns. -/
theorem dispatchColumns_rebuilt {columns : List Column} {items : List Item}
    (hb : ix.isBare items = false) :
    (ix.rebuilt columns items).dispatchColumns = orUnclassified columns := by
  rw [rebuilt, hb]
  rfl

theorem Orderly.rebuilt (h : ix.Orderly) (columns : List Column) (items : List Item) :
    (ix.rebuilt columns items).Orderly := by
  have hq : (ix.rebuilt columns items).Quiet := h.quiet.rebuilt columns items
  unfold Index.rebuilt at hq ⊢
  split
  · rename_i hb
    rw [if_pos hb] at hq
    refine ⟨⟨h.worker, h.outstanding_eq, ?_, ?_, Store.sound_empty⟩, hq, h.idle_iff⟩
    · exact iff_of_false Bool.false_ne_true Bool.false_ne_true
    · exact fun hr => absurd hr Bool.false_ne_true
  · rename_i hb
    rw [if_neg hb] at hq
    have ho : ix.outstanding = ix.worker.supersede.2.jobs.length := by
      rw [Worker.jobs_supersede]
      exact h.outstanding_eq
    refine ⟨⟨h.worker.supersede.submit .reset _ items, outstanding_dispatch .reset items ho,
      iff_of_true rfl rfl, fun _ => ?_, h.store⟩, hq, idle_iff_dispatch .reset items ho⟩
    have hj := jobs_rebuilt columns (eq_false_of_ne_true hb)
    unfold Index.rebuilt at hj
    rw [if_neg hb] at hj
    rw [hj.1, hj.2]
    exact ⟨_, List.mem_append_right _ (List.mem_singleton_self _), rfl, rfl⟩

/-! ## 4. Applying a job -/

theorem Coherent.resubmitted (h : ix.Coherent) (job : FinishedJob) : (ix.resubmitted job).Coherent := by
  rw [resubmitted_eq]
  exact dispatchSome_induct (P := fun r => r.2.Coherent) (fun _ => h) (h.dispatch .add _)

/-- The index once the first finished job has been taken from the worker. -/
def popped (ix : Index) (rest : List FinishedJob) : Index :=
  { ix with worker := { ix.worker with finished := rest } }

section Applying

variable {job : FinishedJob} {rest : List FinishedJob}

theorem jobs_popped (hf : ix.worker.finished = job :: rest) :
    ix.jobs = job.toJob.unmarked :: (ix.popped rest).jobs := Worker.jobs_of_finished hf

theorem mem_jobs_of_finished (hf : ix.worker.finished = job :: rest) : job.toJob.unmarked ∈ ix.jobs :=
  jobs_popped hf ▸ List.mem_cons_self

theorem mem_jobs_of_popped (hf : ix.worker.finished = job :: rest) {other : Job}
    (h : other ∈ (ix.popped rest).jobs) : other ∈ ix.jobs := jobs_popped hf ▸ List.mem_cons_of_mem _ h

theorem met_popped : (ix.popped rest).met = ix.met.popped rest := by
  unfold met
  show (if ix.resetting then _ else _) = _
  split <;> rfl

/-- A delivery finds no finished job, or applies the first one. -/
theorem delivered_cases (ix : Index) : (ix.worker.finished = [] ∧ ix.delivered = ix) ∨
    ∃ job rest, ix.worker.finished = job :: rest ∧ ix.delivered = (ix.popped rest).applied job := by
  unfold delivered Worker.next?
  cases hf : ix.worker.finished with
  | nil => exact Or.inl ⟨rfl, rfl⟩
  | cons job rest => exact Or.inr ⟨job, rest, rfl, rfl⟩

/-- A delivery comes to the outcome of the first finished job, but for what is shown and told of it. -/
theorem delivered_outcome (hf : ix.worker.finished = job :: rest) :
    ∃ stage summary notifier batchesApplied resets, (ix.popped rest).Outcome job stage ∧
      ix.delivered = { booked stage job with summary, notifier, batchesApplied, resets } := by
  have e : ix.delivered = (ix.popped rest).applied job := by
    unfold delivered Worker.next?
    rw [hf]
    rfl
  rw [e]
  exact (ix.popped rest).applied_outcome job

/-- The index that a job meets agrees in its parts, the job no longer being counted. -/
theorem Coherent.popped_met (h : ix.Coherent) (hf : ix.worker.finished = job :: rest) :
    (ix.popped rest).applying.met.Coherent := by
  have hj := jobs_popped hf
  have ho := h.outstanding_eq
  rw [hj, List.length_cons] at ho
  rw [met_applying, met_popped]
  refine ⟨?_, ?_, ?_, fun hr => ?_, h.store_met⟩
  · show Worker.Orderly { ix.met.worker with finished := rest }
    rw [worker_met]
    exact h.worker.rest hf
  · show ix.outstanding - 1 = (Worker.jobs { ix.met.worker with finished := rest }).length
    rw [worker_met, ho]
    rfl
  · show ix.met.resetting = true ↔ ix.met.pendingColumns.isSome = true
    rw [resetting_met, h.pendingColumns_met]
    exact iff_of_false Bool.false_ne_true Bool.false_ne_true
  · have hn : ix.met.resetting = true := hr
    rw [resetting_met] at hn
    cases hn

/-- What a job comes to leaves the parts agreeing. -/
theorem Coherent.outcome (h : ix.Coherent) (hf : ix.worker.finished = job :: rest) {stage : Index}
    (ho : (ix.popped rest).Outcome job stage) : stage.Coherent := by
  have hm : (ix.popped rest).applying.met.Coherent := h.popped_met hf
  cases ho with
  | dropped hr hs =>
    subst hs
    have hj := jobs_popped hf
    have ho := h.outstanding_eq
    rw [hj, List.length_cons] at ho
    refine ⟨h.worker.rest hf, ?_, h.resetting_iff, fun hre => ?_, h.store⟩
    · show ix.outstanding - 1 = (ix.popped rest).jobs.length
      rw [ho]
      rfl
    · -- the rebuild that is awaited is the newest reset, so it is not the dropped one
      obtain ⟨other, hm, hk, hl⟩ := h.awaited hre
      rw [hj] at hm
      rcases List.mem_cons.mp hm with rfl | hm
      · unfold replaces at hr
        simp only [Bool.and_eq_true, bne_iff_ne] at hr
        exact absurd hl hr.2
      · exact ⟨other, hm, hk, hl⟩
  | taken hr hc hs =>
    subst hs
    have hbatch : ((ix.popped rest).wanted job).Sound :=
      sound_wanted _ (h.worker.batch_eq job (hf ▸ List.mem_cons_self))
    have hst : (ix.popped rest).met.store.Sound := by
      rw [met_popped]
      exact h.store_met
    exact ⟨hm.worker, hm.outstanding_eq, hm.resetting_iff, hm.awaited, hst.take hbatch _⟩
  | again hr hc hs =>
    subst hs
    exact hm.resubmitted job

theorem Orderly.delivered (h : ix.Orderly) : ix.delivered.Orderly := by
  have hq : ix.delivered.Quiet := h.quiet.delivered
  rcases ix.delivered_cases with ⟨-, e⟩ | ⟨job, rest, hf, -⟩
  · rw [e]
    exact h
  · obtain ⟨stage, summary, notifier, batchesApplied, resets, ho, e⟩ := delivered_outcome hf
    have hs : stage.Coherent := h.outcome hf ho
    rw [e] at hq ⊢
    refine ⟨⟨hs.worker, hs.outstanding_eq, hs.resetting_iff, hs.awaited, hs.store⟩, hq, ?_⟩
    show (if stage.outstanding = 0 then Phase.idle else Phase.awaitingBatch) = .idle ↔
      stage.outstanding = 0
    split
    · exact iff_of_true rfl ‹_›
    · exact iff_of_false (fun e => by cases e) ‹_›

end Applying

/-! ## 5. Runs -/

/-- **Every step keeps the invariant.** -/
theorem Orderly.after (h : ix.Orderly) (s : Step) : (ix.after s).Orderly := by
  cases s with
  | reset columns items => exact h.rebuilt columns items
  | add items => exact h.dispatchSome .add _
  | update items => exact updated_induct (P := Orderly) h fun _ kind part _ _ h => h.dispatchSome kind part
  | fullReload items => exact h.rebuilt _ items
  | remove ids => exact h.removed ids
  | hideColumn i => exact h.hidden i
  | setSummaryShown shown =>
    have hq : (ix.after (.setSummaryShown shown)).Quiet := h.quiet.after _
    revert hq
    show (ix.summarised shown).Quiet → (ix.summarised shown).Orderly
    unfold summarised
    split
    · exact fun _ => h
    · exact fun hq => ⟨⟨h.worker, h.outstanding_eq, h.resetting_iff, h.awaited, h.store⟩, hq,
        h.idle_iff⟩
  | decorationReady id =>
    exact ⟨⟨h.worker, h.outstanding_eq, h.resetting_iff, h.awaited, h.store⟩,
      h.quiet.after (.decorationReady id), h.idle_iff⟩
  | subscribe =>
    exact ⟨⟨h.worker, h.outstanding_eq, h.resetting_iff, h.awaited, h.store⟩, h.quiet.after .subscribe,
      h.idle_iff⟩
  | start =>
    have hj : ix.worker.start.jobs = ix.worker.jobs := ix.worker.jobs_start
    refine ⟨⟨h.worker.start, ?_, h.resetting_iff, ?_, h.store⟩, h.quiet.after .start, h.idle_iff⟩
    · show ix.outstanding = ix.worker.start.jobs.length
      rw [hj]
      exact h.outstanding_eq
    · show _ → ∃ job ∈ ix.worker.start.jobs, _
      rw [hj]
      exact h.awaited
  | finish =>
    have hj : ix.worker.finish.jobs = ix.worker.jobs := ix.worker.jobs_finish
    refine ⟨⟨h.worker.finish, ?_, h.resetting_iff, ?_, h.store⟩, h.quiet.after .finish, h.idle_iff⟩
    · show ix.outstanding = ix.worker.finish.jobs.length
      rw [hj]
      exact h.outstanding_eq
    · show _ → ∃ job ∈ ix.worker.finish.jobs, _
      rw [hj]
      exact h.awaited
  | deliver => exact h.delivered

/-- **The invariant holds after every run.** -/
theorem Orderly.foldl_after (h : ix.Orderly) (steps : List Step) :
    (steps.foldl Index.after ix).Orderly :=
  List.foldlRecOn (motive := Orderly) steps Index.after h fun _ h s _ => h.after s

/-! ## 6. The grouper -/

theorem grouper_dispatchSome (kind : JobKind) (items : List Item) :
    (ix.dispatchSome kind items).2.worker.grouper = ix.worker.grouper :=
  dispatchSome_induct (P := fun r => r.2.worker.grouper = _) (fun _ => rfl)
    (ix.worker.grouper_submit kind ix.dispatchColumns items)

theorem grouper_refreshSummary : ix.refreshSummary.worker.grouper = ix.worker.grouper := by
  obtain ⟨summary, notifier, e⟩ := ix.refreshSummary_eq
  rw [e]

theorem grouper_rebuilt (columns : List Column) (items : List Item) :
    (ix.rebuilt columns items).worker.grouper = ix.worker.grouper := by
  unfold rebuilt
  split
  · rfl
  · exact ix.worker.supersede.2.grouper_submit .reset _ items

theorem grouper_delivered : ix.delivered.worker.grouper = ix.worker.grouper := by
  rcases ix.delivered_cases with ⟨-, e⟩ | ⟨job, rest, hf, -⟩
  · rw [e]
  · obtain ⟨stage, summary, notifier, batchesApplied, resets, ho, e⟩ := delivered_outcome hf
    have hm : (ix.popped rest).applying.met.worker.grouper = ix.worker.grouper := by
      rw [worker_met]
      rfl
    rw [e]
    show stage.worker.grouper = _
    cases ho with
    | dropped hr hs => rw [hs]; rfl
    | taken hr hc hs => rw [hs]; exact hm
    | again hr hc hs =>
      rw [hs, resubmitted]
      split
      · exact hm
      · exact (Worker.grouper_submit _ _ _ _).trans hm

/-- What groups items is fixed once and for all. -/
theorem grouper_after (s : Step) : (ix.after s).worker.grouper = ix.worker.grouper := by
  cases s with
  | reset columns items => exact grouper_rebuilt columns items
  | add items => exact grouper_dispatchSome .add _
  | update items =>
    exact updated_induct (P := fun ix' => ix'.worker.grouper = ix.worker.grouper) rfl
      fun _ kind part _ _ h => (grouper_dispatchSome kind part).trans h
  | fullReload items => exact grouper_rebuilt _ items
  | remove ids =>
    show (ix.removed ids).worker.grouper = _
    unfold removed
    split
    · rfl
    · exact grouper_refreshSummary
  | hideColumn i =>
    show (ix.hidden i).worker.grouper = _
    unfold hidden
    split
    · rfl
    · exact grouper_refreshSummary
  | setSummaryShown shown =>
    show (ix.summarised shown).worker.grouper = _
    unfold summarised
    split <;> rfl
  | decorationReady id => rfl
  | subscribe => rfl
  | start => exact ix.worker.grouper_start
  | finish => exact ix.worker.grouper_finish
  | deliver => exact grouper_delivered

theorem grouper_foldl_after (steps : List Step) :
    (steps.foldl after ix).worker.grouper = ix.worker.grouper := by
  induction steps generalizing ix with
  | nil => rfl
  | cons s steps ih => exact ih.trans (grouper_after s)

end MediaIndex.Index
