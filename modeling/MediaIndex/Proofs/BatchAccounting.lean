import MediaIndex.Proofs.Index.Deliveries

/-!
# The accounts of an index

The index counts its jobs apart from the worker that has them, and remembers removals by the tickets of
jobs. After every run the counts agree, and what is remembered concerns outstanding jobs only.

* `Index.Remembers` -- removals are remembered with tickets of outstanding jobs;
* `Remembers.dispatch`, `Remembers.buried`, `Remembers.delivered` -- what the steps do to them;
* `Index.Tallied`, `Tallied.after` -- this and the numbers of the jobs, as an invariant;
* `batches_accounted_for` -- the accounts in every state between operations.
-/

namespace MediaIndex.Index

variable {ix ix' : Index} {done : List FinishedJob} {n m : Nat}

/-! ## 1. Removals that are remembered -/

/-- Removals are remembered with tickets greater than `n` that have been given out. -/
def Remembers (ix : Index) (n : Nat) : Prop :=
  ∀ (id : ItemId) (ticket : Ticket), ix.tombstones[id]? = some ticket →
    n < ticket ∧ ticket ≤ ix.worker.lastTicket

theorem Remembers.of_parts_eq (h : ix.Remembers n) (ht : ix'.tombstones = ix.tombstones)
    (hl : ix'.worker.lastTicket = ix.worker.lastTicket) : ix'.Remembers n := by
  unfold Remembers
  rw [ht, hl]
  exact h

/-- Items that are handed over are no longer remembered as removed, and tickets grow. -/
theorem Remembers.dispatchSome (h : ix.Remembers n) (kind : JobKind) (items : List Item) :
    (ix.dispatchSome kind items).2.Remembers n := by
  refine dispatchSome_induct (P := fun r => r.2.Remembers n) (fun _ => h) fun id ticket ht => ?_
  have ht : (ix.dispatch kind items).2.tombstones[id]? = some ticket := ht
  rw [getElem?_tombstones_dispatch] at ht
  split at ht
  · cases ht
  · obtain ⟨hn, hl⟩ := h id ticket ht
    exact ⟨hn, Nat.le_trans hl (ix.worker.lastTicket_le_submit kind ix.dispatchColumns items)⟩

theorem Remembers.updated (h : ix.Remembers n) (items : List Item) : (ix.updated items).Remembers n :=
  updated_induct (P := fun ix' => ix'.Remembers n) h fun _ kind part _ _ h => h.dispatchSome kind part

theorem Remembers.rebuilt (h : ix.Remembers n) (columns : List Column) (items : List Item) :
    (ix.rebuilt columns items).Remembers n := by
  cases hb : ix.isBare items with
  | true =>
    rw [rebuilt_of_bare hb]
    exact h
  | false =>
    intro id ticket ht
    rw [getElem?_tombstones_rebuilt hb] at ht
    split at ht
    · cases ht
    · obtain ⟨hn, hl⟩ := h id ticket ht
      refine ⟨hn, Nat.le_trans hl ?_⟩
      unfold Index.rebuilt
      rw [hb, if_neg Bool.false_ne_true]
      exact ix.worker.supersede.2.lastTicket_le_submit .reset _ items

/-- A removal is remembered with the newest ticket, which an outstanding job has. -/
theorem Remembers.buried (h : ix.Remembers n) (hn : ix.outstanding ≠ 0 → n < ix.worker.lastTicket)
    (ids : List ItemId) : (ix.buried ids).Remembers n := by
  intro id ticket ht
  rw [getElem?_tombstones_buried] at ht
  split at ht
  · rename_i hb
    cases ht
    exact ⟨hn hb.1, Nat.le_refl _⟩
  · exact h id ticket ht

theorem Remembers.refreshSummary (h : ix.Remembers n) : ix.refreshSummary.Remembers n := by
  obtain ⟨summary, notifier, e⟩ := ix.refreshSummary_eq
  rw [e]
  exact h

theorem Remembers.removed (h : ix.Remembers n) (hn : ix.outstanding ≠ 0 → n < ix.worker.lastTicket)
    (ids : List ItemId) : (ix.removed ids).Remembers n := by
  have hd : ((ix.buried ids).detached ids).Remembers n := h.buried hn ids
  unfold Index.removed
  split
  · exact hd
  · exact hd.refreshSummary

theorem Remembers.hidden (h : ix.Remembers n) (i : Nat) : (ix.hidden i).Remembers n := by
  unfold Index.hidden
  split
  · exact h
  · rename_i column _
    have hn : (ix.narrowed i column).Remembers n := h
    exact hn.refreshSummary

theorem Remembers.summarised (h : ix.Remembers n) (shown : Bool) : (ix.summarised shown).Remembers n := by
  unfold Index.summarised
  split
  · exact h
  · exact h

/-- A job that has been dealt with ends the removals that no later job could undo. -/
theorem Remembers.booked {job : FinishedJob} (h : ix.Remembers n) : (ix.booked job).Remembers job.ticket := by
  intro id ticket ht
  have hb : (ix.booked job).tombstones[id]? =
      ix.tombstones[id]?.filter fun removedAt => decide (job.ticket < removedAt) :=
    Std.ExtTreeMap.getElem?_filter'
  rw [hb, Option.filter_eq_some_iff, decide_eq_true_iff] at ht
  exact ⟨ht.2, (h id ticket ht.1).2⟩

theorem Remembers.outcome {job : FinishedJob} {rest : List FinishedJob} {stage : Index}
    (h : ix.Remembers n) (hout : (ix.popped rest).Outcome job stage) : stage.Remembers n := by
  have hmet : (ix.popped rest).applying.met.Remembers n :=
    h.of_parts_eq tombstones_met (by rw [worker_met]; rfl)
  cases hout with
  | dropped hr hs =>
    subst hs
    exact h
  | taken hr hc hs =>
    subst hs
    exact hmet
  | again hr hc hs =>
    subst hs
    rw [resubmitted_eq]
    exact hmet.dispatchSome .add _

/-! ## 2. The invariant -/

/-- The jobs are numbered in the order of delivery, and removals are remembered for outstanding jobs. -/
structure Tallied (ix : Index) (done : List FinishedJob) : Prop where
  numbered : ix.Numbered done
  remembers : ix.Remembers done.length

theorem tallied_ofOptions (extractor : Extractor) (options : IndexOptions) :
    (ofOptions extractor options).Tallied [] where
  numbered := numbered_ofOptions extractor options
  remembers id ticket ht := by
    have hn : (∅ : Std.ExtTreeMap ItemId Ticket)[id]? = some ticket := ht
    rw [Std.ExtTreeMap.getElem?_empty] at hn
    cases hn

/-- While jobs are outstanding, the newest ticket is one of theirs. -/
theorem Tallied.length_lt (h : ix.Tallied done) (ho : ix.Coherent) (hn : ix.outstanding ≠ 0) :
    done.length < ix.worker.lastTicket := by
  have hcount := h.numbered.count_eq
  rw [List.length_map] at hcount
  rw [ho.outstanding_eq, jobs] at hn
  rw [← hcount]
  exact Nat.lt_add_of_pos_right (Nat.pos_of_ne_zero hn)

theorem Tallied.delivered (h : ix.Tallied done) : ix.delivered.Tallied (done ++ ix.delivery .deliver) := by
  have hnum : ix.delivered.Numbered (done ++ ix.delivery .deliver) := h.numbered.delivered
  refine ⟨hnum, ?_⟩
  rcases ix.delivered_cases with ⟨hf, e⟩ | ⟨job, rest, hf, -⟩
  · rw [e, delivery_of_none hf, List.append_nil]
    exact h.remembers
  · obtain ⟨stage, summary, notifier, batchesApplied, resets, hout, e⟩ := delivered_outcome hf
    have hpopped : (ix.popped rest).worker.Numbered (done.map (·.ticket) ++ [job.ticket]) :=
      h.numbered.rest hf
    have hticket : job.ticket = (done ++ [job]).length := by
      rw [hpopped.last_eq, List.length_map, List.length_append, List.length_singleton]
    have hbooked : (stage.booked job).Remembers job.ticket := (h.remembers.outcome hout).booked
    rw [e, delivery_of_finished hf, ← hticket]
    exact hbooked

/-- **Every step keeps the accounts.** -/
theorem Tallied.after (h : ix.Tallied done) (ho : ix.Orderly) (s : Step) :
    (ix.after s).Tallied (done ++ ix.delivery s) := by
  have hnum := h.numbered.after s
  have hstay (hr : (ix.after s).Remembers done.length) (hd : ix.delivery s = []) :
      (ix.after s).Tallied (done ++ ix.delivery s) := by
    refine ⟨hnum, ?_⟩
    rw [hd, List.append_nil]
    exact hr
  cases s with
  | reset columns items => exact hstay (h.remembers.rebuilt columns items) rfl
  | add items => exact hstay (h.remembers.dispatchSome .add _) rfl
  | update items => exact hstay (h.remembers.updated items) rfl
  | fullReload items => exact hstay (h.remembers.rebuilt _ items) rfl
  | remove ids => exact hstay (h.remembers.removed (h.length_lt ho.toCoherent) ids) rfl
  | hideColumn i => exact hstay (h.remembers.hidden i) rfl
  | setSummaryShown shown => exact hstay (h.remembers.summarised shown) rfl
  | decorationReady id => exact hstay h.remembers rfl
  | subscribe => exact hstay h.remembers rfl
  | start => exact hstay (h.remembers.of_parts_eq rfl ix.worker.lastTicket_start) rfl
  | finish => exact hstay (h.remembers.of_parts_eq rfl ix.worker.lastTicket_finish) rfl
  | deliver => exact h.delivered

/-- **The accounts hold after every run.** -/
theorem Tallied.foldl_after (h : ix.Tallied done) (ho : ix.Orderly) (steps : List Step) :
    (steps.foldl Index.after ix).Tallied (done ++ ix.deliveries steps) := by
  induction steps generalizing ix done with
  | nil =>
    rw [deliveries, List.append_nil]
    exact h
  | cons s steps ih =>
    rw [deliveries, ← List.append_assoc]
    exact ih (h.after ho s) (ho.after s)

/-! ## 3. Runs -/

/-- The accounts of an index between operations, when some jobs have been delivered. -/
structure Accounts (ix : Index) (done : List FinishedJob) : Prop where
  phase_ne : ix.phase ≠ .applying
  idle_iff : ix.phase = .idle ↔ ix.outstanding = 0
  outstanding_eq : ix.outstanding =
    ix.worker.waiting.length + ix.worker.running.toList.length + ix.worker.finished.length
  /-- When a finished job is applied, there is a job to count down by. -/
  outstanding_pos : ix.worker.finished ≠ [] → 0 < ix.outstanding
  /-- The jobs delivered so far had the tickets `1, 2, …`, each once and in this order. -/
  tickets_eq : done.map (·.ticket) = List.range' 1 done.length
  /-- They are all jobs that there have been but for those outstanding. -/
  count_eq : done.length + ix.outstanding = ix.worker.lastTicket
  resetting_iff : ix.resetting = true ↔ ix.pendingColumns.isSome = true
  /-- The rebuild of a pending reset is outstanding. -/
  awaited : ix.resetting = true → ∃ job ∈ ix.jobs, job.kind = .reset ∧ ix.latestReset = some job.ticket
  settled : ix.phase = .idle → ix.resetting = false ∧ ix.pendingColumns = none
  /-- Removals are remembered with tickets of outstanding jobs. -/
  remembers : ∀ (id : ItemId) (ticket : Ticket), ix.tombstones[id]? = some ticket →
    done.length < ticket ∧ ticket ≤ ix.worker.lastTicket
  forgotten : ix.phase = .idle → ix.tombstones = ∅

theorem Tallied.accounts (h : ix.Tallied done) (ho : ix.Orderly) : ix.Accounts done := by
  have hout : ix.outstanding = ix.worker.outstanding := ho.outstanding_eq.trans ix.worker.length_jobs
  have hcount : done.length + ix.outstanding = ix.worker.lastTicket := by
    have hc := h.numbered.count_eq
    rw [List.length_map] at hc
    rw [ho.outstanding_eq]
    exact hc
  have htickets := h.numbered.delivered_eq
  rw [List.length_map] at htickets
  refine ⟨ho.quiet.phase_ne, ho.idle_iff, hout, fun hf => ?_, htickets, hcount, ho.resetting_iff,
    ho.awaited, fun hi => ?_, h.remembers, fun hi => ?_⟩
  · have hpos := List.length_pos_iff.mpr hf
    rw [hout, Worker.outstanding]
    omega
  · have hr := ho.resetting_eq_false hi
    exact ⟨hr, ho.toCoherent.pendingColumns_eq_none hr⟩
  · -- no ticket is greater than the number of delivered jobs when these are all jobs
    rw [ho.idle_iff.mp hi, Nat.add_zero] at hcount
    refine Std.ExtTreeMap.ext_getElem? fun id => ?_
    rw [Std.ExtTreeMap.getElem?_empty]
    cases ht : ix.tombstones[id]? with
    | none => rfl
    | some ticket =>
      obtain ⟨hlt, hle⟩ := h.remembers id ticket ht
      rw [hcount] at hlt
      exact absurd hle (Nat.not_le_of_lt hlt)

/-- **The accounts agree after every run.** Whatever is asked of the index and however the worker
    proceeds, between operations the index counts the jobs that its worker has and is idle exactly when
    there are none; the jobs delivered so far had the tickets `1, 2, …` in this order, and with the
    outstanding ones they are all; a reset is pending exactly while columns are, and its rebuild is
    outstanding then; and removals are remembered for outstanding jobs only. -/
theorem batches_accounted_for (extractor : Extractor) (options : IndexOptions) (steps : List Step) :
    ∃ ix, (ofOptions extractor options).run steps = .ok ix ∧
      ix.Accounts ((ofOptions extractor options).deliveries steps) := by
  have ho := orderly_ofOptions extractor options
  have htallied := (tallied_ofOptions extractor options).foldl_after ho steps
  exact ⟨_, run_eq ho.quiet steps, htallied.accounts (ho.foldl_after steps)⟩

end MediaIndex.Index
