import MediaIndex.Proofs.Index.Step
import MediaIndex.Proofs.Store.Merge

/-!
# What a step does to the parts of the index

Handing items to the worker and applying a finished job, told part by part and without what observers
hear of it.

* `Index.jobs` -- the outstanding jobs;
* `mem_jobs_dispatch`, `getElem?_tombstones_dispatch` -- what handing items to the worker changes;
* `Index.met` -- the index as a job that is taken in meets it: cleared, when a reset is pending;
* `Outcome`, `applied_outcome` -- a job is dropped, taken in place of older members, or submitted again.
-/

namespace MediaIndex.Index

variable {ix : Index} {job : FinishedJob} {id : ItemId} {ticket : Ticket}

/-! ## 1. Handing items to the worker -/

/-- The outstanding jobs, the next to be delivered first. -/
def jobs (ix : Index) : List Job := ix.worker.jobs

section Dispatch

variable (ix) (kind : JobKind) (items : List Item)

theorem submitted_dispatch : ix.worker.Submitted kind ix.dispatchColumns items
    (ix.worker.submit kind ix.dispatchColumns items).1 (ix.dispatch kind items).2.worker :=
  ix.worker.submitted_submit kind ix.dispatchColumns items

theorem ticket_dispatch :
    (ix.dispatch kind items).1 = (ix.worker.submit kind ix.dispatchColumns items).1.ticket := rfl

theorem getElem?_tombstones_dispatch : (ix.dispatch kind items).2.tombstones[id]? =
    if id ∈ idsOf items then none else ix.tombstones[id]? := by
  show (items.foldl (fun t item => t.erase item.id) ix.tombstones)[id]? = _
  generalize ix.tombstones = t
  induction items generalizing t with
  | nil => exact (if_neg List.not_mem_nil).symm
  | cons item items ih =>
    rw [List.foldl_cons, ih, Std.ExtTreeMap.getElem?_erase]
    simp only [Std.compare_eq_iff_eq, mem_idsOf_cons]
    by_cases h : item.id = id
    · rw [if_pos h, if_pos (Or.inl h.symm), ite_self]
    · rw [if_neg h]
      simp only [Ne.symm h, false_or]

/-- A job that is outstanding afterwards was so before, or has the items handed over: it is new, or it
    has taken them in. -/
theorem mem_jobs_dispatch {job : Job} (h : job ∈ (ix.dispatch kind items).2.jobs) : job ∈ ix.jobs ∨
    (job.kind = kind ∧ job.columns = ix.dispatchColumns ∧ (job.items = items ∨
      ∃ tail ∈ ix.jobs, tail.kind = kind ∧ job.items = MediaIndex.absorb tail.items items)) := by
  unfold jobs at h ⊢
  rcases ix.submitted_dispatch kind items with
    ⟨-, hjobs, -⟩ | ⟨front, tail, -, hold, hjobs, -, -, hkind, hcolumns⟩
  · rw [hjobs] at h
    rcases List.mem_append.mp h with h | h
    · exact Or.inl h
    · rw [List.mem_singleton.mp h]
      exact Or.inr ⟨rfl, rfl, Or.inl rfl⟩
  · rw [hjobs] at h
    rw [hold]
    rcases List.mem_append.mp h with h | h
    · exact Or.inl (List.mem_append_left _ h)
    · rw [List.mem_singleton.mp h]
      have htail : tail ∈ front ++ [tail] := List.mem_append_right _ List.mem_cons_self
      exact Or.inr ⟨hkind, hcolumns, Or.inr ⟨tail, htail, hkind, rfl⟩⟩

variable {ix} in
/-- The index counts the jobs that the worker has. -/
theorem outstanding_dispatch (h : ix.outstanding = ix.jobs.length) :
    (ix.dispatch kind items).2.outstanding = (ix.dispatch kind items).2.jobs.length := by
  unfold jobs at h ⊢
  rcases ix.submitted_dispatch kind items with ⟨hs, hjobs, -⟩ | ⟨front, tail, hs, hold, hjobs, -⟩
  · have ho : (ix.dispatch kind items).2.outstanding = ix.outstanding + 1 := by
      simp only [dispatch, hs]
    rw [ho, hjobs, h, List.length_append]
    rfl
  · have ho : (ix.dispatch kind items).2.outstanding = ix.outstanding := by
      simp only [dispatch, hs]
    rw [ho, hjobs, h, hold, List.length_append, List.length_append]
    rfl

end Dispatch

/-! ## 2. The index that a job meets -/

/-- The index as a job that is taken in meets it: cleared, when a reset is pending. -/
def met (ix : Index) : Index := if ix.resetting then ix.clear else ix

theorem met_of_not_resetting (h : ix.resetting = false) : ix.met = ix := by
  rw [met, h]
  rfl

theorem met_of_resetting (h : ix.resetting = true) : ix.met = ix.clear := by
  rw [met, h]
  rfl

theorem resetting_met : ix.met.resetting = false := by
  unfold met
  split
  · rfl
  · exact eq_false_of_ne_true ‹_›

theorem worker_met : ix.met.worker = ix.worker := by
  unfold met
  split <;> rfl

theorem tombstones_met : ix.met.tombstones = ix.tombstones := by
  unfold met
  split <;> rfl

theorem latestReset_met : ix.met.latestReset = ix.latestReset := by
  unfold met
  split <;> rfl

theorem store_met : ix.met.store = if ix.resetting then {} else ix.store := by
  unfold met
  split <;> rfl

/-! ## 3. Bringing the summary up to date -/

theorem refreshSummary_eq (ix : Index) : ∃ summary notifier,
    ix.refreshSummary = { ix with summary, notifier } := by
  unfold refreshSummary
  split
  · split
    · exact ⟨_, _, rfl⟩
    · exact ⟨_, _, rfl⟩
  · exact ⟨_, _, rfl⟩

/-! ## 4. A job that is taken in -/

/-- A job for the columns in force takes the place of what there was of its items. -/
theorem takenIn_of_fresh (h : job.columns = ix.met.layout.keyColumns) : ∃ summary notifier resets,
    ix.takenIn job = { ix.met with
      store := ix.met.store.take ix.met.layout.visible (ix.wanted job), summary, notifier,
        resets } := by
  unfold takenIn met at *
  cases hr : ix.resetting with
  | true =>
    rw [hr] at h
    have ht : ix.opened.clear.takenUp job true = ix.opened.clear.merged (ix.wanted job) := if_pos h
    obtain ⟨summary, notifier, e⟩ := (ix.opened.clear.merged (ix.wanted job)).refreshSummary_eq
    refine ⟨summary, notifier.closed .reset, ix.resets + 1, ?_⟩
    have hs : ix.clear.store.take ix.clear.layout.visible (ix.wanted job) =
        (ix.clear.store.merge ix.clear.layout.visible (ix.wanted job)).store := Store.take_empty
    rw [if_pos rfl, if_pos rfl, ht, e, hs]
    rfl
  | false =>
    rw [hr] at h
    have ht : ix.takenUp job false =
        (ix.detached (ix.wanted job).requested.toList).merged (ix.wanted job) := if_pos h
    obtain ⟨summary, notifier, e⟩ :=
      ((ix.detached (ix.wanted job).requested.toList).merged (ix.wanted job)).refreshSummary_eq
    refine ⟨summary, notifier, ix.resets, ?_⟩
    rw [if_neg Bool.false_ne_true, if_neg Bool.false_ne_true, ht, e]
    rfl

/-- A job for other columns is submitted again. -/
theorem takenIn_of_stale (h : job.columns ≠ ix.met.layout.keyColumns) : ∃ summary notifier resets,
    ix.takenIn job = { ix.met.resubmitted job with summary, notifier, resets } := by
  unfold takenIn met at *
  cases hr : ix.resetting with
  | true =>
    rw [hr] at h
    have ht : ix.opened.clear.takenUp job true = ix.opened.clear.resubmitted job := if_neg h
    obtain ⟨summary, notifier, e⟩ := (ix.opened.clear.resubmitted job).refreshSummary_eq
    refine ⟨summary, notifier.closed .reset, (ix.opened.clear.resubmitted job).resets + 1, ?_⟩
    rw [if_pos rfl, if_pos rfl, ht, e]
    have hk : ix.opened.clear.kept job = ix.clear.kept job := rfl
    unfold resubmitted
    rw [hk]
    cases (ix.clear.kept job).isEmpty with
    | true => rfl
    | false => rfl
  | false =>
    rw [hr] at h
    have ht : ix.takenUp job false = ix.resubmitted job := if_neg h
    obtain ⟨summary, notifier, e⟩ := (ix.resubmitted job).refreshSummary_eq
    refine ⟨summary, notifier, (ix.resubmitted job).resets, ?_⟩
    rw [if_neg Bool.false_ne_true, if_neg Bool.false_ne_true, ht, e]

/-- Once a job has been taken in no reset is pending. -/
theorem resetting_takenIn (ix : Index) (job : FinishedJob) : (ix.takenIn job).resetting = false := by
  by_cases hc : job.columns = ix.met.layout.keyColumns
  · obtain ⟨summary, notifier, resets, e⟩ := takenIn_of_fresh hc
    rw [e]
    exact resetting_met
  · obtain ⟨summary, notifier, resets, e⟩ := takenIn_of_stale hc
    rw [e]
    show (ix.met.resubmitted job).resetting = false
    rw [resubmitted_eq]
    exact dispatchSome_induct (P := fun r => r.2.resetting = false) (fun _ => resetting_met) resetting_met

/-! ## 5. A job that is applied -/

/-- What becomes of a job: the index before the bookkeeping that ends its application. -/
inductive Outcome (ix : Index) (job : FinishedJob) (stage : Index) : Prop
  /-- It is a rebuild that has been replaced. -/
  | dropped (hr : ix.replaces job = true) (hs : stage = ix.applying)
  /-- Its batch takes the place of what there was of its items. -/
  | taken (hr : ix.replaces job = false) (hc : job.columns = ix.met.layout.keyColumns)
      (hs : stage = { ix.applying.met with
        store := ix.met.store.take ix.met.layout.visible (ix.wanted job) })
  /-- It was computed for other columns, and its items are submitted again. -/
  | again (hr : ix.replaces job = false) (hc : job.columns ≠ ix.met.layout.keyColumns)
      (hs : stage = ix.applying.met.resubmitted job)

/-- The index after the bookkeeping, but for what is shown and told of it. -/
def booked (stage : Index) (job : FinishedJob) : Index :=
  { stage with
    tombstones := stage.tombstones.filter fun _ removedAt => decide (job.ticket < removedAt)
    phase := if stage.outstanding = 0 then .idle else .awaitingBatch }

theorem met_applying : ix.applying.met = { ix.met with
    outstanding := ix.outstanding - 1, phase := .applying } := by
  unfold met
  show (if ix.resetting then _ else _) = _
  split <;> rfl

/-- **A job is dropped, taken in place of older members, or submitted again.** -/
theorem applied_outcome (ix : Index) (job : FinishedJob) :
    ∃ stage summary notifier batchesApplied resets, ix.Outcome job stage ∧
      ix.applied job = { booked stage job with summary, notifier, batchesApplied, resets } := by
  unfold applied
  cases hr : ix.replaces job with
  | true =>
    exact ⟨ix.applying, ix.summary, ix.notifier.batchApplied job.ticket, ix.batchesApplied, ix.resets,
      .dropped hr rfl, rfl⟩
  | false =>
    have hl : ix.applying.met.layout = ix.met.layout := by rw [met_applying]
    have hst : ix.applying.met.store = ix.met.store := by rw [met_applying]
    by_cases hc : job.columns = ix.met.layout.keyColumns
    · obtain ⟨summary, notifier, resets, e⟩ :=
        takenIn_of_fresh (hl.symm ▸ hc : job.columns = ix.applying.met.layout.keyColumns)
      refine ⟨_, summary, notifier.batchApplied job.ticket, ix.applying.met.batchesApplied + 1, resets,
        .taken hr hc rfl, ?_⟩
      rw [e, if_neg Bool.false_ne_true, hl, hst]
      rfl
    · obtain ⟨summary, notifier, resets, e⟩ :=
        takenIn_of_stale (hl.symm ▸ hc : job.columns ≠ ix.applying.met.layout.keyColumns)
      refine ⟨_, summary, notifier.batchApplied job.ticket,
        (ix.applying.met.resubmitted job).batchesApplied + 1, resets, .again hr hc rfl, ?_⟩
      rw [e, if_neg Bool.false_ne_true]
      rfl

/-! ## 6. What a job that is taken in brings -/

theorem sound_wanted (ix : Index) {job : FinishedJob}
    (hb : job.batch = ix.worker.grouper.compute job.items job.columns) :
    (ix.wanted job).Sound := by
  rw [wanted, hb]
  exact (ix.worker.grouper.sound_compute job.items).without

/-- The copies that the batch of a job brings. -/
def copies (ix : Index) (job : FinishedJob) (id : ItemId) : Option Item :=
  if ix.isTombstoned id job.ticket then none else copyOf job.items id

section Wanted

variable (ix) {job : FinishedJob} (hd : (idsOf job.items).Nodup)
  (hb : job.batch = ix.worker.grouper.compute job.items job.columns)

include hd

theorem copies_eq_some_iff {id : ItemId} {item : Item} : ix.copies job id = some item ↔
    ix.isTombstoned id job.ticket = false ∧ item ∈ job.items ∧ item.id = id := by
  unfold copies
  split
  · rename_i ht
    exact iff_of_false (fun e => by cases e) fun h => by rw [ht] at h; cases h.1
  · rename_i ht
    rw [copyOf_eq_some_iff hd]
    exact (and_iff_right (eq_false_of_ne_true ht)).symm

include hb

theorem puts_wanted (key : GroupKey) (id : ItemId) : (ix.wanted job).Puts key id ↔
    ∃ item, ix.copies job id = some item ∧ key ∈ ix.worker.grouper.keySet job.columns item := by
  rw [wanted, Batch.puts_without, hb, Grouper.puts_compute]
  simp only [copies_eq_some_iff ix hd]
  constructor
  · intro h
    obtain ⟨⟨item, hm, hid, hk⟩, ht⟩ := h
    exact ⟨item, ⟨ht, hm, hid⟩, hk⟩
  · intro h
    obtain ⟨item, ⟨ht, hm, hid⟩, hk⟩ := h
    exact ⟨⟨item, hm, hid, hk⟩, ht⟩

theorem mem_requested_wanted (id : ItemId) :
    id ∈ (ix.wanted job).requested ↔ (ix.copies job id).isSome = true := by
  rw [wanted, Batch.mem_requested_without, hb, Grouper.mem_requested_compute, Option.isSome_iff_exists]
  simp only [copies_eq_some_iff ix hd]
  constructor
  · intro h
    obtain ⟨⟨item, hm, hid⟩, ht⟩ := h
    exact ⟨item, ht, hm, hid⟩
  · intro h
    obtain ⟨item, ht, hm, hid⟩ := h
    exact ⟨⟨item, hm, hid⟩, ht⟩

end Wanted

end MediaIndex.Index
