import MediaIndex.Proofs.Index.Carried

/-!
# The jobs as one item sees them

Which outstanding jobs bring a given item, of which kind and with which ticket, and which of them will
still count for it when they are delivered.

* `Index.Brings` -- an outstanding job of some kind, with some ticket, brings the item;
* `brings_dispatch`, `brings_rebuilt`, `brings_delivered` -- what requests and deliveries change;
* `Index.again` -- the items that a delivery submits again;
* `getElem?_tombstones_buried`, `isTombstoned_booked` -- what is remembered of removed items.
-/

namespace MediaIndex.Index

variable {ix ix' : Index} {id : ItemId} {kind k : JobKind} {ticket : Ticket} {items : List Item}

/-! ## 1. Jobs that bring an item -/

/-- An outstanding job of the kind, with the ticket, brings the item. -/
def Brings (ix : Index) (id : ItemId) (kind : JobKind) (ticket : Ticket) : Prop :=
  ∃ job ∈ ix.jobs, id ∈ idsOf job.items ∧ job.kind = kind ∧ job.ticket = ticket

theorem brings_congr (h : ix'.jobs = ix.jobs) :
    ix'.Brings id kind ticket ↔ ix.Brings id kind ticket := by
  rw [Brings, h, Brings]

theorem Brings.ticket_le (h : ix.Brings id kind ticket) (hw : ix.worker.Orderly) :
    ticket ≤ ix.worker.lastTicket := by
  obtain ⟨job, hj, -, -, rfl⟩ := h
  exact hw.ticket_le job hj

/-- **A request brings its items in the job with its ticket, and takes none out of other jobs.** -/
theorem brings_dispatch : (ix.dispatch kind items).2.Brings id k ticket ↔
    ix.Brings id k ticket ∨ (id ∈ idsOf items ∧ k = kind ∧ (ix.dispatch kind items).1 = ticket) := by
  unfold Brings jobs
  rw [ticket_dispatch]
  rcases ix.submitted_dispatch kind items with
    ⟨hs, hjobs, -⟩ | ⟨front, tail, hs, hold, hjobs, -, -, hkind, -⟩
  · rw [hs, hjobs]
    simp only [List.mem_append, List.mem_singleton, or_and_right, exists_or, exists_eq_left]
    refine or_congr_right (and_congr_right fun _ => and_congr_left fun _ => eq_comm)
  · have habsorb : id ∈ idsOf (tail.absorb items).items ↔ id ∈ idsOf tail.items ∨ id ∈ idsOf items :=
      mem_idsOf_absorb
    have hk : (tail.absorb items).kind = kind := hkind
    have ht : (tail.absorb items).ticket = tail.ticket := rfl
    rw [hs, hjobs, hold]
    simp only [List.mem_append, List.mem_singleton, or_and_right, exists_or, exists_eq_left,
      habsorb, hk, ht, hkind, or_assoc]
    refine or_congr_right (or_congr_right (and_congr_right fun _ => and_congr_left fun _ => eq_comm))

theorem brings_dispatchSome : (ix.dispatchSome kind items).2.Brings id k ticket ↔
    ix.Brings id k ticket ∨
    (id ∈ idsOf items ∧ k = kind ∧ (ix.dispatchSome kind items).1 = some ticket) := by
  refine dispatchSome_induct (P := fun r => r.2.Brings id k ticket ↔
    ix.Brings id k ticket ∨ (id ∈ idsOf items ∧ k = kind ∧ r.1 = some ticket)) (fun e => ?_) ?_
  · rw [e]
    exact (or_iff_left fun h => absurd h.1 List.not_mem_nil).symm
  · rw [brings_dispatch]
    exact or_congr_right (and_congr_right fun _ => and_congr_right fun _ => Option.some_inj.symm)

/-- A request has a later ticket than all that is outstanding has, or joins the last job. -/
theorem lt_ticket_dispatchSome {t : Ticket} (h : ∀ job ∈ ix.jobs, t < job.ticket)
    (hl : t ≤ ix.worker.lastTicket) (e : (ix.dispatchSome kind items).1 = some ticket) :
    t < ticket := by
  refine dispatchSome_induct (P := fun r => r.1 = some ticket → t < ticket)
    (fun _ e => by cases e) (fun e => ?_) e
  rw [← Option.some.inj e, ticket_dispatch]
  rcases ix.submitted_dispatch kind items with ⟨hs, -, -⟩ | ⟨front, tail, hs, hold, -⟩
  · rw [hs]
    exact Nat.lt_succ_of_le hl
  · rw [hs]
    exact h tail (by unfold jobs; rw [hold]; exact List.mem_append_right _ (List.mem_singleton_self _))

/-- A reset brings its items in the newest rebuild. -/
theorem brings_rebuilt {columns : List Column} : (ix.rebuilt columns items).Brings id k ticket ↔
    ix.Brings id k ticket ∨
      (id ∈ idsOf items ∧ k = .reset ∧ (ix.rebuilt columns items).latestReset = some ticket) := by
  cases hb : ix.isBare items with
  | true =>
    have hj : (ix.rebuilt columns items).jobs = ix.jobs := by
      rw [rebuilt_of_bare hb]
      rfl
    rw [brings_congr hj, (isBare_iff.mp hb).1]
    exact (or_iff_left fun h => absurd h.1 List.not_mem_nil).symm
  | false =>
    obtain ⟨hjobs, hlatest⟩ := ix.jobs_rebuilt columns hb
    rw [hlatest, Option.some_inj, Brings, hjobs, Brings]
    simp only [List.mem_append, List.mem_singleton, or_and_right, exists_or, exists_eq_left]
    exact or_congr_right (and_congr_right fun _ => and_congr_left fun _ => eq_comm)

/-! ## 2. Jobs that are submitted again -/

/-- The items that a step submits again, since the job it delivers was computed for other columns. -/
def again (ix : Index) : Step → List Item
  | .deliver =>
    match ix.worker.finished with
    | [] => []
    | job :: _ =>
      if ix.replaces job || job.columns == ix.met.layout.keyColumns then [] else ix.kept job
  | _ => []

/-- The ticket with which the step submits them again. -/
def ticketAgain (ix : Index) : Option Ticket :=
  match ix.worker.finished with
  | [] => none
  | _ :: rest => ((ix.popped rest).applying.met.dispatchSome .add (ix.again .deliver)).1

section Delivery

variable {job : FinishedJob} {rest : List FinishedJob}

theorem again_of_none (hf : ix.worker.finished = []) : ix.again .deliver = [] := by
  unfold again
  rw [hf]

theorem again_of_taken (hf : ix.worker.finished = job :: rest)
    (h : ix.replaces job = true ∨ job.columns = ix.met.layout.keyColumns) : ix.again .deliver = [] := by
  unfold again
  rw [hf]
  refine if_pos ?_
  rw [Bool.or_eq_true, beq_iff_eq]
  exact h

theorem again_of_stale (hf : ix.worker.finished = job :: rest) (hr : ix.replaces job = false)
    (hc : job.columns ≠ ix.met.layout.keyColumns) : ix.again .deliver = ix.kept job := by
  unfold again
  rw [hf]
  refine if_neg ?_
  rw [hr, Bool.false_or, beq_iff_eq]
  exact hc

theorem mem_items_of_again {s : Step} {item : Item} (h : item ∈ ix.again s) :
    ∃ job ∈ ix.jobs, item ∈ job.items := by
  unfold again at h
  split at h
  · split at h
    · exact absurd h List.not_mem_nil
    · rename_i job rest hf
      split at h
      · exact absurd h List.not_mem_nil
      · exact ⟨job.toJob.unmarked, mem_jobs_of_finished hf, (List.mem_filter.mp h).1⟩
  · exact absurd h List.not_mem_nil

theorem mem_idsOf_kept : id ∈ idsOf (ix.kept job) ↔
    id ∈ idsOf job.items ∧ ix.isTombstoned id job.ticket = false := by
  rw [kept, mem_idsOf_filter (fun id => !ix.isTombstoned id job.ticket), Bool.not_eq_true']

/-- The batch of a job puts the items that were not removed after its submission. -/
theorem exists_puts_wanted (hb : job.batch = ix.worker.grouper.compute job.items job.columns) :
    (∃ key, (ix.wanted job).Puts key id) ↔ id ∈ idsOf (ix.kept job) := by
  rw [mem_idsOf_kept, wanted, hb]
  simp only [Batch.puts_without, Grouper.puts_compute, exists_and_right]
  refine and_congr_left fun _ => ⟨?_, fun hm => ?_⟩
  · intro h
    obtain ⟨key, item, hm, rfl, -⟩ := h
    exact mem_idsOf_of_mem hm
  · obtain ⟨item, hi, rfl⟩ := mem_idsOf.mp hm
    obtain ⟨key, hk⟩ := Store.exists_mem_of_ne_empty (ix.worker.grouper.keySet_ne_empty job.columns item)
    exact ⟨key, item, hi, rfl, hk⟩

theorem mem_requested_wanted_iff (hb : job.batch = ix.worker.grouper.compute job.items job.columns) :
    id ∈ (ix.wanted job).requested ↔ id ∈ idsOf (ix.kept job) := by
  rw [mem_idsOf_kept, wanted, hb, Batch.mem_requested_without, Grouper.mem_requested_compute, mem_idsOf]

theorem kept_met : (ix.popped rest).applying.met.kept job = ix.kept job := by
  have ht : (ix.popped rest).applying.met.tombstones = ix.tombstones := tombstones_met
  unfold kept isTombstoned
  rw [ht]

theorem brings_popped (hf : ix.worker.finished = job :: rest) : ix.Brings id k ticket ↔
    (id ∈ idsOf job.items ∧ job.kind = k ∧ job.ticket = ticket) ∨
      (ix.popped rest).Brings id k ticket := by
  rw [Brings, jobs_popped hf, Brings]
  simp only [List.mem_cons, or_and_right, exists_or, exists_eq_left]
  exact Iff.rfl

/-- The jobs behind the one that is delivered have greater tickets. -/
theorem lt_of_mem_jobs_popped (ho : ix.worker.Orderly) (hf : ix.worker.finished = job :: rest)
    {other : Job} (h : other ∈ (ix.popped rest).jobs) : job.ticket < other.ticket := by
  have hi := ho.increasing
  have hj : ix.worker.jobs = _ := jobs_popped hf
  rw [hj, List.map_cons, List.pairwise_cons] at hi
  exact hi.1 _ (List.mem_map_of_mem h)

theorem lt_of_brings_popped (ho : ix.worker.Orderly) (hf : ix.worker.finished = job :: rest)
    (h : (ix.popped rest).Brings id k ticket) : job.ticket < ticket := by
  obtain ⟨other, hm, -, -, rfl⟩ := h
  exact lt_of_mem_jobs_popped ho hf hm

/-- What the jobs bring after a job has been dealt with. -/
theorem brings_outcome (hf : ix.worker.finished = job :: rest) {stage : Index}
    (h : (ix.popped rest).Outcome job stage) :
    stage.Brings id k ticket ↔ (ix.popped rest).Brings id k ticket ∨
      (id ∈ idsOf (ix.again .deliver) ∧ k = .add ∧ ix.ticketAgain = some ticket) := by
  have none_again (e : ix.again .deliver = []) :
      ¬ (id ∈ idsOf (ix.again .deliver) ∧ k = .add ∧ ix.ticketAgain = some ticket) := by
    rw [e]
    exact fun h => absurd h.1 List.not_mem_nil
  cases h with
  | dropped hr hs =>
    subst hs
    rw [or_iff_left (none_again (again_of_taken hf (Or.inl hr)))]
    exact brings_congr rfl
  | taken hr hc hs =>
    subst hs
    rw [met_popped] at hc
    rw [or_iff_left (none_again (again_of_taken hf (Or.inr hc)))]
    have hj : (ix.popped rest).applying.met.jobs = (ix.popped rest).jobs := jobs_met
    exact brings_congr hj
  | again hr hc hs =>
    subst hs
    rw [met_popped] at hc
    have hj : (ix.popped rest).applying.met.jobs = (ix.popped rest).jobs := jobs_met
    have ht : ix.ticketAgain =
        ((ix.popped rest).applying.met.dispatchSome .add (ix.again .deliver)).1 := by
      unfold ticketAgain
      rw [hf]
    rw [resubmitted_eq, brings_dispatchSome, brings_congr hj, kept_met, ht, again_of_stale hf hr hc]

/-- What is outstanding after a job has been dealt with has greater tickets. -/
theorem lt_of_brings_outcome (ho : ix.worker.Orderly) (hf : ix.worker.finished = job :: rest)
    {stage : Index} (h : (ix.popped rest).Outcome job stage) (hb : stage.Brings id k ticket) :
    job.ticket < ticket := by
  rcases (brings_outcome hf h).mp hb with hb | ⟨-, -, ht⟩
  · exact lt_of_brings_popped ho hf hb
  · have hj : (ix.popped rest).applying.met.jobs = (ix.popped rest).jobs := jobs_met
    have hw : (ix.popped rest).applying.met.worker = { ix.worker with finished := rest } := worker_met
    unfold ticketAgain at ht
    rw [hf] at ht
    refine lt_ticket_dispatchSome (fun other hm => ?_) ?_ ht
    · rw [hj] at hm
      exact lt_of_mem_jobs_popped ho hf hm
    · rw [hw]
      exact ho.ticket_le job.toJob.unmarked (mem_jobs_of_finished hf)

/-- **A delivery takes the first job away and may submit its items again as an addition.** -/
theorem brings_delivered (hf : ix.worker.finished = job :: rest) : ix.delivered.Brings id k ticket ↔
    (ix.popped rest).Brings id k ticket ∨
      (id ∈ idsOf (ix.again .deliver) ∧ k = .add ∧ ix.ticketAgain = some ticket) := by
  obtain ⟨stage, summary, notifier, batchesApplied, resets, hout, e⟩ := delivered_outcome hf
  rw [e, ← brings_outcome hf hout]
  exact brings_congr rfl

/-! ## 3. Items that were removed -/

/-- A removed item is remembered with the newest ticket, when jobs are outstanding. -/
theorem getElem?_tombstones_buried {ids : List ItemId} : (ix.buried ids).tombstones[id]? =
    if ix.outstanding ≠ 0 ∧ id ∈ ids then some ix.worker.lastTicket else ix.tombstones[id]? := by
  have hfold (t : Std.ExtTreeMap ItemId Ticket) :
      (ids.foldl (fun t id => t.insert id ix.worker.lastTicket) t)[id]? =
        if id ∈ ids then some ix.worker.lastTicket else t[id]? := by
    induction ids generalizing t with
    | nil => exact (if_neg List.not_mem_nil).symm
    | cons a ids ih =>
      rw [List.foldl_cons, ih, Std.ExtTreeMap.getElem?_insert]
      simp only [Std.compare_eq_iff_eq, List.mem_cons, eq_comm (a := id) (b := a)]
      by_cases h : id ∈ ids
      · rw [if_pos h, if_pos (Or.inr h)]
      · simp only [h, if_false, or_false]
  show (if ix.outstanding = 0 then ix.tombstones else _)[id]? = _
  by_cases h : ix.outstanding = 0
  · rw [if_pos h, if_neg fun hn => hn.1 h]
  · rw [if_neg h, hfold]
    simp only [ne_eq, h, not_false_eq_true, true_and]

/-- A reset forgets the removals of the items it brings, and no others. -/
theorem getElem?_tombstones_rebuilt {columns : List Column} (hb : ix.isBare items = false) :
    (ix.rebuilt columns items).tombstones[id]? =
      if id ∈ idsOf items then none else ix.tombstones[id]? := by
  rw [rebuilt, hb, if_neg Bool.false_ne_true]
  exact getElem?_tombstones_dispatch _ .reset items

theorem isTombstoned_eq_false (h : ix.tombstones[id]? = none) (ticket : Ticket) :
    ix.isTombstoned id ticket = false := by
  rw [isTombstoned, h]

theorem isTombstoned_congr (h : ix'.tombstones[id]? = ix.tombstones[id]?) :
    ix'.isTombstoned id ticket = ix.isTombstoned id ticket := by
  rw [isTombstoned, h, isTombstoned]

/-- What is forgotten after a job has been dealt with does not matter for the jobs behind it. -/
theorem isTombstoned_booked {stage : Index} (h : job.ticket < ticket) :
    (stage.booked job).isTombstoned id ticket = stage.isTombstoned id ticket := by
  have hb : (stage.booked job).tombstones[id]? =
      stage.tombstones[id]?.filter fun removedAt => decide (job.ticket < removedAt) :=
    Std.ExtTreeMap.getElem?_filter'
  unfold isTombstoned
  rw [hb]
  cases stage.tombstones[id]? with
  | none => rfl
  | some removedAt =>
    by_cases hr : job.ticket < removedAt
    · rw [Option.filter_some_pos (by simpa using hr)]
    · rw [Option.filter_some_neg (by simpa using hr)]
      exact (decide_eq_false fun hle => hr (Nat.lt_of_lt_of_le h hle)).symm

end Delivery

end MediaIndex.Index
