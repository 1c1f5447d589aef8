import MediaIndex.Proofs.Queue.Tickets

/-!
# A worker whose jobs are taken one after another

The owner of a worker takes finished jobs and, when a job was submitted for other columns than those now
in force, may submit its items again. This ends: what is submitted again is for the columns in force.

* `Worker.workLeft` -- how many jobs can still be taken;
* `workLeft_submit_le`, `workLeft_rest` -- a request adds one to it, a job taken counted for one or two;
* `Worker.Draining` -- what has become of the jobs that there were, and of those that are new;
* `Draining.rest`, `Draining.again` -- taking a job, and submitting its items again, keep this;
* `Worker.Spent`, `spent_settle` -- a worker that nothing holds up finishes all its jobs.
-/

namespace MediaIndex.Worker

variable {w w' start : Worker} {columns : List Column} {job : FinishedJob} {others done : List FinishedJob}

/-! ## 1. Work that is left -/

/-- How many jobs can still be taken: two for a job over other columns, whose items may be submitted
    again, and one for any other. -/
def workLeft (w : Worker) (columns : List Column) : Nat :=
  w.jobs.length + w.jobs.countP fun job => job.columns != columns

theorem workLeft_le (w : Worker) (columns : List Column) : w.workLeft columns ≤ 2 * w.jobs.length := by
  have h : w.jobs.countP (fun job => job.columns != columns) ≤ w.jobs.length := List.countP_le_length
  unfold workLeft
  omega

theorem workLeft_congr (h : w'.jobs = w.jobs) : w'.workLeft columns = w.workLeft columns := by
  rw [workLeft, h, workLeft]

theorem jobs_eq_nil_of_workLeft (h : w.workLeft columns = 0) : w.jobs = [] :=
  List.length_eq_zero_iff.mp (Nat.eq_zero_of_add_eq_zero_right h)

/-- A job that is taken has counted for two when it was submitted for other columns, else for one. -/
theorem workLeft_rest (hf : w.finished = job :: others) : w.workLeft columns =
    workLeft { w with finished := others } columns + (if job.columns = columns then 1 else 2) := by
  rw [workLeft, jobs_of_finished hf, List.length_cons, List.countP_cons, workLeft]
  show _ + (_ + if job.columns != columns then 1 else 0) = _
  by_cases h : job.columns = columns
  · simp only [bne_iff_ne, h, ne_eq, not_true_eq_false, if_true, if_false]
    omega
  · simp only [bne_iff_ne, h, ne_eq, not_false_eq_true, if_true, if_false]
    omega

section Submit

variable (kind : JobKind) (items : List Item)

/-- A request over the columns in force adds one to what is left, or nothing when it joins a job. -/
theorem workLeft_submit_le :
    (w.submit kind columns items).2.workLeft columns ≤ w.workLeft columns + 1 := by
  rcases w.submitted_submit kind columns items with
    ⟨-, hjobs, -⟩ | ⟨front, tail, -, hold, hjobs, -, -, -, hcolumns⟩
  · have hnew (ticket : Ticket) :
        [({ ticket, kind, columns, items } : Job)].countP (fun job => job.columns != columns) = 0 := by
      simp
    rw [workLeft, hjobs, List.length_append, List.countP_append, hnew, List.length_singleton, workLeft]
    omega
  · have hsame : (front ++ [tail.absorb items]).countP (fun job => job.columns != columns) =
        (front ++ [tail]).countP fun job => job.columns != columns := by
      rw [List.countP_append, List.countP_append]
      rfl
    have hlength : (front ++ [tail.absorb items]).length = (front ++ [tail]).length := by
      rw [List.length_append, List.length_append]
      rfl
    rw [workLeft, hjobs, hsame, hlength, workLeft, hold]
    exact Nat.le_succ _

theorem lastTicket_submit_le : (w.submit kind columns items).2.lastTicket ≤ w.lastTicket + 1 := by
  rcases w.submitted_submit kind columns items with ⟨-, -, hlast⟩ | ⟨front, tail, -, -, -, hlast, -⟩
  · exact Nat.le_of_eq hlast
  · exact Nat.le_succ_of_le (Nat.le_of_eq hlast)

/-- A job that has been outstanding before, or is for the columns of the request. -/
theorem mem_jobs_submit {job : Job} (h : job ∈ (w.submit kind columns items).2.jobs) :
    job ∈ w.jobs ∨ job.columns = columns := by
  rcases w.submitted_submit kind columns items with
    ⟨-, hjobs, -⟩ | ⟨front, tail, -, hold, hjobs, -, -, -, hcolumns⟩
  · rw [hjobs] at h
    rcases List.mem_append.mp h with h | h
    · exact Or.inl h
    · rw [List.mem_singleton.mp h]
      exact Or.inr rfl
  · rw [hjobs] at h
    rcases List.mem_append.mp h with h | h
    · exact Or.inl (hold ▸ List.mem_append_left _ h)
    · rw [List.mem_singleton.mp h]
      exact Or.inr hcolumns

/-- The items of a request are in a job for its columns. -/
theorem exists_mem_jobs_submit {item : Item} (hm : item ∈ items) :
    ∃ job ∈ (w.submit kind columns items).2.jobs,
      item.id ∈ idsOf job.items ∧ job.columns = columns := by
  have hid : item.id ∈ idsOf items := mem_idsOf_of_mem hm
  rcases w.submitted_submit kind columns items with
    ⟨-, hjobs, -⟩ | ⟨front, tail, -, -, hjobs, -, -, -, hcolumns⟩
  · rw [hjobs]
    exact ⟨_, List.mem_append_right _ List.mem_cons_self, hid, rfl⟩
  · rw [hjobs]
    have hmem : item.id ∈ idsOf (tail.absorb items).items := mem_idsOf_absorb.mpr (Or.inr hid)
    exact ⟨tail.absorb items, List.mem_append_right _ List.mem_cons_self, hmem, hcolumns⟩

end Submit

/-! ## 2. Jobs taken one after another -/

/-- What has become of a worker since `start`: the jobs `done` have been taken, and the items of those that
    were for other columns than `columns` may have been submitted again. -/
structure Draining (start : Worker) (columns : List Column) (w : Worker) (done : List FinishedJob) :
    Prop where
  /-- The jobs that have been taken are made up for by work that is no longer left. -/
  work_le : done.length + w.workLeft columns ≤ start.workLeft columns
  /-- There is at most one new job for each job that was for other columns. -/
  tickets_le : w.lastTicket ≤ start.lastTicket + done.countP fun job => job.columns != columns
  /-- The new jobs are for the columns in force. -/
  fresh : ∀ job ∈ w.jobs, start.lastTicket < job.ticket → job.columns = columns
  fresh_done : ∀ job ∈ done, start.lastTicket < job.ticket → job.columns = columns

theorem Orderly.draining (h : w.Orderly) (columns : List Column) : w.Draining columns w [] where
  work_le := Nat.le_of_eq (Nat.zero_add _)
  tickets_le := Nat.le_refl _
  fresh job hm hlt := absurd (h.ticket_le job hm) (Nat.not_le_of_lt hlt)
  fresh_done _ hm := absurd hm List.not_mem_nil

namespace Draining

theorem congr (h : start.Draining columns w done) (hj : w'.jobs = w.jobs)
    (hl : w'.lastTicket = w.lastTicket) : start.Draining columns w' done where
  work_le := (workLeft_congr hj).symm ▸ h.work_le
  tickets_le := hl ▸ h.tickets_le
  fresh := hj ▸ h.fresh
  fresh_done := h.fresh_done

section Taking

variable (h : start.Draining columns w done) (hf : w.finished = job :: others)

include h hf

/-- The job that is taken is not a new one, or it is for the columns in force. -/
theorem fresh_taken :
    ∀ other ∈ done ++ [job], start.lastTicket < other.ticket → other.columns = columns := by
  intro other hm hlt
  rcases List.mem_append.mp hm with hm | hm
  · exact h.fresh_done other hm hlt
  · rw [List.mem_singleton.mp hm] at hlt ⊢
    exact h.fresh job.toJob.unmarked (jobs_of_finished hf ▸ List.mem_cons_self) hlt

theorem fresh_rest : ∀ other ∈ jobs { w with finished := others }, start.lastTicket < other.ticket →
    other.columns = columns :=
  fun other hm => h.fresh other (jobs_of_finished hf ▸ List.mem_cons_of_mem _ hm)

/-- Taking a job leaves less to do. -/
theorem rest : start.Draining columns { w with finished := others } (done ++ [job]) where
  work_le := by
    have hw : w.workLeft columns = _ := workLeft_rest hf
    have hle := h.work_le
    rw [List.length_append, List.length_singleton]
    split at hw <;> omega
  tickets_le := by
    rw [List.countP_append]
    exact Nat.le_trans h.tickets_le (Nat.add_le_add_left (Nat.le_add_right _ _) _)
  fresh := h.fresh_rest hf
  fresh_done := h.fresh_taken hf

/-- **Submitting the items of a job for other columns again leaves less to do**, for the job has counted
    for two and the request counts for one at most. -/
theorem again (hc : job.columns ≠ columns) (kind : JobKind) (items : List Item) :
    start.Draining columns (submit { w with finished := others } kind columns items).2 (done ++ [job]) where
  work_le := by
    let next : Worker := { w with finished := others }
    have hw : w.workLeft columns = next.workLeft columns + _ := workLeft_rest hf
    have hs : (next.submit kind columns items).2.workLeft columns ≤ next.workLeft columns + 1 :=
      workLeft_submit_le kind items
    have hle := h.work_le
    rw [if_neg hc] at hw
    rw [List.length_append, List.length_singleton]
    show done.length + 1 + (next.submit kind columns items).2.workLeft columns ≤ _
    omega
  tickets_le := by
    have hs : (submit { w with finished := others } kind columns items).2.lastTicket ≤ w.lastTicket + 1 :=
      lastTicket_submit_le kind items
    have hone : [job].countP (fun job => job.columns != columns) = 1 := by simp [hc]
    rw [List.countP_append, hone]
    exact Nat.le_trans hs (Nat.add_le_add_right h.tickets_le 1)
  fresh other hm hlt :=
    (mem_jobs_submit kind items hm).elim (fun hm => h.fresh_rest hf other hm hlt) id
  fresh_done := h.fresh_taken hf

end Taking

end Draining

/-! ## 3. A worker that goes on -/

/-- All jobs of the worker are finished. -/
structure Spent (w : Worker) : Prop where
  waiting : w.waiting = []
  running : w.running = none

/-- A worker whose jobs are finished has no job once they have been taken. -/
theorem Spent.jobs_eq_nil (h : w.Spent) (hf : w.finished = []) : w.jobs = [] := by
  rw [jobs, hf, h.running, h.waiting]
  rfl

/-- A worker that runs no job once it could start one has none to start. -/
theorem spent_start (hr : w.start.running = none) : w.start.Spent := by
  obtain ⟨grouper, waiting, running, finished, lastTicket, coalesce⟩ := w
  cases running with
  | some job => cases hr
  | none =>
    cases waiting with
    | cons job waiting => cases hr
    | nil => exact ⟨rfl, rfl⟩

theorem length_pendingJobs_start (w : Worker) : w.start.pendingJobs.length = w.pendingJobs.length := by
  obtain ⟨grouper, waiting, running, finished, lastTicket, coalesce⟩ := w
  cases running with
  | some job => rfl
  | none => cases waiting <;> simp [start, pendingJobs]

theorem length_pendingJobs_finish {job : Job} (hr : w.running = some job) :
    w.pendingJobs.length = w.finish.pendingJobs.length + 1 := by
  simp [finish, pendingJobs, hr]

theorem jobs_settleWithin (gate : Gate) (fuel : Nat) (w : Worker) :
    (w.settleWithin gate fuel).jobs = w.jobs := by
  induction fuel generalizing w with
  | zero => rfl
  | succ fuel ih =>
    unfold settleWithin
    split
    · split
      · rw [ih, jobs_start, jobs_finish]
      · rfl
    · rfl

theorem jobs_settle (gate : Gate) (w : Worker) : (w.settle gate).jobs = w.jobs := by
  rw [settle, jobs_settleWithin, jobs_start]

/-- As many rounds as jobs wait or run bring them all to their ends. -/
theorem spent_settleWithin {fuel : Nat} (hs : w.running = none → w.Spent)
    (hl : w.pendingJobs.length ≤ fuel) : (w.settleWithin .open fuel).Spent := by
  induction fuel generalizing w with
  | zero =>
    have hnone : w.pendingJobs = [] := List.length_eq_zero_iff.mp (Nat.le_zero.mp hl)
    exact hs (Option.toList_eq_nil_iff.mp (List.append_eq_nil_iff.mp hnone).2)
  | succ fuel ih =>
    cases hr : w.running with
    | none =>
      rw [settleWithin, hr]
      exact hs hr
    | some job =>
      have hlength : w.pendingJobs.length = w.finish.start.pendingJobs.length + 1 := by
        rw [length_pendingJobs_start]
        exact length_pendingJobs_finish hr
      rw [settleWithin, hr]
      exact ih spent_start (by omega)

/-- **A worker that nothing holds up finishes all its jobs.** -/
theorem spent_settle (w : Worker) : (w.settle .open).Spent := by
  refine spent_settleWithin spent_start ?_
  rw [length_pendingJobs_start, pendingJobs, List.length_append]
  exact Nat.add_le_add_left (Option.length_toList_le) _

end MediaIndex.Worker
