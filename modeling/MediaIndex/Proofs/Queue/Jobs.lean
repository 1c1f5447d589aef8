import MediaIndex.Proofs.Queue.Absorb

/-!
# The jobs that are outstanding

A job waits, runs, and is finished until it is taken. What the worker does by itself changes where a
job stands and not which jobs there are; a request makes a new last job or joins the one that is last.

* `Worker.jobs` -- the outstanding jobs, the next to be delivered first, without their marks;
* `jobs_start`, `jobs_finish`, `jobs_supersede` -- the moves that leave them as they are;
* `Worker.Submitted`, `submit_cases`, `submitted_submit` -- what becomes of a request;
* `jobs_of_finished` -- the job that is delivered next is the first;
* `Worker.Orderly` -- tickets increase, and finished jobs carry their batch; every move keeps it.
-/

namespace MediaIndex

/-- The job without the mark that a reset leaves. -/
def Job.unmarked (job : Job) : Job := { job with superseded := false }

theorem Job.unmarked_supersede (job : Job) : job.supersede.unmarked = job.unmarked := rfl

/-- A job admits requests of its kind over its columns, if it is no rebuild and not marked. -/
theorem Job.admits_iff {job : Job} {kind : JobKind} {columns : List Column} :
    job.admits kind columns = true ↔
      kind ≠ .reset ∧ job.kind = kind ∧ job.columns = columns ∧ job.superseded = false := by
  simp only [Job.admits, Bool.and_eq_true, bne_iff_ne, beq_iff_eq, Bool.not_eq_true', and_assoc, ne_eq]

namespace Worker

/-- The jobs that are done, run or wait, in the order in which they are delivered. -/
def jobs (w : Worker) : List Job :=
  (w.finished.map (·.toJob) ++ w.running.toList ++ w.waiting).map Job.unmarked

variable {w : Worker}

/-! ## 1. What the worker does by itself -/

theorem jobs_start (w : Worker) : w.start.jobs = w.jobs := by
  obtain ⟨grouper, waiting, running, finished, lastTicket, coalesce⟩ := w
  cases running with
  | some job => rfl
  | none =>
    cases waiting with
    | nil => rfl
    | cons job rest =>
      unfold jobs start
      simp

theorem jobs_finish (w : Worker) : w.finish.jobs = w.jobs := by
  obtain ⟨grouper, waiting, running, finished, lastTicket, coalesce⟩ := w
  cases running with
  | none => rfl
  | some job =>
    unfold jobs finish complete
    simp

theorem jobs_supersede (w : Worker) : w.supersede.2.jobs = w.jobs := by
  obtain ⟨grouper, waiting, running, finished, lastTicket, coalesce⟩ := w
  have h : Job.unmarked ∘ Job.supersede = Job.unmarked := funext Job.unmarked_supersede
  unfold jobs supersede
  cases running <;> simp [h, Job.unmarked_supersede]

/-- The job delivered next is the first of the outstanding ones. -/
theorem jobs_of_finished {job : FinishedJob} {rest : List FinishedJob} (h : w.finished = job :: rest) :
    w.jobs = job.toJob.unmarked :: { w with finished := rest }.jobs := by
  unfold jobs
  rw [h]
  rfl

/-- The worker has as many jobs as it counts as outstanding. -/
theorem length_jobs (w : Worker) : w.jobs.length = w.outstanding := by
  unfold jobs outstanding
  simp only [List.length_map, List.length_append]
  omega

/-- A worker that has jobs has a finished one after it has finished what runs and what it starts next. -/
theorem finished_ne_nil {w : Worker} (hj : w.jobs ≠ []) : w.finish.start.finish.finished ≠ [] := by
  obtain ⟨grouper, waiting, running, finished, lastTicket, coalesce⟩ := w
  cases running with
  | some job => cases waiting <;> simp [Worker.finish, Worker.start]
  | none =>
    cases waiting with
    | cons job waiting => simp [Worker.finish, Worker.start]
    | nil =>
      rintro rfl
      exact hj rfl

/-! ## 2. What becomes of a request -/

/-- A request is the last job, or part of it. -/
inductive Submitted (w : Worker) (kind : JobKind) (columns : List Column) (items : List Item)
    (s : Submission) (w' : Worker) : Prop
  | queued (hs : s = .queued (w.lastTicket + 1))
      (hjobs : w'.jobs = w.jobs ++ [{ ticket := w.lastTicket + 1, kind, columns, items }])
      (hlast : w'.lastTicket = w.lastTicket + 1)
  | joined (front : List Job) (tail : Job) (hs : s = .coalesced tail.ticket)
      (hold : w.jobs = front ++ [tail]) (hjobs : w'.jobs = front ++ [tail.absorb items])
      (hlast : w'.lastTicket = w.lastTicket)
      (hreset : kind ≠ .reset) (hkind : tail.kind = kind) (hcolumns : tail.columns = columns)

section Submit

variable (w) (kind : JobKind) (columns : List Column) (items : List Item)

theorem submitted_queue : w.Submitted kind columns items
    (submit.queue w kind columns items).1 (submit.queue w kind columns items).2 := by
  refine .queued rfl ?_ rfl
  unfold jobs submit.queue
  simp [Job.unmarked]

/-- A request waits as a job of its own, or has joined the last waiting job, which admits it. -/
theorem submit_cases : w.submit kind columns items = submit.queue w kind columns items ∨
    ∃ front tail, w.waiting = front ++ [tail] ∧ tail.admits kind columns = true ∧
      w.submit kind columns items =
        (.coalesced tail.ticket, { w with waiting := front ++ [tail.absorb items] }) := by
  unfold submit
  split
  · rename_i tail htail
    split
    · rename_i hadmits
      obtain ⟨front, hw⟩ := List.getLast?_eq_some_iff.mp htail
      have hd : w.waiting.dropLast = front := by rw [hw, List.dropLast_concat]
      rw [Bool.and_eq_true] at hadmits
      exact Or.inr ⟨front, tail, hw, hadmits.2, by rw [hd]⟩
    · exact Or.inl rfl
  · exact Or.inl rfl

/-- **A request makes a new last job or joins the last one.** -/
theorem submitted_submit : w.Submitted kind columns items
    (w.submit kind columns items).1 (w.submit kind columns items).2 := by
  rcases w.submit_cases kind columns items with e | ⟨front, tail, hw, hadmits, e⟩
  · rw [e]
    exact submitted_queue w kind columns items
  · obtain ⟨hreset, hkind, hcolumns, -⟩ := Job.admits_iff.mp hadmits
    rw [e]
    refine .joined ((w.finished.map (·.toJob) ++ w.running.toList ++ front).map Job.unmarked)
      tail.unmarked rfl ?_ ?_ rfl hreset hkind hcolumns
    · unfold jobs
      rw [hw]
      simp
    · unfold jobs
      simp [Job.unmarked, Job.absorb]

theorem finished_submit : (w.submit kind columns items).2.finished = w.finished := by
  rcases w.submit_cases kind columns items with e | ⟨front, tail, -, -, e⟩
  · rw [e]
    rfl
  · rw [e]

theorem grouper_submit : (w.submit kind columns items).2.grouper = w.grouper := by
  rcases w.submit_cases kind columns items with e | ⟨front, tail, -, -, e⟩
  · rw [e]
    rfl
  · rw [e]

end Submit

theorem grouper_start (w : Worker) : w.start.grouper = w.grouper := by
  unfold start
  split <;> rfl

theorem grouper_finish (w : Worker) : w.finish.grouper = w.grouper := by
  unfold finish
  split <;> rfl

/-! ## 3. The order of the jobs -/

/-- The tickets of outstanding jobs increase, and finished jobs carry the batch computed from them. -/
structure Orderly (w : Worker) : Prop where
  increasing : (w.jobs.map (·.ticket)).Pairwise (· < ·)
  ticket_le : ∀ job ∈ w.jobs, job.ticket ≤ w.lastTicket
  batch_eq : ∀ job ∈ w.finished, job.batch = w.grouper.compute job.items job.columns

theorem orderly_of_no_jobs (h : w.waiting = []) (hr : w.running = none) (hf : w.finished = []) :
    w.Orderly := by
  have hj : w.jobs = [] := by rw [jobs, h, hr, hf]; rfl
  refine ⟨?_, fun job hm => ?_, fun job hm => ?_⟩
  · rw [hj]
    exact List.Pairwise.nil
  · rw [hj] at hm
    exact absurd hm List.not_mem_nil
  · rw [hf] at hm
    exact absurd hm List.not_mem_nil

theorem Orderly.start (h : w.Orderly) : w.start.Orderly := by
  have hl : w.start.lastTicket = w.lastTicket := by unfold Worker.start; split <;> rfl
  have hf : w.start.finished = w.finished := by unfold Worker.start; split <;> rfl
  constructor
  · rw [jobs_start]
    exact h.increasing
  · rw [jobs_start, hl]
    exact h.ticket_le
  · rw [hf, grouper_start]
    exact h.batch_eq

theorem Orderly.finish (h : w.Orderly) : w.finish.Orderly := by
  have hl : w.finish.lastTicket = w.lastTicket := by unfold Worker.finish; split <;> rfl
  constructor
  · rw [jobs_finish]
    exact h.increasing
  · rw [jobs_finish, hl]
    exact h.ticket_le
  · intro job hm
    rw [grouper_finish]
    unfold Worker.finish at hm
    split at hm
    · rcases List.mem_append.mp hm with hm | hm
      · exact h.batch_eq job hm
      · rw [List.mem_singleton.mp hm]
        rfl
    · exact h.batch_eq job hm

theorem Orderly.supersede (h : w.Orderly) : w.supersede.2.Orderly := by
  refine ⟨?_, ?_, h.batch_eq⟩
  · rw [jobs_supersede]
    exact h.increasing
  · rw [jobs_supersede]
    exact h.ticket_le

theorem Orderly.rest (h : w.Orderly) {job : FinishedJob} {rest : List FinishedJob}
    (hf : w.finished = job :: rest) : Orderly { w with finished := rest } := by
  obtain ⟨hi, ht, hb⟩ := h
  rw [jobs_of_finished hf] at hi ht
  refine ⟨(List.pairwise_cons.mp hi).2, fun j hj => ht j (List.mem_cons_of_mem _ hj),
    fun j hj => hb j ?_⟩
  rw [hf]
  exact List.mem_cons_of_mem _ hj

theorem Orderly.submit (h : w.Orderly) (kind : JobKind) (columns : List Column) (items : List Item) :
    (w.submit kind columns items).2.Orderly := by
  have hb : ∀ job ∈ (w.submit kind columns items).2.finished,
      job.batch = (w.submit kind columns items).2.grouper.compute job.items job.columns := by
    rw [finished_submit, grouper_submit]
    exact h.batch_eq
  rcases w.submitted_submit kind columns items with
    ⟨-, hjobs, hlast⟩ | ⟨front, tail, -, hold, hjobs, hlast, -⟩
  · refine ⟨?_, ?_, hb⟩
    · rw [hjobs, List.map_append, List.pairwise_append]
      refine ⟨h.increasing, List.pairwise_singleton _ _, fun t ht t' ht' => ?_⟩
      obtain ⟨job, hjob, rfl⟩ := List.mem_map.mp ht
      rw [List.mem_singleton.mp ht']
      exact Nat.lt_succ_of_le (h.ticket_le job hjob)
    · rw [hjobs, hlast]
      intro job hjob
      rcases List.mem_append.mp hjob with hjob | hjob
      · exact Nat.le_succ_of_le (h.ticket_le job hjob)
      · cases List.mem_singleton.mp hjob
        exact Nat.le_refl _
  · obtain ⟨hi, ht, -⟩ := h
    rw [hold] at hi ht
    refine ⟨?_, ?_, hb⟩
    · rw [hjobs]
      rw [List.map_append] at hi ⊢
      exact hi
    · rw [hjobs, hlast]
      intro job hjob
      rcases List.mem_append.mp hjob with hjob | hjob
      · exact ht job (List.mem_append_left _ hjob)
      · rw [List.mem_singleton.mp hjob]
        exact ht tail (List.mem_append_right _ (List.mem_singleton_self _))

end Worker

end MediaIndex
