import MediaIndex.Proofs.Convergence
import MediaIndex.Proofs.Index.Deliveries
import MediaIndex.Proofs.Queue.Draining

/-!
# Deliveries come to an end

Applying a job may submit its items again, so a loop that applies jobs until none is left might go on for
ever. It does not: once nothing more is asked of an index, the columns in force stay as they are, what is
submitted again is for them, and the outstanding jobs stand for twice their number of deliveries at most.

* `worker_delivered`, `dispatchColumns_delivered` -- what a delivery comes to for the worker;
* `Index.Draining`, `Draining.after`, `Draining.foldl_after` -- the account of the jobs delivered since;
* `idle_of_rounds` -- as many rounds of the worker's moves as there is work left leave the index idle;
* `pollWithin_ends` -- polling ends because no job is left;
* `deliveries_end` -- from every state that can be reached.
-/

namespace MediaIndex

/-- The moves that bring one more job to its end, if there is one, and its delivery. -/
def Step.round : List Step := [.finish, .start, .finish, .deliver]

namespace Index

variable {ix start : Index} {job : FinishedJob} {rest done : List FinishedJob}

/-! ## 1. One delivery -/

/-- A delivery takes the first finished job from the worker. When it hands over items again, the job is for
    other columns and the items come to the worker as a request over those in force. -/
theorem worker_delivered (ho : ix.Coherent) (hf : ix.worker.finished = job :: rest) :
    (ix.again .deliver = [] ∧ ix.delivered.worker = (ix.popped rest).worker) ∨
      (job.columns ≠ ix.dispatchColumns ∧ ix.delivered.worker =
        ((ix.popped rest).worker.submit .add ix.dispatchColumns (ix.again .deliver)).2) := by
  obtain ⟨stage, summary, notifier, batchesApplied, resets, hout, e⟩ := delivered_outcome hf
  have hmet : (ix.popped rest).applying.met.worker = (ix.popped rest).worker := worker_met
  have hcolumns : (ix.popped rest).applying.met.dispatchColumns = ix.dispatchColumns :=
    dispatchColumns_popped_met ho
  have hkeys : (ix.popped rest).met.layout.keyColumns = ix.met.layout.keyColumns := by rw [met_popped]; rfl
  rw [e]
  cases hout with
  | dropped hr hs =>
    subst hs
    exact Or.inl ⟨again_of_taken hf (Or.inl hr), rfl⟩
  | taken hr hc hs =>
    subst hs
    exact Or.inl ⟨again_of_taken hf (Or.inr (hc.trans hkeys)), hmet⟩
  | again hr hc hs =>
    rw [hkeys] at hc
    subst hs
    rw [again_of_stale hf hr hc, resubmitted, kept_met]
    split
    · rename_i hnone
      exact Or.inl ⟨List.isEmpty_iff.mp hnone, hmet⟩
    · refine Or.inr ⟨ho.keyColumns_met ▸ hc, ?_⟩
      rw [← hmet, ← hcolumns]
      rfl

/-- **What is submitted again is outstanding in a job for the columns in force.** -/
theorem exists_job_of_again (ho : ix.Coherent) {item : Item} (hm : item ∈ ix.again .deliver) :
    ∃ job ∈ ix.delivered.jobs, item.id ∈ idsOf job.items ∧ job.columns = ix.dispatchColumns := by
  rcases ix.delivered_cases with ⟨hf, -⟩ | ⟨job, rest, hf, -⟩
  · rw [again_of_none hf] at hm
    exact absurd hm List.not_mem_nil
  · rcases worker_delivered ho hf with ⟨hnone, -⟩ | ⟨-, e⟩
    · rw [hnone] at hm
      exact absurd hm List.not_mem_nil
    · rw [jobs, e]
      exact Worker.exists_mem_jobs_submit .add _ hm

/-- **A delivery leaves the columns that jobs are computed with as they are.** -/
theorem dispatchColumns_delivered (ho : ix.Coherent) :
    ix.delivered.dispatchColumns = ix.dispatchColumns := by
  rcases ix.delivered_cases with ⟨-, e⟩ | ⟨job, rest, hf, -⟩
  · rw [e]
  · obtain ⟨stage, summary, notifier, batchesApplied, resets, hout, e⟩ := delivered_outcome hf
    have hstage : stage.Coherent := ho.outcome hf hout
    rw [e]
    show stage.dispatchColumns = _
    rw [← hstage.keyColumns_met, layout_met_outcome hout, ho.keyColumns_met]

/-! ## 2. The account of the deliveries -/

/-- How many deliveries the outstanding jobs stand for at most. -/
def workLeft (ix : Index) : Nat := ix.worker.workLeft ix.dispatchColumns

/-- What has become of an index since `start`, the jobs `done` having been delivered. -/
structure Draining (start ix : Index) (done : List FinishedJob) : Prop where
  columns_eq : ix.dispatchColumns = start.dispatchColumns
  worker : start.worker.Draining start.dispatchColumns ix.worker done

theorem Coherent.draining (h : ix.Coherent) : ix.Draining ix [] where
  columns_eq := rfl
  worker := h.worker.draining ix.dispatchColumns

theorem Draining.delivered (h : start.Draining ix done) (ho : ix.Coherent) :
    start.Draining ix.delivered (done ++ ix.delivery .deliver) := by
  have hcolumns := dispatchColumns_delivered ho
  rcases ix.delivered_cases with ⟨hf, e⟩ | ⟨job, rest, hf, -⟩
  · rw [e, delivery_of_none hf, List.append_nil]
    exact h
  · rw [delivery_of_finished hf]
    refine ⟨hcolumns.trans h.columns_eq, ?_⟩
    rcases worker_delivered ho hf with ⟨-, e⟩ | ⟨hstale, e⟩
    · rw [e]
      exact h.worker.rest hf
    · rw [h.columns_eq] at hstale e
      rw [e]
      exact h.worker.again hf hstale .add (ix.again .deliver)

/-- **The moves of the worker and deliveries keep the account.** -/
theorem Draining.after (h : start.Draining ix done) (ho : ix.Coherent) {s : Step}
    (hs : s.isInternal = true) : start.Draining (ix.after s) (done ++ ix.delivery s) := by
  cases s with
  | start =>
    show start.Draining (ix.after .start) (done ++ [])
    rw [List.append_nil]
    exact ⟨h.columns_eq, h.worker.congr ix.worker.jobs_start ix.worker.lastTicket_start⟩
  | finish =>
    show start.Draining (ix.after .finish) (done ++ [])
    rw [List.append_nil]
    exact ⟨h.columns_eq, h.worker.congr ix.worker.jobs_finish ix.worker.lastTicket_finish⟩
  | deliver => exact h.delivered ho
  | _ => cases hs

theorem Draining.foldl_after (h : start.Draining ix done) (ho : ix.Orderly) {steps : List Step}
    (hs : ∀ s ∈ steps, s.isInternal = true) :
    start.Draining (steps.foldl Index.after ix) (done ++ ix.deliveries steps) := by
  induction steps generalizing ix done with
  | nil =>
    rw [deliveries, List.append_nil]
    exact h
  | cons s steps ih =>
    have hnext := h.after ho.toCoherent (hs s List.mem_cons_self)
    rw [deliveries, ← List.append_assoc]
    exact ih hnext (ho.after s) fun s' hm => hs s' (List.mem_cons_of_mem _ hm)

theorem Draining.work_le (h : start.Draining ix done) : done.length + ix.workLeft ≤ start.workLeft := by
  rw [workLeft, h.columns_eq]
  exact h.worker.work_le

/-- **Jobs that are delivered leave less to do.** -/
theorem deliveries_add_workLeft_le (ho : ix.Orderly) {steps : List Step}
    (hs : ∀ s ∈ steps, s.isInternal = true) :
    (ix.deliveries steps).length + (steps.foldl after ix).workLeft ≤ ix.workLeft :=
  (ho.draining.foldl_after ho hs).work_le

theorem Coherent.workLeft_le (h : ix.Coherent) : ix.workLeft ≤ 2 * ix.outstanding :=
  h.outstanding_eq ▸ ix.worker.workLeft_le ix.dispatchColumns

theorem Orderly.idle_of_jobs (ho : ix.Orderly) (hj : ix.jobs = []) : ix.phase = .idle := by
  rw [ho.idle_iff, ho.outstanding_eq, hj]
  rfl

theorem Orderly.idle_of_workLeft (ho : ix.Orderly) (hw : ix.workLeft = 0) : ix.phase = .idle :=
  ho.idle_of_jobs (Worker.jobs_eq_nil_of_workLeft hw)

/-! ## 3. Rounds -/

theorem isInternal_of_mem_round {s : Step} (h : s ∈ Step.round) : s.isInternal = true := by
  revert s
  decide

/-- **A round delivers a job when one is outstanding.** -/
theorem length_deliveries_round (ho : ix.Orderly) (hp : ix.phase ≠ .idle) :
    (ix.deliveries Step.round).length = 1 := by
  have hj : ix.worker.jobs ≠ [] := fun hj => hp (ho.idle_of_jobs hj)
  obtain ⟨first, others, hf⟩ := List.exists_cons_of_ne_nil (Worker.finished_ne_nil hj)
  let now : Index := ([.finish, .start, .finish] : List Step).foldl after ix
  have hd : now.delivery .deliver = [first] := delivery_of_finished hf
  show (now.delivery .deliver ++ []).length = 1
  rw [hd]
  rfl

/-- As many rounds as there is work left leave the index idle. -/
theorem idle_of_rounds (ho : ix.Orderly) {n : Nat} (hn : ix.workLeft ≤ n) :
    ((List.replicate n Step.round).flatten.foldl after ix).phase = .idle := by
  induction n generalizing ix with
  | zero => exact ho.idle_of_workLeft (Nat.le_zero.mp hn)
  | succ n ih =>
    have hle := deliveries_add_workLeft_le ho fun s hs => isInternal_of_mem_round hs
    rw [List.replicate_succ, List.flatten_cons, List.foldl_append]
    refine ih (ho.foldl_after Step.round) ?_
    by_cases hp : ix.phase = .idle
    · have hnone : ix.workLeft = 0 := by
        have hw := ho.workLeft_le
        rw [ho.idle_iff.mp hp] at hw
        exact Nat.le_zero.mp hw
      omega
    · have hone := length_deliveries_round ho hp
      omega

/-! ## 4. Polling -/

theorem workLeft_settle (gate : Worker.Gate) : (ix.settle gate).workLeft = ix.workLeft :=
  Worker.workLeft_congr (ix.worker.jobs_settle gate)

theorem Orderly.settle (ho : ix.Orderly) (gate : Worker.Gate) : (ix.settle gate).Orderly := by
  obtain ⟨moves, -, e⟩ := ix.settle_eq gate
  rw [← e]
  exact ho.foldl_after moves

/-- What polling comes to when it may apply as many jobs as it finds. -/
structure Ends (ix : Index) (gate : Worker.Gate) (applied : Nat) (now : Index) : Prop where
  pollWithin_eq : ∀ fuel, ix.workLeft ≤ fuel → ix.pollWithin gate fuel = .ok (applied, now)
  applied_le : applied ≤ ix.workLeft
  finished : now.worker.finished = []
  orderly : now.Orderly
  spent : gate = .open → now.worker.Spent

/-- **Polling ends because no finished job is left**, not because it has applied as many as it may. -/
theorem pollWithin_ends (ho : ix.Orderly) (gate : Worker.Gate) (hg : gate = .open → ix.worker.Spent) :
    ∃ applied now, ix.Ends gate applied now := by
  -- the induction is on the work that is left, which every delivery lessens
  generalize hn : ix.workLeft = n
  induction n using Nat.strongRecOn generalizing ix with
  | _ n ih =>
    subst hn
    cases hf : ix.worker.finished with
    | nil =>
      have hnone := applyNext?_of_none hf
      refine ⟨0, ix, fun fuel _ => ?_, Nat.zero_le _, hf, ho, hg⟩
      cases fuel with
      | zero => rfl
      | succ fuel =>
        rw [pollWithin, hnone]
        rfl
    | cons job rest =>
      have hsome := applyNext?_of_finished ho.quiet hf
      have hless : 1 + ix.delivered.workLeft ≤ ix.workLeft := by
        have h := (ho.draining.delivered ho.toCoherent).work_le
        rwa [List.nil_append, delivery_of_finished hf, List.length_singleton] at h
      have hsettled : (ix.delivered.settle gate).workLeft = ix.delivered.workLeft := workLeft_settle gate
      have hspent : gate = .open → (ix.delivered.settle gate).worker.Spent :=
        fun h => h ▸ Worker.spent_settle _
      obtain ⟨applied, now, hends⟩ := ih _ (by omega) (ho.delivered.settle gate) hspent rfl
      refine ⟨applied + 1, now, fun fuel hle => ?_, ?_, hends.finished, hends.orderly, hends.spent⟩
      · cases fuel with
        | zero => omega
        | succ fuel =>
          rw [pollWithin, hsome]
          show ((ix.delivered.settle gate).pollWithin gate fuel >>= fun polled =>
            pure (polled.1 + 1, polled.2)) = _
          rw [hends.pollWithin_eq fuel (by omega)]
          rfl
      · have h := hends.applied_le
        omega

/-! ## 5. Every state that can be reached -/

/-- How far the worker's moves and deliveries `moves` bring an index that nothing more is asked of. -/
structure Drained (ix : Index) (moves : List Step) (now : Index) : Prop where
  run_eq : ix.run moves = .ok now
  /-- Each outstanding job stands for two deliveries at most. -/
  length_le : (ix.deliveries moves).length ≤ 2 * ix.outstanding
  /-- The columns that a job is compared with when it is taken in are the same all along. -/
  columns_eq : now.met.layout.keyColumns = ix.met.layout.keyColumns
  /-- Each job for other columns leads to one new job at most. -/
  tickets_le : now.worker.lastTicket ≤ ix.worker.lastTicket +
    (ix.deliveries moves).countP fun job => job.columns != ix.met.layout.keyColumns
  /-- A new job is not for other columns when it is delivered. -/
  fresh : ∀ job ∈ ix.deliveries moves, ix.worker.lastTicket < job.ticket →
    job.columns = ix.met.layout.keyColumns
  /-- Items that the next delivery submits again are then in a job for these columns. -/
  again : ∀ item ∈ now.again .deliver, ∃ job ∈ (now.after .deliver).jobs,
    item.id ∈ idsOf job.items ∧ job.columns = ix.met.layout.keyColumns
  /-- The index is idle, or one more round delivers one more job. -/
  proceeds : now.phase = .idle ∨ (now.deliveries Step.round).length = 1

/-- What polling an index comes to. -/
structure Polled (ix : Index) (gate : Worker.Gate) (applied : Nat) (now : Index) : Prop where
  poll_eq : ix.poll gate = .ok (applied, now)
  applied_le : applied ≤ 2 * ix.outstanding
  /-- No finished job is left. -/
  finished : now.worker.finished = []
  /-- The outcome is that of a loop that ends only when no finished job is left. -/
  pollWithin_eq : ∀ fuel, 2 * ix.outstanding ≤ fuel →
    (ix.settle gate).pollWithin gate fuel = .ok (applied, now)
  /-- Waiting answers whether the index has become idle. -/
  wait_eq : ix.wait gate = .ok (now.phase == .idle, now)
  /-- It has when nothing holds the worker up. -/
  idle : gate = .open → now.phase = .idle

/-- An index that nothing more is asked of comes to rest. -/
structure ComesToRest (ix : Index) : Prop where
  drained : ∀ moves : List Step, (∀ s ∈ moves, s.isInternal = true) → ∃ now, ix.Drained moves now
  rounds : ∃ now, ix.run (List.replicate (2 * ix.outstanding) Step.round).flatten = .ok now ∧
    now.phase = .idle
  polled : ∀ gate, ∃ applied now, ix.Polled gate applied now

theorem Orderly.drained (ho : ix.Orderly) {moves : List Step} (hm : ∀ s ∈ moves, s.isInternal = true) :
    ix.Drained moves (moves.foldl Index.after ix) := by
  have hnow := ho.foldl_after moves
  have hd : ix.Draining (moves.foldl Index.after ix) (ix.deliveries moves) := ho.draining.foldl_after ho hm
  have hk : ix.met.layout.keyColumns = ix.dispatchColumns := ho.keyColumns_met
  have hle := hd.work_le
  have htwice := ho.workLeft_le
  refine ⟨run_eq ho.quiet moves, by omega, ?_, hk ▸ hd.worker.tickets_le, hk ▸ hd.worker.fresh_done,
    fun item hm => ?_, ?_⟩
  · rw [hnow.keyColumns_met, hk, hd.columns_eq]
  · rw [hk, ← hd.columns_eq]
    exact exists_job_of_again hnow.toCoherent hm
  · by_cases hp : (moves.foldl Index.after ix).phase = .idle
    · exact Or.inl hp
    · exact Or.inr (length_deliveries_round hnow hp)

theorem Orderly.polled (ho : ix.Orderly) (gate : Worker.Gate) :
    ∃ applied now, ix.Polled gate applied now := by
  have htwice := ho.workLeft_le
  have hspent : gate = .open → (ix.settle gate).worker.Spent := fun h => h ▸ Worker.spent_settle _
  obtain ⟨applied, now, h⟩ := pollWithin_ends (ho.settle gate) gate hspent
  obtain ⟨heq, hle, hf, hnow, hnone⟩ := h
  rw [workLeft_settle] at heq hle
  have hpoll : ix.poll gate = .ok (applied, now) := heq _ htwice
  have hidle : (now.outstanding == 0) = (now.phase == .idle) := by
    rw [Bool.eq_iff_iff, beq_iff_eq, beq_iff_eq, hnow.idle_iff]
  refine ⟨applied, now, hpoll, Nat.le_trans hle htwice, hf, fun fuel hfuel => ?_, ?_, fun h => ?_⟩
  · exact heq fuel (Nat.le_trans htwice hfuel)
  · rw [wait, hpoll, ← hidle]
    rfl
  · exact hnow.idle_of_jobs ((hnone h).jobs_eq_nil hf)

/-- **Deliveries come to an end**: in whatever state an index is after a run, when nothing more is asked of
    it at most twice as many jobs are delivered as are outstanding, and it can always go on until it is
    idle. -/
theorem deliveries_end (extractor : Extractor) (options : IndexOptions) (steps : List Step) :
    ∃ ix, (ofOptions extractor options).run steps = .ok ix ∧ ix.ComesToRest := by
  have hstart := orderly_ofOptions extractor options
  have ho := hstart.foldl_after steps
  refine ⟨_, run_eq hstart.quiet steps, fun moves hm => ⟨_, ho.drained hm⟩, ?_, ho.polled⟩
  exact ⟨_, run_eq ho.quiet _, idle_of_rounds ho ho.workLeft_le⟩

end Index

end MediaIndex
