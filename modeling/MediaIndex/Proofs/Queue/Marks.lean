import Mathlib.Data.List.Induction
import MediaIndex.Proofs.Queue.History

/-!
# When a mark reaches a job

A job is queued by a request, waits and runs, is finished, and is taken some time later. A mark that is set
while it waits or runs is on it when it is taken. One that is set when it is finished already does not reach
it any more, though the job has not been taken yet.

* `Happens` -- an event at a place in a sequence of moves;
* `Queues`, `Finishes`, `Takes` -- the three events in the course of a job;
* `mem_pendingJobs_after`, `mem_finished_after`, `mem_delivered_after` -- where the jobs after a move come
  from;
* `Timed`, `timed_foldl_after` -- each job was queued, finished and taken at some place, and is marked when a
  mark was set in time;
* `Happens.unique`, `Course` -- each of these events happens once;
* `marked_iff` -- what the mark of a job tells.
-/

namespace MediaIndex.Worker.History

variable {h : History} {moves : List Move} {move : Move} {event : History → Move → Prop} {ticket : Ticket}
  {i j n m : Nat}

/-! ## 1. Events in a sequence of moves -/

/-- The history when so many of the moves have been made. -/
def stage (h : History) (moves : List Move) (n : Nat) : History := (moves.take n).foldl after h

/-- The move at the place is such an event, in the history up to it. -/
def Happens (event : History → Move → Prop) (h : History) (moves : List Move) (n : Nat) : Prop :=
  ∃ move, moves[n]? = some move ∧ event (h.stage moves n) move

/-- The jobs are marked somewhere between two places. -/
def MarkedBetween (moves : List Move) (i j : Nat) : Prop :=
  ∃ n, i < n ∧ n < j ∧ moves[n]? = some .supersede

theorem stage_succ (hm : moves[n]? = some move) : h.stage moves (n + 1) = (h.stage moves n).after move := by
  rw [stage, List.take_add_one, hm, List.foldl_append]
  rfl

theorem Happens.lt_length (he : Happens event h moves n) : n < moves.length := by
  obtain ⟨move, hm, -⟩ := he
  exact (List.getElem?_eq_some_iff.mp hm).1

theorem Happens.concat (he : Happens event h moves n) (move : Move) :
    Happens event h (moves ++ [move]) n := by
  have hlt := he.lt_length
  obtain ⟨there, hm, he⟩ := he
  refine ⟨there, ?_, ?_⟩
  · rw [List.getElem?_append_left hlt, hm]
  · rw [stage, List.take_append_of_le_length (Nat.le_of_lt hlt)]
    exact he

/-- The last move is made in the history of all the others. -/
theorem happens_last (he : event (moves.foldl after h) move) :
    Happens event h (moves ++ [move]) moves.length := by
  refine ⟨move, List.getElem?_concat_length, ?_⟩
  rw [stage, List.take_left]
  exact he

theorem markedBetween_concat_iff (hj : j ≤ moves.length) :
    MarkedBetween (moves ++ [move]) i j ↔ MarkedBetween moves i j := by
  refine exists_congr fun n => and_congr_right fun _ => and_congr_right fun hn => ?_
  rw [List.getElem?_append_left (Nat.lt_of_lt_of_le hn hj)]

/-- The last move may be a mark. -/
theorem markedBetween_last_iff (hi : i < moves.length) :
    MarkedBetween (moves ++ [move]) i (moves ++ [move]).length ↔
      MarkedBetween moves i moves.length ∨ move = .supersede := by
  rw [List.length_append, List.length_singleton]
  constructor
  · intro hm
    obtain ⟨n, hin, hn, hmark⟩ := hm
    rcases Nat.lt_succ_iff_lt_or_eq.mp hn with hlt | rfl
    · rw [List.getElem?_append_left hlt] at hmark
      exact Or.inl ⟨n, hin, hlt, hmark⟩
    · rw [List.getElem?_concat_length] at hmark
      exact Or.inr (Option.some.inj hmark)
  · intro hm
    rcases hm with ⟨n, hin, hn, hmark⟩ | rfl
    · exact ⟨n, hin, Nat.lt_succ_of_lt hn, by rw [List.getElem?_append_left hn, hmark]⟩
    · exact ⟨moves.length, hi, Nat.lt_succ_self _, List.getElem?_concat_length⟩

/-- Marks are set before a move that is none, or after it. -/
theorem markedBetween_iff_or {k : Nat} (hij : i < j) (hjk : j < k) (hj : moves[j]? ≠ some .supersede) :
    MarkedBetween moves i k ↔ MarkedBetween moves i j ∨ MarkedBetween moves j k := by
  constructor
  · intro hm
    obtain ⟨n, hin, hnk, hmark⟩ := hm
    rcases Nat.lt_trichotomy n j with hlt | rfl | hgt
    · exact Or.inl ⟨n, hin, hlt, hmark⟩
    · exact absurd hmark hj
    · exact Or.inr ⟨n, hgt, hnk, hmark⟩
  · intro hm
    rcases hm with ⟨n, hin, hn, hmark⟩ | ⟨n, hn, hnk, hmark⟩
    · exact ⟨n, hin, Nat.lt_trans hn hjk, hmark⟩
    · exact ⟨n, Nat.lt_trans hij hn, hnk, hmark⟩

/-! ## 2. The course of a job -/

/-- The move is a request that becomes the job with the ticket. -/
def Queues (ticket : Ticket) (h : History) (move : Move) : Prop :=
  ∃ kind columns items, move = .submit kind columns items ∧
    (h.worker.submit kind columns items).1 = .queued ticket

/-- The move finishes the job with the ticket. -/
def Finishes (ticket : Ticket) (h : History) (move : Move) : Prop :=
  move = .finish ∧ ∃ job, h.worker.running = some job ∧ job.ticket = ticket

/-- The move takes the job with the ticket. -/
def Takes (ticket : Ticket) (h : History) (move : Move) : Prop :=
  move = .take ∧ ∃ job rest, h.worker.finished = job :: rest ∧ job.ticket = ticket

/-- Where a job that waits or runs after a move comes from. It has just been queued, and is not marked; or
    it waited or ran before, and is marked if it was or if this was the move. -/
def Stems (h : History) (move : Move) (job : Job) : Prop :=
  (Queues job.ticket h move ∧ job.superseded = false) ∨
    ∃ old ∈ h.worker.pendingJobs, old.ticket = job.ticket ∧
      (job.superseded = true ↔ old.superseded = true ∨ move = .supersede)

/-- A job that is not touched. -/
theorem stems_of_mem {job : Job} (hm : job ∈ h.worker.pendingJobs) (hn : move ≠ .supersede) :
    h.Stems move job :=
  Or.inr ⟨job, hm, rfl, (or_iff_left hn).symm⟩

theorem stems_submit {kind : JobKind} {columns : List Column} {items : List Item} {job : Job}
    (hm : job ∈ (h.worker.submit kind columns items).2.pendingJobs) :
    h.Stems (.submit kind columns items) job := by
  have hn : Move.submit kind columns items ≠ .supersede := fun e => by cases e
  rcases h.worker.submit_cases kind columns items with e | ⟨front, tail, hw, -, e⟩
  · rw [e] at hm
    have hm : job ∈ (h.worker.waiting ++ [_]) ++ h.worker.running.toList := hm
    rcases List.mem_append.mp hm with hm | hm
    · rcases List.mem_append.mp hm with hm | hm
      · exact stems_of_mem (List.mem_append_left _ hm) hn
      · rw [List.mem_singleton.mp hm]
        exact Or.inl ⟨⟨kind, columns, items, rfl, congrArg Prod.fst e⟩, rfl⟩
    · exact stems_of_mem (List.mem_append_right _ hm) hn
  · rw [e] at hm
    have hm : job ∈ (front ++ [tail.absorb items]) ++ h.worker.running.toList := hm
    rcases List.mem_append.mp hm with hm | hm
    · rcases List.mem_append.mp hm with hm | hm
      · exact stems_of_mem (List.mem_append_left _ (hw ▸ List.mem_append_left _ hm)) hn
      · -- the job that is joined keeps its ticket and its mark
        have htail : tail ∈ h.worker.pendingJobs :=
          List.mem_append_left _ (hw ▸ List.mem_append_right _ (List.mem_singleton_self _))
        rw [List.mem_singleton.mp hm]
        exact Or.inr ⟨tail, htail, rfl, (or_iff_left hn).symm⟩
    · exact stems_of_mem (List.mem_append_right _ hm) hn

theorem stems_supersede {job : Job} (hm : job ∈ h.worker.supersede.2.pendingJobs) :
    h.Stems .supersede job := by
  have hm : job ∈ h.worker.waiting.map Job.supersede ++ (h.worker.running.map Job.supersede).toList := hm
  rw [Option.toList_map, ← List.map_append] at hm
  obtain ⟨old, hold, rfl⟩ := List.mem_map.mp hm
  exact Or.inr ⟨old, hold, rfl, iff_of_true rfl (Or.inr rfl)⟩

theorem mem_pendingJobs_start {w : Worker} {job : Job} (hm : job ∈ w.start.pendingJobs) :
    job ∈ w.pendingJobs := by
  unfold start at hm
  split at hm
  next first rest hr hw =>
    have hm : job ∈ rest ++ [first] := hm
    rw [pendingJobs, hw, hr, Option.toList_none, List.append_nil]
    rcases List.mem_append.mp hm with hm | hm
    · exact List.mem_cons_of_mem _ hm
    · exact List.mem_singleton.mp hm ▸ List.mem_cons_self
  next => exact hm

theorem mem_pendingJobs_finish {w : Worker} {job : Job} (hm : job ∈ w.finish.pendingJobs) :
    job ∈ w.pendingJobs := by
  unfold finish at hm
  split at hm
  next =>
    have hm : job ∈ w.waiting ++ [] := hm
    rw [List.append_nil] at hm
    exact List.mem_append_left _ hm
  next => exact hm

/-- **Only a mark changes what is marked**, and a job that has just been queued is not. -/
theorem mem_pendingJobs_after {job : Job} (hm : job ∈ (h.after move).worker.pendingJobs) :
    h.Stems move job := by
  cases move with
  | submit kind columns items => exact stems_submit hm
  | supersede => exact stems_supersede hm
  | start => exact stems_of_mem (mem_pendingJobs_start hm) fun e => by cases e
  | finish => exact stems_of_mem (mem_pendingJobs_finish hm) fun e => by cases e
  | take =>
    refine stems_of_mem ?_ fun e => by cases e
    cases hf : h.worker.finished with
    | nil => rwa [take_of_none hf] at hm
    | cons first rest =>
      rw [take_of_finished hf] at hm
      exact hm

/-- **A job is finished with the mark it has**, and keeps it. -/
theorem mem_finished_after {job : FinishedJob} (hm : job ∈ (h.after move).worker.finished) :
    job ∈ h.worker.finished ∨ (Finishes job.ticket h move ∧ job.toJob ∈ h.worker.pendingJobs) := by
  cases move with
  | submit kind columns items =>
    have hm : job ∈ (h.worker.submit kind columns items).2.finished := hm
    rw [finished_submit] at hm
    exact Or.inl hm
  | supersede => exact Or.inl hm
  | start =>
    have hf : h.worker.start.finished = h.worker.finished := by
      unfold Worker.start
      split <;> rfl
    exact Or.inl (hf ▸ hm)
  | finish =>
    have hm : job ∈ h.worker.finish.finished := hm
    unfold Worker.finish at hm
    split at hm
    next running hr =>
      refine (List.mem_append.mp hm).imp_right fun hm => ?_
      rw [List.mem_singleton.mp hm]
      refine ⟨⟨rfl, running, hr, rfl⟩, List.mem_append_right _ ?_⟩
      rw [hr]
      exact List.mem_singleton_self _
    next => exact Or.inl hm
  | take =>
    cases hf : h.worker.finished with
    | nil =>
      rw [take_of_none hf, hf] at hm
      exact Or.inl hm
    | cons first rest =>
      rw [take_of_finished hf] at hm
      exact Or.inl (List.mem_cons_of_mem _ hm)

theorem mem_delivered_after {job : FinishedJob} (hm : job ∈ (h.after move).delivered) :
    job ∈ h.delivered ∨ (Takes job.ticket h move ∧ job ∈ h.worker.finished) := by
  cases move with
  | take =>
    cases hf : h.worker.finished with
    | nil =>
      rw [take_of_none hf] at hm
      exact Or.inl hm
    | cons first rest =>
      rw [take_of_finished hf] at hm
      refine (List.mem_append.mp hm).imp_right fun hm => ?_
      rw [List.mem_singleton.mp hm]
      exact ⟨⟨rfl, first, rest, hf, rfl⟩, List.mem_cons_self⟩
  | submit kind columns items => exact Or.inl hm
  | supersede => exact Or.inl hm
  | start => exact Or.inl hm
  | finish => exact Or.inl hm

/-- When each job was queued, finished and taken, and what its mark comes from. -/
structure Timed (h : History) (moves : List Move) : Prop where
  pending : ∀ job ∈ (moves.foldl after h).worker.pendingJobs, ∃ i,
    Happens (Queues job.ticket) h moves i ∧
    (job.superseded = true ↔ MarkedBetween moves i moves.length)
  finished : ∀ job ∈ (moves.foldl after h).worker.finished, ∃ i j, i < j ∧
    Happens (Queues job.ticket) h moves i ∧ Happens (Finishes job.ticket) h moves j ∧
    (job.superseded = true ↔ MarkedBetween moves i j)
  delivered : ∀ job ∈ (moves.foldl after h).delivered, ∃ i j k, i < j ∧ j < k ∧
    Happens (Queues job.ticket) h moves i ∧ Happens (Finishes job.ticket) h moves j ∧
    Happens (Takes job.ticket) h moves k ∧ (job.superseded = true ↔ MarkedBetween moves i j)

/-- One more move. -/
theorem Timed.concat (ht : Timed h moves) (move : Move) : Timed h (moves ++ [move]) := by
  have hrun : (moves ++ [move]).foldl after h = (moves.foldl after h).after move := by
    rw [List.foldl_append]
    rfl
  refine ⟨fun job hm => ?_, fun job hm => ?_, fun job hm => ?_⟩
  · rw [hrun] at hm
    rcases mem_pendingJobs_after hm with ⟨hq, hs⟩ | ⟨old, hold, hticket, hs⟩
    · refine ⟨moves.length, happens_last hq, iff_of_false (by rw [hs]; exact Bool.false_ne_true) ?_⟩
      rintro ⟨n, hlow, hhigh, -⟩
      rw [List.length_append, List.length_singleton] at hhigh
      omega
    · obtain ⟨i, hq, hmark⟩ := ht.pending old hold
      rw [hticket] at hq
      exact ⟨i, hq.concat move, by rw [hs, hmark, markedBetween_last_iff hq.lt_length]⟩
  · rw [hrun] at hm
    rcases mem_finished_after hm with hm | ⟨hf, hm⟩
    · obtain ⟨i, j, hij, hq, hf, hmark⟩ := ht.finished job hm
      refine ⟨i, j, hij, hq.concat move, hf.concat move, ?_⟩
      rw [hmark, markedBetween_concat_iff (Nat.le_of_lt hf.lt_length)]
    · obtain ⟨i, hq, hmark⟩ := ht.pending job.toJob hm
      refine ⟨i, moves.length, hq.lt_length, hq.concat move, happens_last hf, ?_⟩
      rw [hmark, markedBetween_concat_iff (Nat.le_refl _)]
  · rw [hrun] at hm
    rcases mem_delivered_after hm with hm | ⟨hk, hm⟩
    · obtain ⟨i, j, k, hij, hjk, hq, hf, hk, hmark⟩ := ht.delivered job hm
      refine ⟨i, j, k, hij, hjk, hq.concat move, hf.concat move, hk.concat move, ?_⟩
      rw [hmark, markedBetween_concat_iff (Nat.le_of_lt hf.lt_length)]
    · obtain ⟨i, j, hij, hq, hf, hmark⟩ := ht.finished job hm
      refine ⟨i, j, moves.length, hij, hf.lt_length, hq.concat move, hf.concat move, happens_last hk, ?_⟩
      rw [hmark, markedBetween_concat_iff (Nat.le_of_lt hf.lt_length)]

/-- **A job is marked when a mark was set after it was queued and before it was finished.** -/
theorem timed_of_no_jobs (hp : h.worker.pendingJobs = []) (hf : h.worker.finished = [])
    (hd : h.delivered = []) (moves : List Move) : Timed h moves := by
  induction moves using List.reverseRecOn with
  | nil =>
    refine ⟨fun job hm => ?_, fun job hm => ?_, fun job hm => ?_⟩
    · exact absurd (hp ▸ hm) List.not_mem_nil
    · exact absurd (hf ▸ hm) List.not_mem_nil
    · exact absurd (hd ▸ hm) List.not_mem_nil
  | append_singleton moves move ih => exact ih.concat move

/-! ## 3. Each event happens once -/

/-- The jobs have been numbered in the order of their requests. -/
def Counted (h : History) : Prop := h.worker.Numbered (h.delivered.map (·.ticket))

theorem Counted.after (hc : h.Counted) (move : Move) : (h.after move).Counted := by
  cases move with
  | submit kind columns items => exact Numbered.submit kind columns items hc
  | supersede => exact Numbered.supersede hc
  | start => exact Numbered.start hc
  | finish => exact Numbered.finish hc
  | take =>
    cases hf : h.worker.finished with
    | nil => rwa [take_of_none hf]
    | cons first rest =>
      rw [take_of_finished hf, Counted, List.map_append]
      exact Numbered.rest hc hf

theorem Counted.stage (hc : h.Counted) (moves : List Move) (n : Nat) : (h.stage moves n).Counted :=
  List.foldlRecOn (motive := Counted) (moves.take n) History.after hc fun _ hc move _ => hc.after move

/-- What no move lets fall does not fall. -/
theorem le_stage {count : History → Nat} (hmono : ∀ h move, count h ≤ count (h.after move)) (hnm : n ≤ m) :
    count (h.stage moves n) ≤ count (h.stage moves m) := by
  have hfoldl (h : History) (rest : List Move) : count h ≤ count (rest.foldl after h) := by
    induction rest generalizing h with
    | nil => exact Nat.le_refl _
    | cons move rest ih => exact Nat.le_trans (hmono h move) (ih _)
  have htake : moves.take n ++ (moves.take m).drop n = moves.take m := by
    have hsplit := List.take_append_drop n (moves.take m)
    rwa [List.take_take, Nat.min_eq_left hnm] at hsplit
  unfold stage
  rw [← htake, List.foldl_append]
  exact hfoldl _ _

/-- **What raises a count that never falls past a number happens once.** -/
theorem Happens.unique {count : History → Nat} (hmono : ∀ h move, count h ≤ count (h.after move))
    (hraise : ∀ n move, event (h.stage moves n) move →
      count (h.stage moves n) < ticket ∧ ticket ≤ count ((h.stage moves n).after move))
    (hn : Happens event h moves n) (hm : Happens event h moves m) : n = m := by
  -- after the earlier event the count is past the number already
  have hnot {n m : Nat} (hn : Happens event h moves n) (hm : Happens event h moves m) : ¬ n < m := by
    intro hlt
    obtain ⟨move, hmove, he⟩ := hn
    obtain ⟨later, -, hlater⟩ := hm
    have hpast := (hraise n move he).2
    rw [← stage_succ hmove] at hpast
    exact Nat.lt_irrefl _ (Nat.lt_of_le_of_lt (Nat.le_trans hpast (le_stage hmono hlt)) (hraise m later hlater).1)
  exact Nat.le_antisymm (Nat.le_of_not_lt (hnot hm hn)) (Nat.le_of_not_lt (hnot hn hm))

/-- The jobs have been numbered in the order of their requests. -/
theorem Counted.ticket_eq (hc : h.Counted) {front back : List Job} {job : Job}
    (hj : h.worker.jobs = front ++ job :: back) : job.ticket = h.delivered.length + front.length + 1 := by
  unfold Counted Numbered at hc
  rw [hj, List.map_append, List.map_cons, ← List.append_assoc] at hc
  obtain ⟨k, hk, hfirst, hrest⟩ := List.range'_eq_append_iff.mp hc.symm
  have hlength := congrArg List.length hfirst
  rw [List.length_append, List.length_map, List.length_map, List.length_range'] at hlength
  obtain ⟨hhead, -⟩ := List.range'_eq_cons_iff.mp hrest.symm
  rw [hlength, ← hhead, Nat.mul_one, Nat.add_comm]

/-- A job is queued with the next ticket. -/
theorem Queues.raises (he : Queues ticket h move) :
    h.worker.lastTicket < ticket ∧ ticket ≤ (h.after move).worker.lastTicket := by
  obtain ⟨kind, columns, items, rfl, hs⟩ := he
  rcases h.worker.submitted_submit kind columns items with ⟨hs', -, hlast⟩ | ⟨front, tail, hs', -⟩
  · rw [hs'] at hs
    cases hs
    exact ⟨Nat.lt_succ_self _, Nat.le_of_eq hlast.symm⟩
  · rw [hs'] at hs
    cases hs

theorem lastTicket_le_after (h : History) (move : Move) :
    h.worker.lastTicket ≤ (h.after move).worker.lastTicket := by
  cases move with
  | submit kind columns items => exact h.worker.lastTicket_le_submit kind columns items
  | supersede => exact Nat.le_refl _
  | start => exact Nat.le_of_eq h.worker.lastTicket_start.symm
  | finish => exact Nat.le_of_eq h.worker.lastTicket_finish.symm
  | take =>
    cases hf : h.worker.finished with
    | nil => exact Nat.le_of_eq (by rw [take_of_none hf])
    | cons first rest => exact Nat.le_of_eq (by rw [take_of_finished hf])

/-- The number of jobs that have been finished. -/
def finishedCount (h : History) : Nat := h.delivered.length + h.worker.finished.length

theorem finished_finish {w : Worker} {job : Job} (hr : w.running = some job) :
    w.finish.finished = w.finished ++ [w.complete job] := by
  unfold Worker.finish
  rw [hr]

/-- The job that runs has the next ticket after those that have been finished. -/
theorem Finishes.raises (hc : h.Counted) (he : Finishes ticket h move) :
    h.finishedCount < ticket ∧ ticket ≤ (h.after move).finishedCount := by
  obtain ⟨rfl, job, hr, rfl⟩ := he
  have hj : h.worker.jobs = h.worker.finished.map (·.toJob.unmarked) ++
      job.unmarked :: h.worker.waiting.map Job.unmarked := by
    simp [Worker.jobs, hr]
  have hticket : job.ticket = h.finishedCount + 1 := by
    have hnext := hc.ticket_eq hj
    rw [List.length_map] at hnext
    exact hnext
  have hafter : (h.after .finish).finishedCount = h.finishedCount + 1 := by
    show h.delivered.length + h.worker.finish.finished.length = _
    rw [finished_finish hr, List.length_append]
    rfl
  rw [hafter, hticket]
  exact ⟨Nat.lt_succ_self _, Nat.le_refl _⟩

theorem finishedCount_le_after (h : History) (move : Move) : h.finishedCount ≤ (h.after move).finishedCount := by
  cases move with
  | submit kind columns items =>
    show _ ≤ h.delivered.length + (h.worker.submit kind columns items).2.finished.length
    rw [finished_submit]
    exact Nat.le_refl _
  | supersede => exact Nat.le_refl _
  | start =>
    have hf : h.worker.start.finished = h.worker.finished := by
      unfold Worker.start
      split <;> rfl
    show _ ≤ h.delivered.length + h.worker.start.finished.length
    rw [hf]
    exact Nat.le_refl _
  | finish =>
    show _ ≤ h.delivered.length + h.worker.finish.finished.length
    refine Nat.add_le_add_left ?_ _
    cases hr : h.worker.running with
    | none => simp [Worker.finish, hr]
    | some job => simp [finished_finish hr]
  | take =>
    cases hf : h.worker.finished with
    | nil => exact Nat.le_of_eq (by rw [take_of_none hf])
    | cons first rest =>
      rw [take_of_finished hf, finishedCount, hf]
      simp [finishedCount, Nat.add_assoc, Nat.add_comm 1]

/-- The job that is taken has the next ticket after those that have been delivered. -/
theorem Takes.raises (hc : h.Counted) (he : Takes ticket h move) :
    h.delivered.length < ticket ∧ ticket ≤ (h.after move).delivered.length := by
  obtain ⟨rfl, job, rest, hf, rfl⟩ := he
  have hj : h.worker.jobs = [] ++ job.unmarked :: _ := jobs_of_finished hf
  have hticket : job.ticket = h.delivered.length + 1 := hc.ticket_eq hj
  rw [take_of_finished hf, List.length_append, hticket]
  exact ⟨Nat.lt_succ_self _, Nat.le_refl _⟩

theorem length_delivered_le_after (h : History) (move : Move) :
    h.delivered.length ≤ (h.after move).delivered.length := by
  cases move with
  | take =>
    cases hf : h.worker.finished with
    | nil => exact Nat.le_of_eq (by rw [take_of_none hf])
    | cons first rest =>
      rw [take_of_finished hf, List.length_append]
      exact Nat.le_add_right _ _
  | submit kind columns items => exact Nat.le_refl _
  | supersede => exact Nat.le_refl _
  | start => exact Nat.le_refl _
  | finish => exact Nat.le_refl _

/-! ## 4. What the mark tells -/

/-- The job with the ticket is queued at `i`, finished at `j` and taken at `k`, and at no other place. -/
structure Course (h : History) (moves : List Move) (ticket : Ticket) (i j k : Nat) : Prop where
  queued : ∀ n, Happens (Queues ticket) h moves n ↔ n = i
  finished : ∀ n, Happens (Finishes ticket) h moves n ↔ n = j
  taken : ∀ n, Happens (Takes ticket) h moves n ↔ n = k
  queued_lt : i < j
  finished_lt : j < k

theorem course_of_happens (hc : h.Counted) {k : Nat} (hij : i < j) (hjk : j < k)
    (hi : Happens (Queues ticket) h moves i) (hj : Happens (Finishes ticket) h moves j)
    (hk : Happens (Takes ticket) h moves k) : Course h moves ticket i j k where
  queued _ := ⟨fun hn => hn.unique lastTicket_le_after (fun _ _ he => he.raises) hi, fun e => e ▸ hi⟩
  finished _ :=
    ⟨fun hn => hn.unique finishedCount_le_after (fun n _ he => he.raises (hc.stage moves n)) hj,
      fun e => e ▸ hj⟩
  taken _ :=
    ⟨fun hn => hn.unique length_delivered_le_after (fun n _ he => he.raises (hc.stage moves n)) hk,
      fun e => e ▸ hk⟩
  queued_lt := hij
  finished_lt := hjk

/-- **What the mark of a job tells.** A job that is taken is marked exactly when a mark was set after it was
    queued and before it was finished. So the mark tells whether one was set before it was taken, unless all
    that were came when it was finished already. -/
theorem marked_iff (g : Grouper) (coalesce : Bool) (moves : List Move) :
    let h : History := { worker := { grouper := g, coalesce } }
    ∀ job ∈ (moves.foldl after h).delivered, ∃ i j k, Course h moves job.ticket i j k ∧
      (job.superseded = true ↔ MarkedBetween moves i j) ∧
      ((job.superseded = true ↔ MarkedBetween moves i k) ↔
        (MarkedBetween moves j k → MarkedBetween moves i j)) := by
  intro h job hm
  have hc : h.Counted := numbered_of_no_jobs rfl rfl
  obtain ⟨i, j, k, hij, hjk, hq, hf, hk, hmark⟩ := (timed_of_no_jobs rfl rfl rfl moves).delivered job hm
  have hfinish : moves[j]? ≠ some .supersede := by
    obtain ⟨move, hmove, rfl, -⟩ := hf
    rw [hmove]
    exact fun e => by cases e
  refine ⟨i, j, k, course_of_happens hc hij hjk hq hf hk, hmark, ?_⟩
  rw [hmark, markedBetween_iff_or hij hjk hfinish]
  tauto

/-- The first job is finished when the jobs are marked, and the second one waits. -/
def lateMark : List Move :=
  [.submit .add [.ofField "genre" "Genre"] [copyWith 1 "Rock"], .start, .finish,
    .submit .update [.ofField "genre" "Genre"] [copyWith 2 "Jazz"], .supersede, .take, .start, .finish, .take]

theorem marked_iff_lateMark :
    let h : History := { worker := { grouper := { extractor := fieldExtractor "" }, coalesce := true } }
    ∃ first second, first ∈ (lateMark.foldl after h).delivered ∧ second ∈ (lateMark.foldl after h).delivered ∧
      first.superseded = false ∧ second.superseded = true ∧
      (∃ i j k, Course h lateMark first.ticket i j k ∧
        (first.superseded = true ↔ MarkedBetween lateMark i j) ∧
        ((first.superseded = true ↔ MarkedBetween lateMark i k) ↔
          (MarkedBetween lateMark j k → MarkedBetween lateMark i j))) ∧
      ∃ i j k, Course h lateMark second.ticket i j k ∧
        (second.superseded = true ↔ MarkedBetween lateMark i j) ∧
        ((second.superseded = true ↔ MarkedBetween lateMark i k) ↔
          (MarkedBetween lateMark j k → MarkedBetween lateMark i j)) := by
  intro h
  have hd : (lateMark.foldl after h).delivered.map (·.superseded) = [false, true] := by decide +kernel
  obtain ⟨first, rest, e, hfirst, hrest⟩ := List.map_eq_cons_iff.mp hd
  obtain ⟨second, last, rfl, hsecond, -⟩ := List.map_eq_cons_iff.mp hrest
  have hm : first ∈ (lateMark.foldl after h).delivered := e ▸ List.mem_cons_self
  have hm' : second ∈ (lateMark.foldl after h).delivered := e ▸ List.mem_cons_of_mem _ List.mem_cons_self
  exact ⟨first, second, hm, hm', hfirst, hsecond, marked_iff _ true lateMark first hm,
    marked_iff _ true lateMark second hm'⟩

/-- **A mark can come too late.** Not every job is marked for which a mark was set after it was queued and
    before it was taken. -/
theorem late_mark_is_missed :
    ¬ ∀ (g : Grouper) (coalesce : Bool) (moves : List Move),
      let h : History := { worker := { grouper := g, coalesce } }
      ∀ job ∈ (moves.foldl after h).delivered, ∀ i k, Happens (Queues job.ticket) h moves i →
        Happens (Takes job.ticket) h moves k → (job.superseded = true ↔ MarkedBetween moves i k) := by
  intro hall
  let h : History := { worker := { grouper := { extractor := fieldExtractor "" }, coalesce := true } }
  have hd : (lateMark.foldl after h).delivered.map (fun job => (job.ticket, job.superseded)) =
      [(1, false), (2, true)] := by decide +kernel
  obtain ⟨first, rest, e, hfirst, -⟩ := List.map_eq_cons_iff.mp hd
  obtain ⟨hticket, hmark⟩ := Prod.mk.inj hfirst
  have hq : Happens (Queues first.ticket) h lateMark 0 := by
    rw [hticket]
    exact ⟨_, rfl, _, _, _, rfl, rfl⟩
  have ht : Happens (Takes first.ticket) h lateMark 5 := by
    rw [hticket]
    exact ⟨_, rfl, rfl, _, _, rfl, rfl⟩
  have hbetween : MarkedBetween lateMark 0 5 := ⟨4, by decide, by decide, rfl⟩
  have hsuperseded := (hall _ true lateMark first (e ▸ List.mem_cons_self) 0 5 hq ht).mpr hbetween
  rw [hmark] at hsuperseded
  cases hsuperseded

end MediaIndex.Worker.History
