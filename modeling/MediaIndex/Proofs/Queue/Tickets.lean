import MediaIndex.Proofs.Queue.Jobs

/-!
# The numbers of the jobs

Tickets are given out one after another, and jobs are delivered in the order of their tickets. So the
jobs that have been delivered are the first ones, and those outstanding follow without a gap.

* `Worker.Numbered` -- the delivered and then the outstanding jobs have the tickets 1, 2 and so on;
* `Numbered.congr`, `Numbered.submit`, `Numbered.rest` -- every move of the worker keeps this;
* `Numbered.delivered_eq`, `Numbered.count_eq`, `Numbered.lt_of_mem` -- what it says of the two parts;
* `Numbered.ticket_submit` -- a request is answered with the newest ticket.
-/

namespace MediaIndex.Worker

/-- The jobs that were delivered had the first tickets, in their order, and those outstanding have the
    tickets that follow, up to the newest. -/
def Numbered (w : Worker) (delivered : List Ticket) : Prop :=
  delivered ++ w.jobs.map (·.ticket) = List.range' 1 w.lastTicket

variable {w w' : Worker} {delivered : List Ticket}

theorem numbered_of_no_jobs (hj : w.jobs = []) (hl : w.lastTicket = 0) : w.Numbered [] := by
  unfold Numbered
  rw [hj, hl]
  rfl

theorem Numbered.congr (h : w.Numbered delivered) (hj : w'.jobs = w.jobs)
    (hl : w'.lastTicket = w.lastTicket) : w'.Numbered delivered := by
  unfold Numbered
  rw [hj, hl]
  exact h

/-! ## 1. The two parts -/

/-- **The jobs delivered so far had the tickets `1, 2, …`, each once and in this order.** -/
theorem Numbered.delivered_eq (h : w.Numbered delivered) :
    delivered = List.range' 1 delivered.length := by
  obtain ⟨k, hk, hfirst, -⟩ := List.range'_eq_append_iff.mp h.symm
  have hlen : delivered.length = k := by rw [hfirst, List.length_range']
  rw [hlen, hfirst]

/-- The job delivered last has as its ticket the number of jobs delivered. -/
theorem Numbered.last_eq {ticket : Ticket} (h : w.Numbered (delivered ++ [ticket])) :
    ticket = delivered.length + 1 := by
  have he := h.delivered_eq
  rw [List.length_append, List.length_singleton, List.range'_1_concat] at he
  obtain ⟨-, hlast⟩ := List.append_inj' he rfl
  exact (List.cons.inj hlast).1.trans (Nat.add_comm 1 _)

/-- **Every ticket given out is that of a delivered job or of an outstanding one.** -/
theorem Numbered.count_eq (h : w.Numbered delivered) :
    delivered.length + w.jobs.length = w.lastTicket := by
  have hlen : (delivered ++ w.jobs.map (·.ticket)).length = w.lastTicket := by
    rw [h, List.length_range']
  rwa [List.length_append, List.length_map] at hlen

/-- The tickets of outstanding jobs are later than the number of those delivered. -/
theorem Numbered.lt_ticket (h : w.Numbered delivered) {job : Job} (hm : job ∈ w.jobs) :
    delivered.length < job.ticket := by
  obtain ⟨k, hk, hfirst, hrest⟩ := List.range'_eq_append_iff.mp h.symm
  have hlen : delivered.length = k := by rw [hfirst, List.length_range']
  have ht : job.ticket ∈ w.jobs.map (·.ticket) := List.mem_map_of_mem hm
  rw [hrest, List.mem_range'_1] at ht
  omega

/-- A job that has been delivered had an earlier ticket than those outstanding. -/
theorem Numbered.lt_of_mem (h : w.Numbered delivered) {ticket : Ticket} (ht : ticket ∈ delivered)
    {job : Job} (hm : job ∈ w.jobs) : ticket < job.ticket := by
  rw [h.delivered_eq, List.mem_range'_1] at ht
  have hlt : ticket < delivered.length + 1 := Nat.add_comm 1 _ ▸ ht.2
  exact Nat.lt_of_lt_of_le hlt (h.lt_ticket hm)

/-! ## 2. Moves -/

theorem lastTicket_start (w : Worker) : w.start.lastTicket = w.lastTicket := by
  unfold start
  split <;> rfl

theorem lastTicket_finish (w : Worker) : w.finish.lastTicket = w.lastTicket := by
  unfold finish
  split <;> rfl

theorem Numbered.start (h : w.Numbered delivered) : w.start.Numbered delivered :=
  h.congr w.jobs_start w.lastTicket_start

theorem Numbered.finish (h : w.Numbered delivered) : w.finish.Numbered delivered :=
  h.congr w.jobs_finish w.lastTicket_finish

theorem Numbered.supersede (h : w.Numbered delivered) : w.supersede.2.Numbered delivered :=
  h.congr w.jobs_supersede rfl

/-- **The job that is delivered has the next ticket.** -/
theorem Numbered.rest (h : w.Numbered delivered) {job : FinishedJob} {rest : List FinishedJob}
    (hf : w.finished = job :: rest) :
    Numbered { w with finished := rest } (delivered ++ [job.ticket]) := by
  unfold Numbered at h ⊢
  rw [jobs_of_finished hf] at h
  rw [List.append_assoc]
  exact h

section Submit

variable (kind : JobKind) (columns : List Column) (items : List Item)

theorem Numbered.submit (h : w.Numbered delivered) :
    (w.submit kind columns items).2.Numbered delivered := by
  unfold Numbered at h ⊢
  rcases w.submitted_submit kind columns items with
    ⟨-, hjobs, hlast⟩ | ⟨front, tail, -, hold, hjobs, hlast, -⟩
  · have hnew : 1 + w.lastTicket = w.lastTicket + 1 := Nat.add_comm 1 w.lastTicket
    rw [hjobs, hlast, List.map_append, ← List.append_assoc, h, List.range'_1_concat, hnew]
    rfl
  · rw [hold] at h
    rw [hjobs, hlast, ← h, List.map_append, List.map_append]
    rfl

theorem lastTicket_le_submit (w : Worker) :
    w.lastTicket ≤ (w.submit kind columns items).2.lastTicket := by
  rcases w.submitted_submit kind columns items with ⟨-, -, hlast⟩ | ⟨front, tail, -, -, -, hlast, -⟩
  · rw [hlast]
    exact Nat.le_succ _
  · exact Nat.le_of_eq hlast.symm

/-- **A request is answered with the newest ticket**, whether it is a new job or joins the last one. -/
theorem Numbered.ticket_submit (h : w.Numbered delivered) :
    (w.submit kind columns items).1.ticket = (w.submit kind columns items).2.lastTicket := by
  rcases w.submitted_submit kind columns items with
    ⟨hs, -, hlast⟩ | ⟨front, tail, hs, hold, -, hlast, -⟩
  · rw [hs, hlast]
    rfl
  · -- the last job has the newest ticket, since there is one
    have hcount := h.count_eq
    unfold Numbered at h
    rw [hold, List.length_append, List.length_singleton] at hcount
    rw [hold, List.map_append, ← List.append_assoc, ← hcount, ← Nat.add_assoc,
      List.range'_1_concat] at h
    obtain ⟨-, htail⟩ := List.append_inj' h rfl
    have hticket : 1 + (delivered.length + front.length) = tail.ticket := (List.cons.inj htail).1.symm
    have hnewest : delivered.length + (front.length + 1) = tail.ticket := by omega
    rw [hs, hlast, ← hcount, hnewest]
    rfl

theorem Numbered.ticket_submit_pos (h : w.Numbered delivered) :
    0 < (w.submit kind columns items).1.ticket := by
  rcases w.submitted_submit kind columns items with ⟨hs, -, -⟩ | ⟨front, tail, hs, hold, -, -, -⟩
  · rw [hs]
    exact Nat.succ_pos _
  · rw [hs]
    have htail : tail ∈ w.jobs := hold ▸ List.mem_append_right _ (List.mem_singleton_self _)
    exact Nat.zero_lt_of_lt (h.lt_ticket htail)

end Submit

end MediaIndex.Worker
