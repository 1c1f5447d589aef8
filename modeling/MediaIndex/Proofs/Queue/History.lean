import MediaIndex.Proofs.Grouping.Batch
import MediaIndex.Proofs.Queue.Tickets

/-!
# What a worker delivers

The history of a worker: the requests it was given, each with the ticket it was answered with, and the
jobs it has delivered. Whatever the order of requests, marks, moves of the worker and deliveries, a job
is made of the requests that were answered with its ticket, and of nothing else.

* `Worker.Move`, `Worker.History` -- the moves, and what has happened so far;
* `History.Made` -- what a job has to do with the requests that were answered with its ticket;
* `History.Kept`, `Kept.after`, `Kept.foldl_after` -- the invariant of all histories;
* `exists_rest` -- a worker that runs on delivers every job;
* `delivers_what_was_asked` -- what the jobs delivered are.
-/

namespace MediaIndex.Worker

/-! ## 1. Histories -/

/-- A move: the owner of the worker asks something of it, or it proceeds by itself. -/
inductive Move where
  | submit (kind : JobKind) (columns : List Column) (items : List Item)
  /-- All jobs that wait or run are marked. -/
  | supersede
  | start
  | finish
  /-- The first finished job is taken, if there is one. -/
  | take
deriving DecidableEq

/-- The items that a move brings. -/
def Move.items : Move → List Item
  | submit _ _ items => items
  | _ => []

/-- The move is neither a request nor a mark. -/
def Move.isInternal : Move → Bool
  | start | finish | take => true
  | _ => false

/-- A request, as it was answered. -/
structure Request where
  /-- The ticket it was answered with. -/
  ticket : Ticket
  kind : JobKind
  columns : List Column
  items : List Item
  /-- How often the jobs had been marked before. -/
  round : Nat
deriving DecidableEq

/-- What has happened to a worker so far. -/
structure History where
  worker : Worker
  requests : List Request := []
  delivered : List FinishedJob := []
  /-- How often the jobs have been marked. -/
  round : Nat := 0

namespace History

/-- The history with one more move. -/
def after (h : History) : Move → History
  | .submit kind columns items =>
    { h with
      worker := (h.worker.submit kind columns items).2
      requests := h.requests ++
        [⟨(h.worker.submit kind columns items).1.ticket, kind, columns, items, h.round⟩] }
  | .supersede => { h with worker := h.worker.supersede.2, round := h.round + 1 }
  | .start => { h with worker := h.worker.start }
  | .finish => { h with worker := h.worker.finish }
  | .take =>
    match h.worker.next? with
    | none => h
    | some (job, worker) => { h with worker, delivered := h.delivered ++ [job] }

/-- The requests that were answered with a ticket. -/
def answered (h : History) (ticket : Ticket) : List Request := h.requests.filter (·.ticket == ticket)

/-- The items of the requests that were answered with a ticket, in the order of the requests. -/
def brought (h : History) (ticket : Ticket) : List Item := (h.answered ticket).flatMap (·.items)

/-- All jobs there have been, in the order of delivery. -/
def jobs (h : History) : List Job := h.delivered.map (·.toJob.unmarked) ++ h.worker.jobs

variable {h h' : History} {job : Job} {ticket : Ticket} {request : Request}

theorem mem_answered : request ∈ h.answered ticket ↔ request ∈ h.requests ∧ request.ticket = ticket := by
  rw [answered, List.mem_filter, beq_iff_eq]

/-! ## 2. The invariant -/

/-- The job is made of the requests that were answered with its ticket: all are of its kind and over its
    columns, and of every item it has the copy of the last request that brings the item. -/
structure Made (h : History) (job : Job) : Prop where
  answered_ne : h.answered job.ticket ≠ []
  alike : ∀ r ∈ h.answered job.ticket, r.kind = job.kind ∧ r.columns = job.columns
  distinct : (idsOf job.items).Nodup
  newest : ∀ id, lastCopyOf job.items id = lastCopyOf (h.brought job.ticket) id

/-- What holds of every history in which no request brings an item twice. -/
structure Kept (h : History) (g : Grouper) : Prop where
  grouper_eq : h.worker.grouper = g
  distinct : ∀ r ∈ h.requests, (idsOf r.items).Nodup
  numbered : h.worker.Numbered (h.delivered.map (·.ticket))
  batch_eq : ∀ job ∈ h.delivered ++ h.worker.finished, job.batch = g.compute job.items job.columns
  made : ∀ job ∈ h.jobs, h.Made job
  ticket_pos : ∀ r ∈ h.requests, 0 < r.ticket
  ticket_le : ∀ r ∈ h.requests, r.ticket ≤ h.worker.lastTicket
  /-- A job that may still be joined has been asked for since the last mark. -/
  current : ∀ job ∈ h.worker.waiting, job.superseded = false →
    ∀ r ∈ h.answered job.ticket, r.round = h.round
  alone : ∀ r ∈ h.requests, r.kind = .reset → h.answered r.ticket = [r]
  same_round : ∀ r ∈ h.requests, ∀ r' ∈ h.requests, r.ticket = r'.ticket → r.round = r'.round

variable {g : Grouper}

theorem kept_initially (g : Grouper) (coalesce : Bool) : Kept { worker := { grouper := g, coalesce } } g where
  grouper_eq := rfl
  distinct _ hm := absurd hm List.not_mem_nil
  numbered := numbered_of_no_jobs rfl rfl
  batch_eq _ hm := absurd hm List.not_mem_nil
  made _ hm := absurd hm List.not_mem_nil
  ticket_pos _ hm := absurd hm List.not_mem_nil
  ticket_le _ hm := absurd hm List.not_mem_nil
  current _ hm := absurd hm List.not_mem_nil
  alone _ hm := absurd hm List.not_mem_nil
  same_round _ hm := absurd hm List.not_mem_nil

/-- The tickets of all jobs there have been are `1, 2, …`. -/
theorem Kept.tickets_eq (hk : h.Kept g) : h.jobs.map (·.ticket) = List.range' 1 h.worker.lastTicket := by
  rw [← hk.numbered, jobs, List.map_append, List.map_map]
  rfl

theorem Kept.nodup_tickets (hk : h.Kept g) : (h.jobs.map (·.ticket)).Nodup := by
  rw [hk.tickets_eq]
  exact List.nodup_range'

theorem Kept.ticket_le_of_mem (hk : h.Kept g) (hm : job ∈ h.jobs) : job.ticket ≤ h.worker.lastTicket := by
  have ht : job.ticket ∈ h.jobs.map (·.ticket) := List.mem_map_of_mem hm
  rw [hk.tickets_eq, List.mem_range'_1, Nat.add_comm] at ht
  exact Nat.le_of_lt_succ ht.2

/-- A request is carried by a job. -/
theorem Kept.exists_job (hk : h.Kept g) (hr : request ∈ h.requests) :
    ∃ job ∈ h.jobs, job.ticket = request.ticket := by
  have ht : request.ticket ∈ h.jobs.map (·.ticket) := by
    rw [hk.tickets_eq, List.mem_range'_1, Nat.add_comm]
    exact ⟨hk.ticket_pos request hr, Nat.lt_succ_of_le (hk.ticket_le request hr)⟩
  exact List.mem_map.mp ht

/-! ## 3. Moves that are no requests -/

/-- A move that adds no request and no job keeps what jobs are made of. -/
theorem Made.congr (hm : h.Made job) (hr : h'.requests = h.requests) : h'.Made job := by
  have ha : h'.answered = h.answered := by
    unfold answered
    rw [hr]
  have hb : h'.brought = h.brought := by
    unfold brought
    rw [ha]
  exact ⟨ha ▸ hm.answered_ne, ha ▸ hm.alike, hm.distinct, hb ▸ hm.newest⟩

theorem Kept.supersede (hk : h.Kept g) : (h.after .supersede).Kept g where
  grouper_eq := hk.grouper_eq
  distinct := hk.distinct
  numbered := hk.numbered.supersede
  batch_eq := hk.batch_eq
  made job hm := by
    have hj : (h.after .supersede).jobs = h.jobs :=
      congrArg (h.delivered.map (·.toJob.unmarked) ++ ·) h.worker.jobs_supersede
    exact (hk.made job (hj ▸ hm)).congr rfl
  ticket_pos := hk.ticket_pos
  ticket_le := hk.ticket_le
  current job hm hs := by
    obtain ⟨waiting, -, rfl⟩ := List.mem_map.mp hm
    cases hs
  alone := hk.alone
  same_round := hk.same_round

theorem Kept.start (hk : h.Kept g) : (h.after .start).Kept g where
  grouper_eq := h.worker.grouper_start.trans hk.grouper_eq
  distinct := hk.distinct
  numbered := hk.numbered.start
  batch_eq := by
    have hf : h.worker.start.finished = h.worker.finished := by
      unfold Worker.start
      split <;> rfl
    show ∀ job ∈ h.delivered ++ h.worker.start.finished, _
    rw [hf]
    exact hk.batch_eq
  made job hm := by
    have hj : (h.after .start).jobs = h.jobs :=
      congrArg (h.delivered.map (·.toJob.unmarked) ++ ·) h.worker.jobs_start
    exact (hk.made job (hj ▸ hm)).congr rfl
  ticket_pos := hk.ticket_pos
  ticket_le r hr := by
    show r.ticket ≤ h.worker.start.lastTicket
    rw [h.worker.lastTicket_start]
    exact hk.ticket_le r hr
  current job hm := by
    have hsub : h.worker.start.waiting ⊆ h.worker.waiting := by
      unfold Worker.start
      split
      · rename_i hw
        rw [hw]
        exact List.subset_cons_self _ _
      · exact List.Subset.refl _
    exact hk.current job (hsub hm)
  alone := hk.alone
  same_round := hk.same_round

theorem Kept.finish (hk : h.Kept g) : (h.after .finish).Kept g where
  grouper_eq := h.worker.grouper_finish.trans hk.grouper_eq
  distinct := hk.distinct
  numbered := hk.numbered.finish
  batch_eq job hm := by
    have hm : job ∈ h.delivered ++ h.worker.finish.finished := hm
    unfold Worker.finish at hm
    split at hm
    · rw [← List.append_assoc] at hm
      rcases List.mem_append.mp hm with hm | hm
      · exact hk.batch_eq job hm
      · rw [List.mem_singleton.mp hm, ← hk.grouper_eq]
        rfl
    · exact hk.batch_eq job hm
  made job hm := by
    have hj : (h.after .finish).jobs = h.jobs :=
      congrArg (h.delivered.map (·.toJob.unmarked) ++ ·) h.worker.jobs_finish
    exact (hk.made job (hj ▸ hm)).congr rfl
  ticket_pos := hk.ticket_pos
  ticket_le r hr := by
    show r.ticket ≤ h.worker.finish.lastTicket
    rw [h.worker.lastTicket_finish]
    exact hk.ticket_le r hr
  current job hm := by
    have hw : h.worker.finish.waiting = h.worker.waiting := by
      unfold Worker.finish
      split <;> rfl
    exact hk.current job (hw ▸ hm)
  alone := hk.alone
  same_round := hk.same_round

theorem take_of_finished {first : FinishedJob} {rest : List FinishedJob}
    (hf : h.worker.finished = first :: rest) : h.after .take =
      { h with worker := { h.worker with finished := rest }, delivered := h.delivered ++ [first] } := by
  unfold after next?
  rw [hf]

theorem take_of_none (hf : h.worker.finished = []) : h.after .take = h := by
  unfold after next?
  rw [hf]

/-- A job that is taken is no longer outstanding but delivered. -/
theorem jobs_take : (h.after .take).jobs = h.jobs := by
  cases hf : h.worker.finished with
  | nil => rw [take_of_none hf]
  | cons first rest =>
    rw [take_of_finished hf, jobs, jobs, jobs_of_finished hf, List.map_append, List.append_assoc]
    rfl

theorem Kept.take (hk : h.Kept g) : (h.after .take).Kept g := by
  have hj := h.jobs_take
  cases hf : h.worker.finished with
  | nil =>
    rw [take_of_none hf]
    exact hk
  | cons first rest =>
    rw [take_of_finished hf] at hj ⊢
    refine ⟨hk.grouper_eq, hk.distinct, ?_, ?_, fun job hm => ?_, hk.ticket_pos, hk.ticket_le,
      hk.current, hk.alone, hk.same_round⟩
    · rw [List.map_append]
      exact hk.numbered.rest hf
    · rw [List.append_assoc]
      have hb := hk.batch_eq
      rw [hf] at hb
      exact hb
    · exact (hk.made job (hj ▸ hm)).congr rfl

/-! ## 4. Requests -/

section Submit

variable {kind : JobKind} {columns : List Column} {items : List Item}

/-- The request of a move, as it is answered. -/
def asked (h : History) (kind : JobKind) (columns : List Column) (items : List Item) : Request :=
  ⟨(h.worker.submit kind columns items).1.ticket, kind, columns, items, h.round⟩

theorem answered_submit (ticket : Ticket) : (h.after (.submit kind columns items)).answered ticket =
    h.answered ticket ++
      (if (h.asked kind columns items).ticket = ticket then [h.asked kind columns items] else []) := by
  have hone : [h.asked kind columns items].filter (·.ticket == ticket) =
      if (h.asked kind columns items).ticket = ticket then [h.asked kind columns items] else [] := by
    by_cases ht : (h.asked kind columns items).ticket = ticket <;> simp [ht]
  rw [← hone]
  exact List.filter_append ..

theorem answered_submit_of_ne (hn : (h.asked kind columns items).ticket ≠ ticket) :
    (h.after (.submit kind columns items)).answered ticket = h.answered ticket := by
  rw [answered_submit, if_neg hn, List.append_nil]

theorem answered_submit_of_eq (he : (h.asked kind columns items).ticket = ticket) :
    (h.after (.submit kind columns items)).answered ticket =
      h.answered ticket ++ [h.asked kind columns items] := by
  rw [answered_submit, if_pos he]

/-- A job with another ticket is made of the requests it was made of. -/
theorem Made.submit_of_ne (hm : h.Made job) (hn : (h.asked kind columns items).ticket ≠ job.ticket) :
    (h.after (.submit kind columns items)).Made job := by
  have ha := answered_submit_of_ne hn
  have hb : (h.after (.submit kind columns items)).brought job.ticket = h.brought job.ticket := by
    rw [brought, ha, brought]
  exact ⟨ha ▸ hm.answered_ne, ha ▸ hm.alike, hm.distinct, hb ▸ hm.newest⟩

/-- A new job is made of the request alone. -/
theorem made_new (hi : (idsOf items).Nodup) (hnew : h.answered (h.asked kind columns items).ticket = []) :
    (h.after (.submit kind columns items)).Made
      { ticket := (h.asked kind columns items).ticket, kind, columns, items } := by
  have ha : (h.after (.submit kind columns items)).answered (h.asked kind columns items).ticket =
      [h.asked kind columns items] := by
    rw [answered_submit_of_eq rfl, hnew]
    rfl
  refine ⟨?_, ?_, hi, fun id => ?_⟩
  · rw [ha]
    exact List.cons_ne_nil _ _
  · rw [ha]
    intro r hr
    rw [List.mem_singleton.mp hr]
    exact ⟨rfl, rfl⟩
  · rw [brought, ha, List.flatMap_singleton]
    rfl

/-- A job that a request joins is made of the requests it was made of, and of this one. -/
theorem Made.absorb (hm : h.Made job) (ht : (h.asked kind columns items).ticket = job.ticket)
    (hkind : job.kind = kind) (hcolumns : job.columns = columns) :
    (h.after (.submit kind columns items)).Made (job.absorb items) := by
  have ha : (h.after (.submit kind columns items)).answered job.ticket =
      h.answered job.ticket ++ [h.asked kind columns items] := answered_submit_of_eq ht
  refine ⟨?_, ?_, nodup_idsOf_absorb hm.distinct, fun id => ?_⟩
  · show (h.after (.submit kind columns items)).answered job.ticket ≠ []
    rw [ha]
    exact List.append_ne_nil_of_right_ne_nil _ (List.cons_ne_nil _ _)
  · show ∀ r ∈ (h.after (.submit kind columns items)).answered job.ticket, _
    rw [ha]
    intro r hr
    rcases List.mem_append.mp hr with hr | hr
    · exact hm.alike r hr
    · rw [List.mem_singleton.mp hr]
      exact ⟨hkind.symm, hcolumns.symm⟩
  · show lastCopyOf (MediaIndex.absorb job.items items) id =
      lastCopyOf ((h.after (.submit kind columns items)).brought job.ticket) id
    rw [lastCopyOf_absorb, brought, ha, List.flatMap_append, List.flatMap_singleton, lastCopyOf_append,
      hm.newest]
    rfl

variable (kind) (columns) (items) in
/-- **A request joins only requests of its kind that were made since the last mark**, and a rebuild
    joins none. -/
theorem Kept.joins (hk : h.Kept g) {r : Request}
    (hr : r ∈ h.answered (h.asked kind columns items).ticket) :
    kind ≠ .reset ∧ r.kind = kind ∧ r.round = h.round := by
  obtain ⟨hmem, ht⟩ := mem_answered.mp hr
  rcases h.worker.submit_cases kind columns items with e | ⟨front, tail, hw, hadmits, e⟩
  · -- a new job has a ticket of its own
    have hle := hk.ticket_le r hmem
    rw [ht, asked, e] at hle
    exact absurd hle (Nat.not_succ_le_self _)
  · obtain ⟨hreset, hkind, -, hmarked⟩ := Job.admits_iff.mp hadmits
    have htail : tail ∈ h.worker.waiting := hw ▸ List.mem_append_right _ (List.mem_singleton_self _)
    have hticket : (h.asked kind columns items).ticket = tail.ticket := by rw [asked, e]; rfl
    rw [hticket] at hr
    have hjob : tail.unmarked ∈ h.jobs :=
      List.mem_append_right _ (List.mem_map_of_mem (List.mem_append_right _ htail))
    exact ⟨hreset, ((hk.made _ hjob).alike r hr).1.trans hkind, hk.current tail htail hmarked r hr⟩

theorem Kept.lastTicket_submit (hk : h.Kept g) :
    (h.asked kind columns items).ticket = (h.worker.submit kind columns items).2.lastTicket :=
  hk.numbered.ticket_submit kind columns items

theorem Kept.made_submit (hk : h.Kept g) (hi : (idsOf items).Nodup) :
    ∀ job ∈ (h.after (.submit kind columns items)).jobs,
      (h.after (.submit kind columns items)).Made job := by
  have hd := hk.nodup_tickets
  have hjobs : (h.after (.submit kind columns items)).jobs =
    h.delivered.map (·.toJob.unmarked) ++ (h.worker.submit kind columns items).2.jobs := rfl
  rcases h.worker.submitted_submit kind columns items with
    ⟨hs, hj, -⟩ | ⟨front, tail, hs, hold, hj, -, -, hkind, hcolumns⟩
  · have hticket : (h.asked kind columns items).ticket = h.worker.lastTicket + 1 := by rw [asked, hs]; rfl
    rw [hjobs, hj, ← List.append_assoc]
    intro job hm
    rcases List.mem_append.mp hm with hm | hm
    · refine (hk.made job hm).submit_of_ne fun e => ?_
      have hle := hk.ticket_le_of_mem hm
      rw [← e, hticket] at hle
      exact Nat.not_succ_le_self _ hle
    · rw [List.mem_singleton.mp hm, ← hticket]
      refine made_new hi (List.filter_eq_nil_iff.mpr fun r hr ht => ?_)
      have hle := hk.ticket_le r hr
      rw [beq_iff_eq.mp ht, hticket] at hle
      exact Nat.not_succ_le_self _ hle
  · have hticket : (h.asked kind columns items).ticket = tail.ticket := by rw [asked, hs]; rfl
    have hall : h.jobs = (h.delivered.map (·.toJob.unmarked) ++ front) ++ [tail] := by
      rw [jobs, hold, List.append_assoc]
    rw [hall, List.map_append] at hd
    rw [hjobs, hj, ← List.append_assoc]
    intro job hm
    rcases List.mem_append.mp hm with hm | hm
    · refine (hk.made job (hall ▸ List.mem_append_left _ hm)).submit_of_ne fun e => ?_
      exact (List.nodup_append.mp hd).2.2 _ (List.mem_map_of_mem hm) _ (List.mem_singleton_self _)
        (e.symm.trans hticket)
    · rw [List.mem_singleton.mp hm]
      have hmade := hk.made tail (hall ▸ List.mem_append_right _ (List.mem_singleton_self _))
      exact hmade.absorb hticket hkind hcolumns

/-- A job that waits after a request waited before, or is the one that carries the request. -/
theorem mem_waiting_submit (hm : job ∈ (h.worker.submit kind columns items).2.waiting) :
    job ∈ h.worker.waiting ∨ (h.asked kind columns items).ticket = job.ticket := by
  rcases h.worker.submit_cases kind columns items with e | ⟨front, tail, hw, -, e⟩
  · rw [e] at hm
    refine (List.mem_append.mp hm).imp_right fun hm => ?_
    rw [asked, e, List.mem_singleton.mp hm]
    rfl
  · rw [e] at hm
    rcases List.mem_append.mp hm with hm | hm
    · exact Or.inl (hw ▸ List.mem_append_left _ hm)
    · refine Or.inr ?_
      rw [asked, e, List.mem_singleton.mp hm]
      rfl

theorem Kept.submit (hk : h.Kept g) (hi : (idsOf items).Nodup) :
    (h.after (.submit kind columns items)).Kept g where
  grouper_eq := (h.worker.grouper_submit kind columns items).trans hk.grouper_eq
  distinct r hr := by
    rcases List.mem_append.mp hr with hr | hr
    · exact hk.distinct r hr
    · rw [List.mem_singleton.mp hr]
      exact hi
  numbered := hk.numbered.submit kind columns items
  batch_eq := by
    show ∀ job ∈ h.delivered ++ (h.worker.submit kind columns items).2.finished, _
    rw [finished_submit]
    exact hk.batch_eq
  made := hk.made_submit hi
  ticket_pos r hr := by
    rcases List.mem_append.mp hr with hr | hr
    · exact hk.ticket_pos r hr
    · rw [List.mem_singleton.mp hr]
      exact hk.numbered.ticket_submit_pos kind columns items
  ticket_le r hr := by
    show r.ticket ≤ (h.worker.submit kind columns items).2.lastTicket
    rcases List.mem_append.mp hr with hr | hr
    · exact Nat.le_trans (hk.ticket_le r hr) (h.worker.lastTicket_le_submit kind columns items)
    · rw [List.mem_singleton.mp hr]
      exact Nat.le_of_eq hk.lastTicket_submit
  current job hm hmarked r hr := by
    have hm : job ∈ (h.worker.submit kind columns items).2.waiting := hm
    show r.round = h.round
    by_cases ht : (h.asked kind columns items).ticket = job.ticket
    · rw [answered_submit_of_eq ht] at hr
      rcases List.mem_append.mp hr with hr | hr
      · exact (hk.joins kind columns items (ht ▸ hr)).2.2
      · rw [List.mem_singleton.mp hr]
        rfl
    · rw [answered_submit_of_ne ht] at hr
      exact hk.current job ((mem_waiting_submit hm).resolve_right ht) hmarked r hr
  alone r hr hreset := by
    rcases List.mem_append.mp hr with hr | hr
    · rw [answered_submit_of_ne fun ht => ?_]
      · exact hk.alone r hr hreset
      · obtain ⟨hn, hkind, -⟩ := hk.joins kind columns items (mem_answered.mpr ⟨hr, ht.symm⟩)
        exact hn (hkind.symm.trans hreset)
    · have hr : r = h.asked kind columns items := List.mem_singleton.mp hr
      subst hr
      rw [answered_submit_of_eq rfl, List.append_eq_singleton_iff]
      refine Or.inl ⟨List.eq_nil_iff_forall_not_mem.mpr fun r hr => ?_, rfl⟩
      exact (hk.joins kind columns items hr).1 hreset
  same_round := by
    have hnew : ∀ r ∈ h.requests, r.ticket = (h.asked kind columns items).ticket → r.round = h.round :=
      fun r hr ht => (hk.joins kind columns items (mem_answered.mpr ⟨hr, ht⟩)).2.2
    intro r hr r' hr' ht
    rcases List.mem_append.mp hr with hr | hr <;> rcases List.mem_append.mp hr' with hr' | hr'
    · exact hk.same_round r hr r' hr' ht
    · rw [List.mem_singleton.mp hr'] at ht ⊢
      exact hnew r hr ht
    · rw [List.mem_singleton.mp hr] at ht ⊢
      exact (hnew r' hr' ht.symm).symm
    · rw [List.mem_singleton.mp hr, List.mem_singleton.mp hr']

end Submit

/-! ## 5. Whole histories -/

/-- **Every move keeps the invariant**, when no request brings an item twice. -/
theorem Kept.after (hk : h.Kept g) {move : Move} (hi : (idsOf move.items).Nodup) :
    (h.after move).Kept g := by
  cases move with
  | submit kind columns items => exact hk.submit hi
  | supersede => exact hk.supersede
  | start => exact hk.start
  | finish => exact hk.finish
  | take => exact hk.take

/-- **The invariant holds of every history.** -/
theorem Kept.foldl_after (hk : h.Kept g) {moves : List Move} (hi : ∀ move ∈ moves, (idsOf move.items).Nodup) :
    (moves.foldl History.after h).Kept g :=
  List.foldlRecOn (motive := fun h => Kept h g) moves History.after hk fun _ hk move hm => hk.after (hi move hm)

theorem Move.items_of_isInternal {move : Move} (hm : move.isInternal = true) : move.items = [] := by
  cases move with
  | submit kind columns items => cases hm
  | _ => rfl

theorem requests_after {move : Move} (hm : move.isInternal = true) :
    (h.after move).requests = h.requests := by
  cases move with
  | take =>
    cases hf : h.worker.finished with
    | nil => rw [take_of_none hf]
    | cons first rest => rw [take_of_finished hf]
  | start => rfl
  | finish => rfl
  | _ => cases hm

/-- **No job is lost**: a worker that runs on, and whose finished jobs are taken, delivers every job. -/
theorem exists_rest (h : History) : ∃ rest : List Move, (∀ move ∈ rest, move.isInternal = true) ∧
    (rest.foldl after h).requests = h.requests ∧ (rest.foldl after h).worker.jobs = [] := by
  generalize hn : h.worker.jobs.length = n
  induction n generalizing h with
  | zero => exact ⟨[], fun _ hm => absurd hm List.not_mem_nil, rfl, List.length_eq_zero_iff.mp hn⟩
  | succ n ih =>
    have hj : h.worker.jobs ≠ [] := fun e => by rw [e] at hn; cases hn
    -- one round of these moves delivers the first job
    let round : List Move := [.finish, .start, .finish, .take]
    let done : History := (([.finish, .start, .finish] : List Move).foldl after h)
    have hdone : done.worker = h.worker.finish.start.finish := rfl
    have hround : round.foldl after h = done.after .take := rfl
    have hinternal : ∀ move ∈ round, move.isInternal = true := by decide
    obtain ⟨first, others, hf⟩ := List.exists_cons_of_ne_nil (finished_ne_nil hj)
    have htake := take_of_finished (h := done) hf
    have hjobs : h.worker.jobs = first.toJob.unmarked :: (done.after .take).worker.jobs := by
      rw [← jobs_finish, ← jobs_start, ← jobs_finish, htake]
      exact jobs_of_finished hf
    rw [hjobs, List.length_cons, Nat.succ_inj] at hn
    obtain ⟨rest, hrest, hrequests, hnone⟩ := ih (done.after .take) hn
    refine ⟨round ++ rest, fun move hm => (List.mem_append.mp hm).elim (hinternal move) (hrest move), ?_, ?_⟩
    · rw [List.foldl_append, hround, hrequests, requests_after rfl]
      rfl
    · rw [List.foldl_append, hround, hnone]

/-! ## 6. What is delivered -/

/-- A job that was delivered is what was asked for. -/
structure Delivers (h : History) (g : Grouper) (job : FinishedJob) : Prop where
  asked : h.answered job.ticket ≠ []
  /-- It has the kind and the columns of every request that was answered with its ticket. -/
  alike : ∀ r ∈ h.answered job.ticket, r.kind = job.kind ∧ r.columns = job.columns
  /-- It brings every item once. -/
  once : (idsOf job.items).Nodup
  /-- Its copy of an item is that of the last of these requests that brings the item. -/
  latest : ∀ item, item ∈ job.items ↔ ∃ earlier r later, h.answered job.ticket = earlier ++ r :: later ∧
    item ∈ r.items ∧ ∀ r' ∈ later, item.id ∉ idsOf r'.items
  batch_eq : job.batch = g.compute job.items job.columns
  /-- Its batch was asked for exactly the items of these requests. -/
  requested : ∀ id, id ∈ job.batch.requested ↔ ∃ r ∈ h.answered job.ticket, id ∈ idsOf r.items

theorem Kept.delivers (hk : h.Kept g) {job : FinishedJob} (hm : job ∈ h.delivered) : h.Delivers g job := by
  have hmade : h.Made job.toJob.unmarked := hk.made _ (List.mem_append_left _ (List.mem_map_of_mem hm))
  have hb : job.batch = g.compute job.items job.columns := hk.batch_eq job (List.mem_append_left _ hm)
  have hd : (idsOf job.items).Nodup := hmade.distinct
  refine ⟨hmade.answered_ne, hmade.alike, hd, fun item => ?_, hb, fun id => ?_⟩
  · have hlast : lastCopyOf job.items item.id = lastCopyOf (h.brought job.ticket) item.id :=
      hmade.newest item.id
    have hitems : item ∈ job.items ↔ lastCopyOf (h.brought job.ticket) item.id = some item := by
      rw [← hlast, lastCopyOf_eq_some_iff hd]
      exact (and_iff_left rfl).symm
    rw [hitems, brought, lastCopyOf_flatMap_eq_some_iff]
    refine exists_congr fun earlier => exists_congr fun r => exists_congr fun later =>
      and_congr_right fun e => and_congr_left fun _ => ?_
    have hr : r ∈ h.answered job.ticket := e ▸ List.mem_append_right _ List.mem_cons_self
    rw [lastCopyOf_eq_some_iff (hk.distinct r (mem_answered.mp hr).1)]
    exact and_iff_left rfl
  · have hnone : id ∉ idsOf job.items ↔ id ∉ idsOf (h.brought job.ticket) := by
      rw [← lastCopyOf_eq_none_iff, ← lastCopyOf_eq_none_iff]
      exact Eq.congr_left (hmade.newest id)
    rw [hb, Grouper.mem_requested_compute, ← mem_idsOf, not_iff_not.mp hnone, brought, idsOf,
      List.map_flatMap, List.mem_flatMap]
    rfl

/-- **What a worker delivers.** Whatever the order of the moves, when no request brings an item twice,
    the jobs delivered have the tickets `1, 2, …`, each is made of the requests that were answered with
    its ticket, a rebuild is made of one request only, no job is made of requests from before and after
    a mark, and every request is carried by a job that is delivered once the worker has run on. -/
theorem delivers_what_was_asked (g : Grouper) (coalesce : Bool) {moves : List Move}
    (hi : ∀ move ∈ moves, (idsOf move.items).Nodup) :
    ∃ h : History, moves.foldl after { worker := { grouper := g, coalesce } } = h ∧
      h.delivered.map (·.ticket) = List.range' 1 h.delivered.length ∧
      (∀ job ∈ h.delivered, h.Delivers g job) ∧
      (∀ r ∈ h.requests, r.kind = .reset → h.answered r.ticket = [r]) ∧
      (∀ r ∈ h.requests, ∀ r' ∈ h.requests, r.ticket = r'.ticket → r.round = r'.round) ∧
      ∃ rest : List Move, (∀ move ∈ rest, move.isInternal = true) ∧
        ∀ r ∈ h.requests, ∃ job ∈ (rest.foldl after h).delivered, job.ticket = r.ticket := by
  have hk := (kept_initially g coalesce).foldl_after hi
  refine ⟨_, rfl, ?_, fun job hm => hk.delivers hm, hk.alone, hk.same_round, ?_⟩
  · have hd := hk.numbered.delivered_eq
    rwa [List.length_map] at hd
  · obtain ⟨rest, hinternal, hrequests, hnone⟩ := exists_rest (moves.foldl History.after _)
    have hk' : Kept (rest.foldl History.after _) g := hk.foldl_after fun move hm => by
      rw [Move.items_of_isInternal (hinternal move hm)]
      exact List.nodup_nil
    refine ⟨rest, hinternal, fun r hr => ?_⟩
    obtain ⟨job, hm, ht⟩ := hk'.exists_job (hrequests ▸ hr)
    rw [jobs, hnone, List.append_nil] at hm
    obtain ⟨done, hdone, rfl⟩ := List.mem_map.mp hm
    exact ⟨done, hdone, ht⟩

/-- A copy of an item with a genre. -/
def copyWith (id : ItemId) (genre : String) : Item := Item.withField ⟨id, ∅⟩ "genre" genre

/-- While the first job runs, two requests come to one job, which a mark then closes to a third one. -/
def mergingMoves : List Move :=
  [.submit .add [.ofField "genre" "Genre"] [copyWith 1 "Rock"], .start,
    .submit .add [.ofField "genre" "Genre"] [copyWith 1 "Pop", copyWith 2 "Jazz"],
    .submit .add [.ofField "genre" "Genre"] [copyWith 1 "Soul"], .supersede,
    .submit .add [.ofField "genre" "Genre"] [copyWith 2 "Blues"],
    .submit .reset [.ofField "genre" "Genre"] [], .finish, .start, .finish, .take, .take]

theorem delivers_what_was_asked_merging : (∀ move ∈ mergingMoves, (idsOf move.items).Nodup) ∧
    ∃ h : History, mergingMoves.foldl after
        { worker := { grouper := { extractor := fieldExtractor "" }, coalesce := true } } = h ∧
      h.delivered.map (·.items) = [[copyWith 1 "Rock"], [copyWith 1 "Soul", copyWith 2 "Jazz"]] ∧
      h.delivered.map (·.ticket) = List.range' 1 h.delivered.length ∧
      (∀ job ∈ h.delivered, h.Delivers { extractor := fieldExtractor "" } job) ∧
      (∀ r ∈ h.requests, r.kind = .reset → h.answered r.ticket = [r]) ∧
      ∀ r ∈ h.requests, ∀ r' ∈ h.requests, r.ticket = r'.ticket → r.round = r'.round := by
  have hi : ∀ move ∈ mergingMoves, (idsOf move.items).Nodup := by decide
  obtain ⟨h, hrun, htickets, hjobs, halone, hround, -⟩ :=
    delivers_what_was_asked { extractor := fieldExtractor "" } true hi
  refine ⟨hi, h, hrun, ?_, htickets, hjobs, halone, hround⟩
  rw [← hrun]
  decide +kernel

end History

end MediaIndex.Worker
