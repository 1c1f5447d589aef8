import MediaIndex.Proofs.Index.Bringing
import MediaIndex.Proofs.Queue.Tickets

/-!
# The jobs that a run delivers

The finished jobs that the steps of a run take for application, whatever becomes of them, in their
order. With the jobs that are still outstanding they are all jobs that there have been.

* `Index.delivery`, `Index.deliveries` -- the jobs taken by one step, and by a run;
* `pollWithin_eq`, `poll_eq` -- polling is a run that delivers as many jobs as it counts;
* `worker_removed`, `worker_hidden` and others -- the steps that leave the worker alone;
* `Index.Numbered`, `Numbered.after`, `Numbered.foldl_after` -- the delivered and the outstanding jobs have the
  tickets 1, 2 and so on.
-/

namespace MediaIndex.Index

variable {ix : Index}

/-! ## 1. Deliveries -/

/-- The finished job that a step takes for application, if it takes one. -/
def delivery (ix : Index) : Step → List FinishedJob
  | .deliver => (ix.worker.next?.map (·.1)).toList
  | _ => []

/-- The finished jobs that some steps take for application, one after another. -/
def deliveries (ix : Index) : List Step → List FinishedJob
  | [] => []
  | s :: steps => ix.delivery s ++ (ix.after s).deliveries steps

theorem delivery_of_none (hf : ix.worker.finished = []) : ix.delivery .deliver = [] := by
  rw [delivery, Worker.next?, hf]
  rfl

theorem delivery_of_finished {job : FinishedJob} {rest : List FinishedJob}
    (hf : ix.worker.finished = job :: rest) : ix.delivery .deliver = [job] := by
  rw [delivery, Worker.next?, hf]
  rfl

theorem deliveries_append (steps more : List Step) : ix.deliveries (steps ++ more) =
    ix.deliveries steps ++ (steps.foldl after ix).deliveries more := by
  induction steps generalizing ix with
  | nil => rfl
  | cons s steps ih => rw [List.cons_append, deliveries, deliveries, ih, List.append_assoc, List.foldl_cons]

theorem mem_delivery {job : FinishedJob} {s : Step} (h : job ∈ ix.delivery s) :
    s = .deliver ∧ ∃ rest, ix.worker.finished = job :: rest := by
  cases s with
  | deliver =>
    cases hf : ix.worker.finished with
    | nil =>
      rw [delivery_of_none hf] at h
      exact absurd h List.not_mem_nil
    | cons first rest =>
      rw [delivery_of_finished hf] at h
      rw [List.mem_singleton.mp h]
      exact ⟨rfl, rest, rfl⟩
  | _ => exact absurd h List.not_mem_nil

/-- What all steps keep, and what it says of finished jobs, is true of every delivered job. -/
theorem forall_mem_deliveries {I : Index → Prop} {P : FinishedJob → Prop} {steps : List Step} (h : I ix)
    (hstep : ∀ ix, I ix → ∀ s ∈ steps, I (ix.after s))
    (hjob : ∀ ix, I ix → ∀ job ∈ ix.worker.finished, P job) : ∀ job ∈ ix.deliveries steps, P job := by
  induction steps generalizing ix with
  | nil => exact fun _ hm => absurd hm List.not_mem_nil
  | cons s steps ih =>
    intro job hm
    rcases List.mem_append.mp hm with hm | hm
    · obtain ⟨-, rest, hf⟩ := mem_delivery hm
      exact hjob ix h job (hf ▸ List.mem_cons_self)
    · exact ih (hstep ix h s List.mem_cons_self)
        (fun ix' h' s' hs => hstep ix' h' s' (List.mem_cons_of_mem _ hs)) job hm

/-! ## 2. Polling -/

/-- Starting and finishing jobs delivers none. -/
theorem deliveries_of_work {steps : List Step} (h : ∀ s ∈ steps, s = .start ∨ s = .finish) :
    ix.deliveries steps = [] := by
  induction steps generalizing ix with
  | nil => rfl
  | cons s steps ih =>
    have hs : ix.delivery s = [] := by
      rcases h s List.mem_cons_self with rfl | rfl
      · rfl
      · rfl
    rw [deliveries, hs, ih fun s' hm => h s' (List.mem_cons_of_mem _ hm), List.append_nil]

theorem applyNext?_of_none (hf : ix.worker.finished = []) : ix.applyNext? = .ok none := by
  rw [applyNext?, Worker.next?, hf]
  rfl

theorem applyNext?_of_finished (hq : ix.Quiet) {job : FinishedJob} {rest : List FinishedJob}
    (hf : ix.worker.finished = job :: rest) : ix.applyNext? = .ok (some ix.delivered) := by
  have hpopped : (ix.popped rest).Quiet := ⟨hq.closed, hq.phase_ne⟩
  have he : (ix.popped rest).apply job = _ := apply_eq hpopped job
  rw [applyNext?, delivered, Worker.next?, hf]
  exact congrArg (some <$> ·) he

theorem pollWithin_eq (h : ix.Quiet) (gate : Worker.Gate) (fuel : Nat) : ∃ steps : List Step,
    (∀ s ∈ steps, s.isInternal = true) ∧
      ix.pollWithin gate fuel = .ok ((ix.deliveries steps).length, steps.foldl after ix) := by
  induction fuel generalizing ix with
  | zero => exact ⟨[], fun _ hs => absurd hs List.not_mem_nil, rfl⟩
  | succ fuel ih =>
    cases hf : ix.worker.finished with
    | nil =>
      refine ⟨[], fun _ hs => absurd hs List.not_mem_nil, ?_⟩
      rw [pollWithin, applyNext?_of_none hf]
      rfl
    | cons job rest =>
      obtain ⟨moves, hm, em⟩ := ix.delivered.settle_eq gate
      have hq : (ix.delivered.settle gate).Quiet := em ▸ h.delivered.foldl_after moves
      obtain ⟨steps, hs, e⟩ := ih hq
      have hd : ix.deliveries (.deliver :: (moves ++ steps)) =
          job :: (ix.delivered.settle gate).deliveries steps := by
        have hmoves : (ix.after .deliver).deliveries moves = [] := deliveries_of_work hm
        rw [deliveries, delivery_of_finished hf, deliveries_append, hmoves, ← em]
        rfl
      refine ⟨.deliver :: (moves ++ steps), fun s hmem => ?_, ?_⟩
      · rcases List.mem_cons.mp hmem with rfl | hmem
        · rfl
        · exact (List.mem_append.mp hmem).elim (fun hmem => Step.isInternal_of_work (hm s hmem)) (hs s)
      · rw [hd, List.foldl_cons, List.foldl_append, pollWithin, applyNext?_of_finished h hf]
        show ((ix.delivered.settle gate).pollWithin gate fuel >>= fun polled =>
          pure (polled.1 + 1, polled.2)) = _
        rw [e, ← em]
        rfl

/-- **Polling is a run of the worker's moves and of deliveries**, and counts the jobs that are delivered. -/
theorem poll_eq (h : ix.Quiet) (gate : Worker.Gate) : ∃ steps : List Step,
    (∀ s ∈ steps, s.isInternal = true) ∧
      ix.poll gate = .ok ((ix.deliveries steps).length, steps.foldl after ix) := by
  obtain ⟨moves, hm, em⟩ := ix.settle_eq gate
  have hq : (ix.settle gate).Quiet := em ▸ h.foldl_after moves
  obtain ⟨steps, hs, e⟩ := pollWithin_eq hq gate (2 * ix.outstanding)
  refine ⟨moves ++ steps, fun s hmem => ?_, ?_⟩
  · exact (List.mem_append.mp hmem).elim (fun hmem => Step.isInternal_of_work (hm s hmem)) (hs s)
  · rw [List.foldl_append, deliveries_append, deliveries_of_work hm, em]
    exact e

/-! ## 3. Steps that leave the worker alone -/

theorem worker_refreshSummary : ix.refreshSummary.worker = ix.worker := by
  obtain ⟨summary, notifier, e⟩ := ix.refreshSummary_eq
  rw [e]

theorem worker_removed (ids : List ItemId) : (ix.removed ids).worker = ix.worker := by
  unfold removed
  split
  · rfl
  · exact worker_refreshSummary

theorem worker_hidden (i : Nat) : (ix.hidden i).worker = ix.worker := by
  unfold hidden
  split
  · rfl
  · exact worker_refreshSummary

theorem worker_summarised (shown : Bool) : (ix.summarised shown).worker = ix.worker := by
  unfold summarised
  split <;> rfl

/-! ## 4. The numbers of the jobs -/

variable {done : List FinishedJob}

/-- The delivered and then the outstanding jobs have the tickets `1, 2, …` up to the newest. -/
def Numbered (ix : Index) (done : List FinishedJob) : Prop :=
  ix.worker.Numbered (done.map (·.ticket))

theorem numbered_ofOptions (extractor : Extractor) (options : IndexOptions) :
    (ofOptions extractor options).Numbered [] := Worker.numbered_of_no_jobs rfl rfl

theorem Numbered.of_worker_eq {ix' : Index} (h : ix.Numbered done) (hw : ix'.worker = ix.worker) :
    ix'.Numbered done := by
  unfold Numbered
  rw [hw]
  exact h

theorem Numbered.dispatchSome (h : ix.Numbered done) (kind : JobKind) (items : List Item) :
    (ix.dispatchSome kind items).2.Numbered done :=
  dispatchSome_induct (P := fun r => r.2.Numbered done) (fun _ => h)
    (h.submit kind ix.dispatchColumns items)

theorem Numbered.updated (h : ix.Numbered done) (items : List Item) :
    (ix.updated items).Numbered done :=
  updated_induct (P := fun ix' => ix'.Numbered done) h fun _ kind part _ _ h => h.dispatchSome kind part

theorem Numbered.rebuilt (h : ix.Numbered done) (columns : List Column) (items : List Item) :
    (ix.rebuilt columns items).Numbered done := by
  unfold Index.rebuilt
  split
  · exact h
  · exact h.supersede.submit .reset _ items

/-- A job that is delivered is the first of the outstanding ones. -/
theorem Numbered.popped (h : ix.Numbered done) {job : FinishedJob} {rest : List FinishedJob}
    (hf : ix.worker.finished = job :: rest) : (ix.popped rest).Numbered (done ++ [job]) := by
  unfold Numbered
  rw [List.map_append]
  exact h.rest hf

/-- Whatever becomes of a delivered job, the numbers of the others stay in order. -/
theorem Numbered.outcome {job : FinishedJob} {rest : List FinishedJob} {stage : Index}
    (h : (ix.popped rest).Numbered done) (hout : (ix.popped rest).Outcome job stage) :
    stage.Numbered done := by
  have hmet : (ix.popped rest).applying.met.Numbered done := by
    unfold Numbered
    rw [worker_met]
    exact h
  cases hout with
  | dropped hr hs =>
    subst hs
    exact h
  | taken hr hc hs =>
    subst hs
    exact hmet
  | again hr hc hs =>
    subst hs
    rw [resubmitted_eq]
    exact hmet.dispatchSome .add _

theorem Numbered.delivered (h : ix.Numbered done) :
    ix.delivered.Numbered (done ++ ix.delivery .deliver) := by
  rcases ix.delivered_cases with ⟨hf, e⟩ | ⟨job, rest, hf, -⟩
  · rw [e, delivery_of_none hf, List.append_nil]
    exact h
  · obtain ⟨stage, summary, notifier, batchesApplied, resets, hout, e⟩ := delivered_outcome hf
    have hstage : stage.Numbered (done ++ [job]) := (h.popped hf).outcome hout
    rw [e, delivery_of_finished hf]
    exact hstage

/-- **Every step keeps the numbers in order.** -/
theorem Numbered.after (h : ix.Numbered done) (s : Step) :
    (ix.after s).Numbered (done ++ ix.delivery s) := by
  have hstay {ix' : Index} (h' : ix'.Numbered done) : ix'.Numbered (done ++ []) := by
    rwa [List.append_nil]
  cases s with
  | reset columns items => exact hstay (h.rebuilt columns items)
  | add items => exact hstay (h.dispatchSome .add _)
  | update items => exact hstay (h.updated items)
  | fullReload items => exact hstay (h.rebuilt _ items)
  | remove ids => exact hstay (h.of_worker_eq (worker_removed ids))
  | hideColumn i => exact hstay (h.of_worker_eq (worker_hidden i))
  | setSummaryShown shown => exact hstay (h.of_worker_eq (worker_summarised shown))
  | decorationReady id => exact hstay h
  | subscribe => exact hstay h
  | start => exact hstay h.start
  | finish => exact hstay h.finish
  | deliver => exact h.delivered

/-- **The delivered and then the outstanding jobs of a run have the tickets `1, 2, …`.** -/
theorem Numbered.foldl_after (h : ix.Numbered done) (steps : List Step) :
    (steps.foldl Index.after ix).Numbered (done ++ ix.deliveries steps) := by
  induction steps generalizing ix done with
  | nil =>
    rw [deliveries, List.append_nil]
    exact h
  | cons s steps ih =>
    rw [deliveries, ← List.append_assoc]
    exact ih (h.after s)

end MediaIndex.Index
