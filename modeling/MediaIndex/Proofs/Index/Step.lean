import MediaIndex.Proofs.Index.Moves
import MediaIndex.Proofs.Queue.Jobs

/-!
# Runs of the index

A run is a list of steps in any order: what the owner of the collection asks, what the worker does by
itself, and the delivery of finished jobs. No run faults, so a run is a fold over its steps.

* `Step`, `Index.step`, `Index.run` -- the steps, by the operations of the index;
* `Index.after` -- the outcome of a step as a function;
* `step_eq`, `run_eq` -- a step from a quiet index does not fault and leaves it quiet;
* `settle_eq` -- a worker that runs as far as it can starts and finishes jobs.
-/

namespace MediaIndex

/-- One step of a run. -/
inductive Step where
  | reset (columns : List Column) (items : List Item)
  | add (items : List Item)
  | update (items : List Item)
  | fullReload (items : List Item)
  | remove (ids : List ItemId)
  | hideColumn (i : Nat)
  | setSummaryShown (shown : Bool)
  | decorationReady (id : ItemId)
  | subscribe
  /-- The worker starts its first waiting job. -/
  | start
  /-- The worker finishes its running job. -/
  | finish
  /-- The first finished job is applied. -/
  | deliver

/-- The items that a step brings. -/
def Step.items : Step → List Item
  | reset _ items | add items | update items | fullReload items => items
  | _ => []

/-- The items that a step brings or takes out, by their numbers. -/
def Step.mentions : Step → List ItemId
  | remove ids => ids
  | s => idsOf s.items

theorem Step.mem_mentions {s : Step} {item : Item} (h : item ∈ s.items) : item.id ∈ s.mentions := by
  cases s with
  | remove ids => exact absurd h List.not_mem_nil
  | _ => exact mem_idsOf_of_mem h

/-- The step replaces the whole collection. -/
def Step.isReset : Step → Bool
  | reset _ _ | fullReload _ => true
  | _ => false

/-- The step is a move of the worker or a delivery, not asked by the owner. -/
def Step.isInternal : Step → Bool
  | start | finish | deliver => true
  | _ => false

theorem Step.isInternal_of_work {s : Step} (h : s = .start ∨ s = .finish) : s.isInternal = true := by
  rcases h with rfl | rfl
  · rfl
  · rfl

namespace Index

/-! ## 1. Steps by the operations -/

/-- Takes one step. -/
def step (ix : Index) : Step → Except Fault Index
  | .reset columns items => (·.2) <$> ix.reset columns items
  | .add items => (·.2) <$> ix.add items
  | .update items => (·.2) <$> ix.update items
  | .fullReload items => (·.2) <$> ix.fullReload items
  | .remove ids => (·.2) <$> ix.remove ids
  | .hideColumn i => (·.2) <$> ix.hideColumn i
  | .setSummaryShown shown => ix.setSummaryShown shown
  | .decorationReady id => pure (ix.decorationReady id).2
  | .subscribe => pure ix.subscribe
  | .start => pure { ix with worker := ix.worker.start }
  | .finish => pure { ix with worker := ix.worker.finish }
  | .deliver => (·.getD ix) <$> ix.applyNext?

/-- Takes steps one after another. -/
def run (ix : Index) (steps : List Step) : Except Fault Index := steps.foldlM step ix

/-- The outcome of a step. -/
def after (ix : Index) : Step → Index
  | .reset columns items => ix.rebuilt columns items
  | .add items => ix.brought items
  | .update items => ix.updated items
  | .fullReload items => ix.rebuilt (ix.pendingColumns.getD ix.layout.columns) items
  | .remove ids => ix.removed ids
  | .hideColumn i => ix.hidden i
  | .setSummaryShown shown => ix.summarised shown
  | .decorationReady id => (ix.decorationReady id).2
  | .subscribe => ix.subscribe
  | .start => { ix with worker := ix.worker.start }
  | .finish => { ix with worker := ix.worker.finish }
  | .deliver => ix.delivered

variable {ix : Index}

/-! ## 2. Quiet stays quiet -/

theorem quiet_ofOptions (extractor : Extractor) (options : IndexOptions) :
    (ofOptions extractor options).Quiet := ⟨rfl, fun e => by cases e⟩

theorem Quiet.dispatch (h : ix.Quiet) (kind : JobKind) (items : List Item) :
    (ix.dispatch kind items).2.Quiet := by
  refine ⟨h.closed, ?_⟩
  show (if ix.phase = .idle then Phase.awaitingBatch else ix.phase) ≠ .applying
  split
  · exact fun e => by cases e
  · exact h.phase_ne

theorem Quiet.dispatchSome (h : ix.Quiet) (kind : JobKind) (items : List Item) :
    (ix.dispatchSome kind items).2.Quiet :=
  dispatchSome_induct (P := fun r => r.2.Quiet) (fun _ => h) (h.dispatch kind items)

theorem phase_refreshSummary : ix.refreshSummary.phase = ix.phase := by
  unfold refreshSummary
  split
  · split <;> rfl
  · rfl

theorem Quiet.refreshSummary (h : ix.Quiet) : ix.refreshSummary.Quiet :=
  ⟨current_refreshSummary.trans h.closed, fun e => h.phase_ne (phase_refreshSummary.symm.trans e)⟩

theorem Quiet.rebuilt (h : ix.Quiet) (columns : List Column) (items : List Item) :
    (ix.rebuilt columns items).Quiet := by
  unfold Index.rebuilt
  split
  · exact ⟨rfl, h.phase_ne⟩
  · have ha : Quiet { ix.adopting columns with worker := ix.worker.supersede.2, resetting := true } :=
      ⟨h.closed, h.phase_ne⟩
    have hd := ha.dispatch .reset items
    exact ⟨hd.closed, hd.phase_ne⟩

theorem Quiet.removed (h : ix.Quiet) (ids : List ItemId) : (ix.removed ids).Quiet := by
  have hd : ((ix.buried ids).detached ids).Quiet := ⟨Notifier.current_tell.trans h.closed, h.phase_ne⟩
  unfold Index.removed
  split
  · exact hd
  · exact hd.refreshSummary

theorem Quiet.hidden (h : ix.Quiet) (i : Nat) : (ix.hidden i).Quiet := by
  unfold Index.hidden
  split
  · exact h
  · rename_i column _
    have hn : (ix.narrowed i column).Quiet := ⟨Notifier.current_tell.trans h.closed, h.phase_ne⟩
    exact hn.refreshSummary

theorem current_takenIn (h : ix.notifier.current = none) (job : FinishedJob) :
    (ix.takenIn job).notifier.current = none := by
  unfold takenIn
  split
  · rfl
  · rw [current_refreshSummary, current_takenUp, h]

theorem phase_concluded (job : FinishedJob) : (ix.concluded job).phase ≠ .applying := by
  show (if ix.outstanding = 0 then Phase.idle else Phase.awaitingBatch) ≠ .applying
  split
  · exact fun e => by cases e
  · exact fun e => by cases e

theorem Quiet.applied (h : ix.Quiet) (job : FinishedJob) : (ix.applied job).Quiet := by
  have hc : ix.applying.notifier.current = none := h.closed
  refine ⟨?_, phase_concluded job⟩
  unfold Index.applied
  split
  · exact h.closed
  · exact current_takenIn hc job

theorem Quiet.delivered (h : ix.Quiet) : ix.delivered.Quiet := by
  unfold Index.delivered
  split
  · exact h
  · rename_i job worker _
    have hw : Quiet { ix with worker } := ⟨h.closed, h.phase_ne⟩
    exact hw.applied job

/-- **A step from a quiet index leads to a quiet index.** -/
theorem Quiet.after (h : ix.Quiet) (s : Step) : (ix.after s).Quiet := by
  cases s with
  | reset columns items => exact h.rebuilt columns items
  | add items => exact h.dispatchSome .add _
  | update items => exact updated_induct (P := Quiet) h fun _ kind part _ _ h => h.dispatchSome kind part
  | fullReload items => exact h.rebuilt _ items
  | remove ids => exact h.removed ids
  | hideColumn i => exact h.hidden i
  | setSummaryShown shown =>
    show (ix.summarised shown).Quiet
    unfold Index.summarised
    split
    · exact h
    · exact ⟨Notifier.current_tell.trans h.closed, h.phase_ne⟩
  | decorationReady id =>
    refine ⟨?_, h.phase_ne⟩
    show (List.foldl _ ix.notifier _).current = none
    rw [Notifier.foldl_changed, Notifier.current_tell, h.closed]
  | subscribe => exact ⟨h.closed, h.phase_ne⟩
  | start => exact ⟨h.closed, h.phase_ne⟩
  | finish => exact ⟨h.closed, h.phase_ne⟩
  | deliver => exact h.delivered

/-! ## 3. No fault -/

/-- **A step from a quiet index does not fault.** -/
theorem step_eq (h : ix.Quiet) (s : Step) : ix.step s = .ok (ix.after s) := by
  cases s with
  | reset columns items =>
    obtain ⟨ticket, e⟩ := reset_eq h columns items
    rw [step, e]
    rfl
  | add items =>
    obtain ⟨ticket, e⟩ := add_eq h items
    rw [step, e]
    rfl
  | update items =>
    obtain ⟨ticket, e⟩ := update_eq h items
    rw [step, e]
    rfl
  | fullReload items =>
    obtain ⟨ticket, e⟩ := reset_eq h (ix.pendingColumns.getD ix.layout.columns) items
    rw [step, fullReload, e]
    rfl
  | remove ids => rw [step, remove_eq h]; rfl
  | hideColumn i => rw [step, hideColumn_eq h]; rfl
  | setSummaryShown shown => exact setSummaryShown_eq h shown
  | decorationReady id => rfl
  | subscribe => rfl
  | start => rfl
  | finish => rfl
  | deliver =>
    obtain ⟨next, e, hn⟩ := applyNext?_eq h
    rw [step, e]
    exact congrArg Except.ok hn

/-- **A run does not fault; it leads where its steps lead one after another.** -/
theorem run_eq (h : ix.Quiet) (steps : List Step) : ix.run steps = .ok (steps.foldl after ix) := by
  induction steps generalizing ix with
  | nil => rfl
  | cons s steps ih =>
    have hr : (ix.after s).run steps = _ := ih (h.after s)
    rw [run, List.foldlM_cons, step_eq h, List.foldl_cons, ← hr]
    rfl

theorem eq_after_of_step {ix' : Index} (h : ix.Quiet) {s : Step} (hs : ix.step s = .ok ix') :
    ix' = ix.after s := Except.ok.inj (hs.symm.trans (step_eq h s))

theorem eq_foldl_after_of_run {ix' : Index} (h : ix.Quiet) {steps : List Step}
    (hr : ix.run steps = .ok ix') : ix' = steps.foldl after ix :=
  Except.ok.inj (hr.symm.trans (run_eq h steps))

theorem Quiet.foldl_after (h : ix.Quiet) (steps : List Step) : (steps.foldl Index.after ix).Quiet :=
  List.foldlRecOn (motive := Quiet) steps Index.after h fun _ h s _ => h.after s

/-! ## 4. A worker that runs on -/

/-- A worker that runs as far as it can starts and finishes jobs. -/
theorem settleWithin_eq (ix : Index) (gate : Worker.Gate) (fuel : Nat) : ∃ steps : List Step,
    (∀ s ∈ steps, s = .start ∨ s = .finish) ∧
      steps.foldl after ix = { ix with worker := ix.worker.settleWithin gate fuel } := by
  induction fuel generalizing ix with
  | zero => exact ⟨[], fun _ hs => absurd hs List.not_mem_nil, rfl⟩
  | succ fuel ih =>
    cases hr : ix.worker.running with
    | none =>
      refine ⟨[], fun _ hs => absurd hs List.not_mem_nil, ?_⟩
      rw [Worker.settleWithin, hr]
      rfl
    | some job =>
      rw [Worker.settleWithin, hr]
      dsimp only
      split
      · obtain ⟨steps, hs, e⟩ := ih { ix with worker := ix.worker.finish.start }
        refine ⟨.finish :: .start :: steps, fun s hm => ?_, e⟩
        rcases List.mem_cons.mp hm with rfl | hm
        · exact Or.inr rfl
        · exact (List.mem_cons.mp hm).elim Or.inl (hs s)
      · exact ⟨[], fun _ hs => absurd hs List.not_mem_nil, rfl⟩

theorem settle_eq (ix : Index) (gate : Worker.Gate) : ∃ steps : List Step,
    (∀ s ∈ steps, s = .start ∨ s = .finish) ∧ steps.foldl after ix = ix.settle gate := by
  obtain ⟨steps, hs, e⟩ := (ix.after .start).settleWithin_eq gate (ix.worker.waiting.length + 1)
  refine ⟨.start :: steps, fun s hm => ?_, e⟩
  exact (List.mem_cons.mp hm).elim Or.inl (hs s)

end Index

end MediaIndex
