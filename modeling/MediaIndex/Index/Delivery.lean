import MediaIndex.Index.State

/-!
# Taking in finished jobs

What the index does with a job that the worker has finished.

* While a reset is pending, the first job to arrive clears the store, whatever it was submitted for.
* A job computed for other columns than those in force is submitted again as an addition.
* Items removed after a job was submitted are left out of its batch.
* A rebuild that a newer reset has replaced is dropped.
-/

namespace MediaIndex.Index

/-! ## 1. One job -/

/-- Takes in the batch of a job that was computed for the columns in force. A store that has just been
    cleared has nothing to take out first. -/
def fold (ix : Index) (job : FinishedJob) (cleared : Bool) : Except Fault Index := do
  let batch := job.batch.without (ix.isTombstoned · job.ticket)
  let ix ← if cleared then pure ix else (·.2) <$> ix.detach batch.requested.toList
  ix.merge batch

/-- Takes in a job, or submits its items again when it was computed for other columns. -/
def foldOrResubmit (ix : Index) (job : FinishedJob) (cleared : Bool) : Except Fault Index :=
  if job.columns = ix.layout.keyColumns then ix.fold job cleared
  else
    let items := job.items.filter fun item => !ix.isTombstoned item.id job.ticket
    pure (if items.isEmpty then ix else (ix.dispatch .add items).2)

/-- Takes in a job; if a reset is pending, as the first content of a cleared store and between the two
    events of a reset. -/
def takeIn (ix : Index) (job : FinishedJob) : Except Fault Index := do
  if ix.resetting then
    let notifier ← Fault.ofBracket (ix.notifier.openBracket .reset)
    let ix ← { ix with notifier }.clear.foldOrResubmit job true
    let ix := ix.refreshSummary
    let notifier ← Fault.ofBracket (ix.notifier.closeBracket .reset)
    pure { ix with notifier, resets := ix.resets + 1 }
  else
    let ix ← ix.foldOrResubmit job false
    pure ix.refreshSummary

/-- The job is a rebuild that a newer reset has replaced. -/
def replaces (ix : Index) (job : FinishedJob) : Bool :=
  job.kind == .reset && ix.latestReset != some job.ticket

/-- Applies one finished job: takes it in unless it has been replaced, forgets the removals that no
    outstanding job can undo, and tells that the job has been applied. -/
def apply (ix : Index) (job : FinishedJob) : Except Fault Index := do
  if ix.phase = .applying then throw (.reentered job.ticket)
  let ix := { ix with outstanding := ix.outstanding - 1, phase := .applying }
  let ix ←
    if ix.replaces job then pure ix
    else do
      let ix ← ix.takeIn job
      pure { ix with batchesApplied := ix.batchesApplied + 1 }
  pure { ix with
    tombstones := ix.tombstones.filter fun _ removedAt => decide (job.ticket < removedAt)
    phase := if ix.outstanding = 0 then .idle else .awaitingBatch
    notifier := ix.notifier.batchApplied job.ticket }

/-! ## 2. All jobs that can finish -/

/-- The worker of the index runs as far as it can. -/
def settle (ix : Index) (gate : Worker.Gate) : Index :=
  { ix with worker := ix.worker.settle gate }

/-- Applies the first finished job, if there is one. -/
def applyNext? (ix : Index) : Except Fault (Option Index) :=
  match ix.worker.next? with
  | none => pure none
  | some (job, worker) => some <$> { ix with worker }.apply job

/-- Applies up to `fuel` finished jobs, the worker running on after each, and counts them. -/
def pollWithin (gate : Worker.Gate) : Nat → Index → Except Fault (Nat × Index)
  | 0, ix => pure (0, ix)
  | fuel + 1, ix => do
    match ← ix.applyNext? with
    | none => pure (0, ix)
    | some ix =>
      let (applied, ix) ← pollWithin gate fuel (ix.settle gate)
      pure (applied + 1, ix)

/-- Applies every job that is finished or finishes meanwhile, and counts them. A job is submitted again
    at most once, so twice the outstanding jobs bound the count. -/
def poll (ix : Index) (gate : Worker.Gate := .open) : Except Fault (Nat × Index) :=
  pollWithin gate (2 * ix.outstanding) (ix.settle gate)

/-- Applies every job that can finish, and tells whether nothing is outstanding then. -/
def wait (ix : Index) (gate : Worker.Gate := .open) : Except Fault (Bool × Index) := do
  let (_, ix) ← ix.poll gate
  pure (ix.outstanding == 0, ix)

end MediaIndex.Index
