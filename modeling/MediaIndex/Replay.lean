import MediaIndex.Script
import MediaIndex.Session

/-!
# Replaying scripts

Carries out the operations of a script on the index of a session and keeps what its observers are told,
with the number of the operation that told it. Work that is asked for waits until an operation says so,
or the script ends; what the end brings counts for the last operation that told anything.
-/

namespace MediaIndex

/-- What observers have been told, each with the number of its operation. -/
abbrev EventLog := List (Nat × Event)

namespace Operation

/-- Carries out an operation. -/
def perform (op : Operation) (ix : Index) : Except Failure Index :=
  match op with
  | add items => drop (ix.add items)
  | update items => drop (ix.update items)
  | remove ids => drop (ix.remove ids)
  | reset (some columns) items => drop (ix.reset columns items)
  | reset none items => drop (ix.fullReload items)
  | hideColumn i => do
    match ← (ix.hideColumn i).mapError .fault with
    | (true, ix) => pure ix
    | (false, _) => throw (.noColumn i)
  | showSummary shown => (ix.setSummaryShown shown).mapError .fault
  | decorate id => pure (ix.decorationReady id).2
  | wait => drop ix.wait
where
  /-- The index that an answer leaves. -/
  drop {α : Type} (r : Except Fault (α × Index)) : Except Failure Index :=
    (r.map (·.2)).mapError .fault

end Operation

/-- A replay under way. -/
structure Replay where
  index : Index
  log : EventLog := []

namespace Replay

/-- Moves what the observer has been told into the log. -/
def collect (r : Replay) (step : Nat) : Replay where
  index := { r.index with notifier := r.index.notifier.drain }
  log := r.log ++ (r.index.notifier.inboxes.headD []).map (step, ·)

/-- Carries out operations, the first one numbered `step`; the worker goes on beside them. -/
def performAll (r : Replay) (step : Nat) : List Operation → Except Failure Replay
  | [] => pure r
  | op :: ops => do
    let index ← op.perform r.index
    performAll ({ r with index := index.settle .open }.collect step) (step + 1) ops

/-- The number of the last operation in the log. -/
def lastStep (r : Replay) : Nat := (r.log.getLast?.map (·.1)).getD 0

/-- Replays a script on an index, and takes in what is outstanding at its end. -/
def run (ix : Index) (ops : List Operation) : Except Failure Replay := do
  let r ← performAll { index := ix.subscribe } 1 ops
  let (_, index) ← r.index.wait.mapError .fault
  let r := { r with index }.collect r.lastStep
  match r.index.problem? with
  | some e => throw (.index e)
  | none => pure r

end Replay

end MediaIndex
