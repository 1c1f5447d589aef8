import MediaIndex.Event
import MediaIndex.Batch

/-!
# The worker

One worker computes batches, job after job in the order of submission, and hands back what it has
finished in that order. The moves of the worker itself (`start` and `finish`) are apart from what
its owner asks of it (`submit`, `supersede`, `next?`), so any interleaving of the two can be spoken of.

* A request that may join a job does so at the tail of the waiting jobs only, never a running one;
  of two copies of an item the later one stays (`absorb`).
* A reset does not stop jobs that wait or run; it only marks them (`supersede`).
-/

namespace MediaIndex

/-! ## 1. Jobs -/

/-- What a job was submitted for. -/
inductive JobKind where
  /-- The whole collection is to be grouped anew. -/
  | reset
  /-- Items that are not yet indexed. -/
  | add
  /-- Items whose groups may have changed. -/
  | update
deriving DecidableEq, Repr, Inhabited

/-- The word for a kind of job. -/
def JobKind.shown : JobKind → String
  | reset => "reset"
  | add => "add"
  | update => "update"

/-- A job that waits or runs. -/
structure Job where
  ticket : Ticket
  kind : JobKind
  columns : List Column
  items : List Item
  /-- A reset was asked for since the job was submitted. -/
  superseded : Bool := false
deriving DecidableEq, Inhabited

/-- A job that is done, with the batch computed from it. -/
structure FinishedJob extends Job where
  batch : Batch
deriving DecidableEq, Inhabited

/-- The items with the last copy of `item.id` replaced by `item`, if there is one. -/
def replaceLast? (item : Item) : List Item → Option (List Item)
  | [] => none
  | other :: rest =>
    match replaceLast? item rest with
    | some rest => some (other :: rest)
    | none => if other.id = item.id then some (item :: rest) else none

/-- The items with `item` in place of its last older copy, or at the end. -/
def absorbItem (items : List Item) (item : Item) : List Item :=
  (replaceLast? item items).getD (items ++ [item])

/-- The items with newer ones taken in, one after another. -/
def absorb (items newer : List Item) : List Item := newer.foldl absorbItem items

namespace Job

/-- The job with newer items taken in. -/
def absorb (job : Job) (newer : List Item) : Job := { job with items := MediaIndex.absorb job.items newer }

/-- The job is marked as superseded. -/
def supersede (job : Job) : Job := { job with superseded := true }

/-- A request for the same kind of work over the same columns may join the job, unless a reset has
    been asked for since or the work is a reset. -/
def admits (job : Job) (kind : JobKind) (columns : List Column) : Bool :=
  kind != .reset && job.kind == kind && job.columns == columns && !job.superseded

/-- Computing the job calls the extractor: it has items, and a column that reads a field. -/
def extracts (job : Job) : Bool :=
  !job.items.isEmpty && (orUnclassified job.columns).any (!·.isUnclassified)

end Job

/-! ## 2. The worker -/

/-- What became of a request. -/
inductive Submission where
  /-- It is a job of its own. -/
  | queued (ticket : Ticket)
  /-- It has joined the waiting job with this ticket. -/
  | coalesced (ticket : Ticket)
deriving DecidableEq, Repr, Inhabited

/-- The ticket of the job that carries the request. -/
def Submission.ticket : Submission → Ticket
  | queued t => t
  | coalesced t => t

/-- The worker with its jobs, the first to come first in each list. -/
structure Worker where
  grouper : Grouper
  waiting : List Job := []
  running : Option Job := none
  finished : List FinishedJob := []
  /-- The newest ticket given out. -/
  lastTicket : Ticket := 0
  /-- Requests may join waiting jobs. -/
  coalesce : Bool := true

namespace Worker

/-! ## 3. What the owner asks -/

/-- Takes a request: into the last waiting job if that admits it, else as a new job. -/
def submit (w : Worker) (kind : JobKind) (columns : List Column) (items : List Item) :
    Submission × Worker :=
  match w.waiting.getLast? with
  | some tail =>
    if w.coalesce && tail.admits kind columns then
      (.coalesced tail.ticket, { w with waiting := w.waiting.dropLast ++ [tail.absorb items] })
    else queue
  | none => queue
where
  /-- The request as a job of its own. -/
  queue : Submission × Worker :=
    let ticket := w.lastTicket + 1
    (.queued ticket,
      { w with lastTicket := ticket, waiting := w.waiting ++ [{ ticket, kind, columns, items }] })

/-- The jobs that wait or run. -/
def pendingJobs (w : Worker) : List Job := w.waiting ++ w.running.toList

/-- Marks every job that waits or runs, and tells how many were not marked before. -/
def supersede (w : Worker) : Nat × Worker :=
  ((w.pendingJobs.filter (!·.superseded)).length,
    { w with waiting := w.waiting.map Job.supersede, running := w.running.map Job.supersede })

/-- Takes the first finished job. -/
def next? (w : Worker) : Option (FinishedJob × Worker) :=
  match w.finished with
  | [] => none
  | job :: rest => some (job, { w with finished := rest })

/-- The worker is computing. -/
def isBusy (w : Worker) : Bool := w.running.isSome

/-- The number of jobs that wait to be started. -/
def waitingCount (w : Worker) : Nat := w.waiting.length

/-- The number of jobs that wait, run, or are done and not yet taken. -/
def outstanding (w : Worker) : Nat :=
  w.waiting.length + w.running.toList.length + w.finished.length

/-- A worker written out in full. -/
def describe (w : Worker) : String :=
  Quoted.record "Scheduler" [("next_ticket", toString w.lastTicket),
    ("coalesce", toString w.coalesce), ("queued", toString w.waitingCount)]

/-! ## 4. What the worker does by itself -/

/-- Starts the first waiting job, when none is running. -/
def start (w : Worker) : Worker :=
  match w.running, w.waiting with
  | none, job :: rest => { w with running := some job, waiting := rest }
  | _, _ => w

/-- The outcome of a job. -/
def complete (w : Worker) (job : Job) : FinishedJob :=
  { job with batch := w.grouper.compute job.items job.columns }

/-- Finishes the running job. -/
def finish (w : Worker) : Worker :=
  match w.running with
  | some job => { w with running := none, finished := w.finished ++ [w.complete job] }
  | none => w

/-! ## 5. A worker that runs as far as it can -/

/-- Whether the extractor answers. While it is held, a job that needs it stays unfinished. -/
inductive Gate where
  | open
  | held
deriving DecidableEq, Repr, Inhabited

/-- A job can be brought to its end. -/
def Gate.passes (gate : Gate) (job : Job) : Bool := gate == .open || !job.extracts

/-- Works through `fuel` waiting jobs, stopping at the first one that cannot be finished. -/
def settleWithin (gate : Gate) : Nat → Worker → Worker
  | 0, w => w
  | fuel + 1, w =>
    match w.running with
    | some job => if gate.passes job then settleWithin gate fuel w.finish.start else w
    | none => w

/-- Lets the worker run until it has nothing to do or waits for the extractor. -/
def settle (w : Worker) (gate : Gate) : Worker :=
  settleWithin gate (w.waiting.length + 1) w.start

end Worker

end MediaIndex
