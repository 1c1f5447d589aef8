import MediaIndex.Event

/-!
# The notifier

Hands every event to every observer and sees to it that changes are told in well-formed pairs: a
bracket is closed before another one opens, and it is closed as it was opened. While a reset is open
nothing else is told about rows, columns or nodes, for views will read everything again.

* `Notifier.openBracket` and `closeBracket` refuse what breaks the pairing (`BracketFault`);
* `Notifier.openUnlessReset` is silent inside a reset and says so;
* `Notifier.announce` tells of a change as one pair.
-/

namespace MediaIndex

/-! ## 1. State and faults -/

/-- The observers, each by the events it has been handed and not yet taken, and the open bracket. -/
structure Notifier where
  inboxes : List (List Event) := []
  current : Option Bracket := none
deriving DecidableEq, Repr, Inhabited

/-- A pair of events that would not be well formed. -/
inductive BracketFault where
  /-- `wanted` was to be opened while `current` was open. -/
  | stillOpen (wanted current : Bracket)
  /-- What was to be closed is not what is open. -/
  | notOpen
deriving DecidableEq, Repr, Inhabited

/-- What went wrong, in words. -/
def BracketFault.message : BracketFault → String
  | stillOpen wanted current =>
    "change bracket " ++ wanted.describe ++ " opened while Some(" ++ current.describe ++
      ") is still open"
  | notOpen => "assertion `left == right` failed: change bracket closed out of order"

namespace Notifier

/-! ## 2. Observers -/

/-- One more observer, which is handed the events to come. -/
def subscribe (n : Notifier) : Notifier := { n with inboxes := n.inboxes ++ [[]] }

/-- Every observer is handed some more events. -/
def deliver (n : Notifier) (events : List Event) : Notifier :=
  { n with inboxes := n.inboxes.map (· ++ events) }

/-- The observers take what they have been handed. -/
def drain (n : Notifier) : Notifier := { n with inboxes := n.inboxes.map fun _ => [] }

/-! ## 3. Brackets -/

/-- A reset is being told. -/
def inReset (n : Notifier) : Bool := n.current == some .reset

/-- Opens a bracket; none may be open. -/
def openBracket (n : Notifier) (b : Bracket) : Except BracketFault Notifier :=
  match n.current with
  | some current => .error (.stillOpen b current)
  | none => .ok ({ n with current := some b }.deliver [.begins b])

/-- Closes the bracket that is open. -/
def closeBracket (n : Notifier) (b : Bracket) : Except BracketFault Notifier :=
  if n.current = some b then .ok ({ n with current := none }.deliver [.ends b])
  else .error .notOpen

/-- Opens a bracket unless a reset is open, and tells whether it did. -/
def openUnlessReset (n : Notifier) (b : Bracket) : Except BracketFault (Bool × Notifier) :=
  if n.inReset then .ok (false, n) else (n.openBracket b).map (true, ·)

/-- Tells of a change of rows as one pair; inside a reset, not at all. -/
def announce (n : Notifier) (b : Bracket) : Except BracketFault Notifier := do
  let (opened, n) ← n.openUnlessReset b
  if opened then n.closeBracket b else pure n

/-- Tells of changes of rows one after another. -/
def announceAll (n : Notifier) (bs : List Bracket) : Except BracketFault Notifier :=
  bs.foldlM announce n

/-! ## 4. Single events -/

/-- Tells that a node has changed in place; inside a reset, nothing. -/
def changed (n : Notifier) (node : NodeRef) (aspects : List Aspect) : Notifier :=
  if n.inReset then n else n.deliver [.changed node aspects]

/-- Tells that the members of some nodes have changed. -/
def membersChanged (n : Notifier) (keys : List GroupKey) : Notifier :=
  keys.foldl (fun n key => n.changed (.group key) [.members]) n

/-- Tells that a finished job has been taken in. -/
def batchApplied (n : Notifier) (ticket : Ticket) : Notifier := n.deliver [.batchApplied ticket]

/-- A notifier written out in full. -/
def describe (n : Notifier) : String :=
  Quoted.record "ChangeNotifier" [("observers", toString n.inboxes.length),
    ("open", match n.current with
      | none => "None"
      | some b => "Some(" ++ b.describe ++ ")")]

end Notifier

end MediaIndex
