import MediaIndex.GroupKey
import MediaIndex.Item

/-!
# Errors

What can go wrong, by cause, and the one function that puts it into words.
-/

namespace MediaIndex

/-- What went wrong. -/
inductive IndexError where
  /-- An item is recorded under a node that does not list it. -/
  | danglingEntry (item : ItemId) (key : GroupKey)
  /-- A node lists an item that is not recorded under it. -/
  | missingEntry (item : ItemId) (key : GroupKey)
  /-- A node has no members. -/
  | emptyNode (key : GroupKey)
  /-- The parts of the index disagree in another way. -/
  | inconsistent (text : String)
  /-- A filter pattern cannot be read. -/
  | invalidPattern (pattern reason : String)
  /-- The configuration cannot be used. -/
  | configuration (reason : String)
  /-- A file cannot be read or written. -/
  | file (reason : String)
deriving DecidableEq, Repr, Inhabited

namespace IndexError

/-- What went wrong, in words. -/
def message : IndexError → String
  | danglingEntry item key =>
    s!"item {item} maps to node {key.describe} which does not contain it"
  | missingEntry item key =>
    s!"node {key.describe} contains item {item} without a matching reverse entry"
  | emptyNode key => s!"node {key.describe} has no members"
  | inconsistent text => s!"invariant violation: {text}"
  | invalidPattern pattern reason => s!"invalid filter pattern: {pattern}: {reason}"
  | configuration reason => s!"configuration error: {reason}"
  | file reason => s!"I/O error: {reason}"

/-- The parts of the index disagree. -/
def isInconsistency : IndexError → Bool
  | danglingEntry _ _ => true
  | missingEntry _ _ => true
  | emptyNode _ => true
  | inconsistent _ => true
  | _ => false

end IndexError

end MediaIndex
