import MediaIndex.GroupKey

/-!
# Events

What the index tells the views that show it. A change of rows or columns is told by a pair of events,
one before and one after it, with the same range in both; a reset is told by a pair too, and means
that every row is to be read again. A change of one node in place is told by a single event.
-/

namespace MediaIndex

/-- The number of a request to the worker; later requests have greater numbers. -/
abbrev Ticket := Nat

/-! ## 1. What events are about -/

/-- Rows or columns `first` to `last`, both included. -/
structure Span where
  first : Nat
  last : Nat
deriving DecidableEq, Repr, Inhabited

namespace Span

/-- The span of one row or column. -/
def single (i : Nat) : Span := ⟨i, i⟩

/-- A span for reading. -/
def shown (s : Span) : String := s!"{s.first}..={s.last}"

end Span

/-- A node that has a row. -/
inductive NodeRef where
  | summary
  | group (key : GroupKey)
deriving DecidableEq, Repr, Inhabited

/-- What of a node has changed. -/
inductive Aspect where
  /-- What it shows in its columns. -/
  | display
  /-- Which items it has. -/
  | members
  /-- What decorates it, such as cover art. -/
  | decoration
deriving DecidableEq, Repr, Inhabited

/-- The word for an aspect. -/
def Aspect.shown : Aspect → String
  | display => "Display"
  | members => "Members"
  | decoration => "Decoration"

/-! ## 2. Brackets -/

/-- A change that is told by a pair of events. -/
inductive Bracket where
  | reset
  | insert (rows : Span)
  | remove (rows : Span)
  | removeColumns (columns : Span)
deriving DecidableEq, Repr, Inhabited

/-- A bracket written out in full. -/
def Bracket.describe : Bracket → String
  | reset => "Reset"
  | insert s => Quoted.record "Insert" (ends s)
  | remove s => Quoted.record "Remove" (ends s)
  | removeColumns s => Quoted.record "RemoveColumns" (ends s)
where
  /-- The two ends of a span as named parts. -/
  ends (s : Span) : List (String × String) :=
    [("first", toString s.first), ("last", toString s.last)]

/-! ## 3. Events -/

/-- One thing a view is told. -/
inductive Event where
  /-- The change is about to happen. -/
  | begins (change : Bracket)
  /-- The change has happened. -/
  | ends (change : Bracket)
  /-- A node has changed in place. -/
  | changed (node : NodeRef) (aspects : List Aspect)
  /-- A finished job has been taken into the index. -/
  | batchApplied (ticket : Ticket)
deriving DecidableEq, Repr, Inhabited

namespace Event

/-- A node reference for reading. -/
def nodeShown : NodeRef → String
  | .summary => "summary"
  | .group key => key.shown

/-- An event as one line of text. -/
def shown : Event → String
  | begins .reset => "reset-begin"
  | ends .reset => "reset-end"
  | begins (.insert s) => "insert-begin " ++ s.shown
  | ends (.insert s) => "insert " ++ s.shown
  | begins (.remove s) => "remove-begin " ++ s.shown
  | ends (.remove s) => "remove " ++ s.shown
  | begins (.removeColumns s) => "remove-columns-begin " ++ s.shown
  | ends (.removeColumns s) => "remove-columns " ++ s.shown
  | changed node aspects =>
    "changed [" ++ nodeShown node ++ "] " ++ Quoted.list (aspects.map Aspect.shown)
  | batchApplied ticket => "batch #" ++ toString ticket

end Event

end MediaIndex
