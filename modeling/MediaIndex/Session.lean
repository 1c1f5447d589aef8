import MediaIndex.Index.Delivery
import MediaIndex.Index.Lookup
import MediaIndex.Index.Mutation
import MediaIndex.Library
import MediaIndex.Query.Basic
import MediaIndex.Settings.Basic

/-!
# Sessions

A session is an index over the items of a library, set up by settings, with the items at hand so that
they can be named. Loading a library replaces everything and takes in what there is to take in.
-/

namespace MediaIndex

/-- What stops a session or a command. -/
inductive Failure where
  | index (e : IndexError)
  /-- The index was asked for what it refuses. -/
  | fault (f : Fault)
  /-- A library file cannot be read. -/
  | noLibrary (path : String)
  /-- A library file holds something else. -/
  | badLibrary (path : String)
  /-- A script file cannot be read. -/
  | noScript (path : String)
  /-- A script file holds something else. -/
  | badScript (path : String)
  /-- A script hides a column that is not there. -/
  | noColumn (i : Nat)
deriving DecidableEq, Repr

/-- What went wrong, in words. -/
def Failure.message : Failure → String
  | index e => e.message
  | fault f => f.message
  | noLibrary path => "Failed to read library " ++ path
  | badLibrary path => "Invalid library file " ++ path
  | noScript path => "Failed to read script " ++ path
  | badScript path => "Invalid script " ++ path
  | noColumn i => s!"No column at index {i}"

/-- What is found at a path. -/
inductive FileContent where
  | missing
  /-- Something that is no text file, and why it cannot be read. -/
  | unreadable (reason : String)
  | text (s : String)
deriving DecidableEq, Repr, Inhabited

/-- The text of a file that can be read. -/
def FileContent.text? : FileContent → Option String
  | text s => some s
  | _ => none

/-- An index over a library. -/
structure Session where
  settings : Settings
  index : Index
  /-- The items of the library; of two with one number the last counts. -/
  items : Std.ExtTreeMap ItemId Item := ∅

namespace Session

/-- A session without a library. -/
def ofSettings (settings : Settings) : Session := { settings, index := settings.index }

/-- The items by number. -/
def catalogue (items : List Item) : Std.ExtTreeMap ItemId Item :=
  items.foldl (fun m item => m.insert item.id item) ∅

/-- Asks for the columns of the settings over the items of a library. -/
def request (s : Session) (items : List Item) : Except Fault Session := do
  let (_, index) ← s.index.reset s.settings.columns items
  pure { s with index, items := catalogue items }

/-- Replaces everything by the items of a library. -/
def load (s : Session) (items : List Item) : Except Fault Session := do
  let s ← s.request items
  let (_, index) ← s.index.wait
  pure { s with index }

/-- The items of the library file at a path. -/
def readLibrary (path : String) (content : FileContent) : Except Failure (List Item) :=
  match content.text? with
  | none => .error (.noLibrary path)
  | some text =>
    match parseLibrary text with
    | none => .error (.badLibrary path)
    | some items => .ok items

/-- A session over the library file at a path. -/
def ofLibrary (settings : Settings) (path : String) (content : FileContent) :
    Except Failure Session := do
  let items ← readLibrary path content
  ((ofSettings settings).load items).mapError .fault

/-- The title of an item, or its number. -/
def describe (s : Session) (id : ItemId) : String :=
  match s.items[id]?.bind (·.field? "title") with
  | some title => title
  | none => s!"#{id}"

end Session

end MediaIndex
