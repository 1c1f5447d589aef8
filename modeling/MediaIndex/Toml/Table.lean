import MediaIndex.Toml.Value

/-!
# TOML tables

What the statements of a document come to. Each statement finds its table along a path of keys,
making the tables that are not there yet, and changes that one table. Nothing may be defined twice:

* a key has one value;
* a table has one header, and none if it came from a dotted key or from braces;
* a dotted key adds to no table that has a header, and a plain key to none that has not.
-/

namespace MediaIndex.Toml

/-! ## 1. Changing one table along a path -/

/-- The entries with the value of one key replaced, or put at the end. -/
def setEntry (key : String) (v : Value) : Entries → Entries
  | [] => [(key, v)]
  | (k, old) :: rest => if k = key then (k, v) :: rest else (k, old) :: setEntry key v rest

/-- The last element of a list changed. -/
def changeLast (f : α → Option α) : List α → Option (List α)
  | [] => none
  | [a] => (f a).map ([·])
  | a :: rest => (changeLast f rest).map (a :: ·)

/-- A table that statements may lead through: one between braces is closed, and a dotted key does not
    lead through a table that has a header. -/
def isOpen (byDots : Bool) (origin : Origin) : Bool :=
  origin != .braces && !(byDots && origin == .header)

/-- Changes the table at the end of a path that starts here. Tables that are not there are made; an
    array of tables is entered at its last one. `change` is told how its table came to be. -/
def alter (byDots : Bool) (change : Origin → Entries → Option Entries) :
    List String → Origin → Entries → Option Entries
  | [], origin, entries => change origin entries
  | key :: path, _, entries =>
    match entries.lookup key with
    | none => do
      let origin := if byDots then .dotted else .implied
      pure (setEntry key (.table origin (← alter byDots change path origin [])) entries)
    | some (.table origin inner) =>
      if isOpen byDots origin then do
        pure (setEntry key (.table origin (← alter byDots change path origin inner)) entries)
      else none
    | some (.tables elements) => do
      let elements ← changeLast (fun v => match v with
        | .table origin inner => do pure (.table origin (← alter byDots change path origin inner))
        | _ => none) elements
      pure (setEntry key (.tables elements) entries)
    | some _ => none

/-! ## 2. One statement -/

/-- Gives a key its value; it has none yet. -/
def define (key : String) (v : Value) (entries : Entries) : Option Entries :=
  if (entries.lookup key).isSome then none else some (entries ++ [(key, v)])

/-- Gives the key at the end of a path its value, in a table that has come to be as `origin` says. -/
def assign (path : List String) (v : Value) (origin : Origin) (entries : Entries) : Option Entries :=
  match path.getLast? with
  | none => none
  | some key =>
    alter true (fun reached inner =>
      if (reached == .dotted) == path.dropLast.isEmpty then none else define key v inner)
      path.dropLast origin entries

/-- Gives a table its header. -/
def openTable (key : String) (entries : Entries) : Option Entries :=
  match entries.lookup key with
  | none => some (setEntry key (.table .header []) entries)
  | some (.table .implied inner) => some (setEntry key (.table .header inner) entries)
  | some _ => none

/-- Puts a new table at the end of those with a header of doubled brackets. -/
def openElement (key : String) (entries : Entries) : Option Entries :=
  match entries.lookup key with
  | none => some (setEntry key (.tables [.table .header []]) entries)
  | some (.tables elements) =>
    some (setEntry key (.tables (elements ++ [.table .header []])) entries)
  | some _ => none

/-- Carries out a header: `make` acts on the table that holds the last key of the path. -/
def openAt (make : String → Entries → Option Entries) (path : List String) (entries : Entries) :
    Option Entries :=
  match path.getLast? with
  | none => none
  | some key => alter false (fun _ inner => make key inner) path.dropLast .header entries

/-! ## 3. Documents and inline tables -/

/-- A document read so far, and the table that keys go to. -/
structure Progress where
  entries : Entries := []
  path : List String := []

/-- Carries out one statement. -/
def Progress.step (p : Progress) : Statement → Option Progress
  | .header path => (openAt openTable path p.entries).map ({ entries := ·, path })
  | .element path => (openAt openElement path p.entries).map ({ entries := ·, path })
  | .assign path v =>
    (alter false (assign path v) p.path .header p.entries).map ({ entries := ·, path := p.path })

/-- What the statements of a document come to. -/
def entriesOf (statements : List Statement) : Option Entries :=
  (statements.foldlM Progress.step {}).map (·.entries)

/-- What the pairs between braces come to. -/
def inlineEntries (pairs : List (List String × Value)) : Option Entries :=
  pairs.foldlM (fun entries (path, v) => assign path v .braces entries) []

end MediaIndex.Toml
