import MediaIndex.Library

/-!
# Scripts

A script is a JSON array of operations on an index. An operation is an object whose member `op` names
it and whose other members are its parts, or an array that starts with the name.
-/

namespace MediaIndex

/-- An operation of a script. -/
inductive Operation where
  | add (items : List Item)
  | update (items : List Item)
  | remove (ids : List ItemId)
  /-- Replaces the collection, and the columns if there are any given. -/
  | reset (columns : Option (List Column)) (items : List Item)
  | hideColumn (i : Nat)
  | showSummary (shown : Bool)
  /-- Decoration for an item is at hand. -/
  | decorate (id : ItemId)
  /-- Takes in every batch that is outstanding. -/
  | wait
deriving DecidableEq, Inhabited

namespace Operation

/-! ## 1. Parts -/

/-- The only part of an operation. -/
def onlyPart? (v : Json.Value) (name : String) (read : Json.Value → Option α) : Option α := do
  match ← v.parts? [name] with
  | [some part] => read part
  | _ => none

/-- A list of item identifiers. -/
def itemIds? (v : Json.Value) : Option (List ItemId) := do (← v.elements?).mapM itemId?

/-- Columns that may be missing or null. -/
def columnsOrNone? : Option Json.Value → Option (Option (List Column))
  | none => some none
  | some .null => some none
  | some v => do pure (some (← (← v.elements?).mapM column?))

/-! ## 2. Operations -/

/-- An operation with its name taken off. -/
def tagged? : Json.Value → Option (String × Json.Value)
  | .object members =>
    match members.filter (·.1 == some "op") with
    | [(_, .text (some name))] => some (name, .object (members.filter (·.1 != some "op")))
    | _ => none
  | .array (.text (some name) :: parts) => some (name, .array parts)
  | _ => none

/-- The operation with a name and parts. -/
def ofParts? (name : String) (parts : Json.Value) : Option Operation :=
  match name with
  | "add" => (onlyPart? parts "items" items?).map add
  | "update" => (onlyPart? parts "items" items?).map update
  | "remove" => (onlyPart? parts "ids" itemIds?).map remove
  | "reset" => do
    match ← parts.parts? ["columns", "items"] with
    | [columns, some items] => pure (reset (← columnsOrNone? columns) (← items? items))
    | _ => none
  | "remove_column" => (onlyPart? parts "index" Json.Value.natural?).map hideColumn
  | "summary" => (onlyPart? parts "enabled" Json.Value.boolean?).map showSummary
  | "decoration" => (onlyPart? parts "id" itemId?).map decorate
  | "wait" => (parts.parts? []).map fun _ => wait
  | _ => none

/-- One operation. -/
def ofValue? (v : Json.Value) : Option Operation := do
  let (name, parts) ← tagged? v
  ofParts? name parts

end Operation

/-! ## 3. Scripts -/

/-- Arrays and objects of a script stand inside one another at most so many times. -/
def scriptDepth : Nat := 127

/-- The operations of a script file. Everything in it must be usable, known or not. -/
def parseScript (text : String) : Option (List Operation) := do
  let v ← Json.parse text
  if v.isUsable scriptDepth then (← v.elements?).mapM Operation.ofValue? else none

end MediaIndex
