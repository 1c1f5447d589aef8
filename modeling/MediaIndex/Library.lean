import MediaIndex.Column
import MediaIndex.Json.Value

/-!
# Library files

A library is written as a JSON array of items, each an object with an `id` and perhaps `fields`, or an
array of these two. Members of an object that are not known count for nothing.
-/

namespace MediaIndex

/-! ## 1. Parts of a library -/

/-- An item identifier. -/
def itemId? (v : Json.Value) : Option ItemId := v.natural?.map UInt64.ofNat

/-- The fields of an item; none are given when the part is missing. -/
def itemFields? : Option Json.Value → Option (List (String × String))
  | none => some []
  | some v => v.texts?

/-- An item. -/
def item? (v : Json.Value) : Option Item := do
  match ← v.parts? ["id", "fields"] with
  | [some id, fields] =>
    let id ← itemId? id
    let fields ← itemFields? fields
    pure (fields.foldl (fun item (name, text) => item.withField name text) { id })
  | _ => none

/-- A list of items. -/
def items? (v : Json.Value) : Option (List Item) := do (← v.elements?).mapM item?

/-- A column: an object with a `field` and a `name`, or an array of the two. -/
def column? (v : Json.Value) : Option Column := do
  match ← v.parts? ["field", "name"] with
  | [some field, some name] => pure (.ofField (← field.text?) (← name.text?))
  | _ => none

/-! ## 2. Libraries -/

/-- The items of a library file. -/
def parseLibrary (text : String) : Option (List Item) := (Json.parse text).bind items?

end MediaIndex
