import Std.Data.ExtTreeMap
import Std.Data.ExtTreeSet
import MediaIndex.Text.CaseMapping
import MediaIndex.Text.Quoted

/-!
# Items

An item is what the index groups: a media file known by its number, with a text for each of its
fields. Nothing here changes an item; the index only reads its fields.
-/

namespace MediaIndex

/-! ## 1. Identifiers -/

/-- The number by which the owner of the collection knows an item. -/
abbrev ItemId := UInt64

/-- A set of items, listed in ascending order. -/
abbrev ItemSet := Std.ExtTreeSet ItemId

/-! ## 2. Items -/

/-- An item with its field texts, listed in the order of the field names. -/
structure Item where
  id : ItemId
  fields : Std.ExtTreeMap String String := ∅
deriving DecidableEq, Inhabited

namespace Item

/-- The item with one field set. -/
def withField (item : Item) (name text : String) : Item :=
  { item with fields := item.fields.insert name text }

/-- The text of a field: of the field with that very name, or else of the first one whose name
    differs in the case of ASCII letters alone. -/
def field? (item : Item) (name : String) : Option String :=
  match item.fields[name]? with
  | some text => some text
  | none => (item.fields.toList.find? fun (other, _) => equalIgnoringAsciiCase other name).map (·.2)

/-- The text of a field, empty when the item has none. -/
def field (item : Item) (name : String) : String := (item.field? name).getD ""

/-- An item written out in full. -/
def describe (item : Item) : String :=
  Quoted.record "Item" [
    ("id", s!"ItemId({item.id})"),
    ("fields", Quoted.map (item.fields.toList.map fun (k, v) => (Quoted.encode k, Quoted.encode v)))]

end Item

end MediaIndex
