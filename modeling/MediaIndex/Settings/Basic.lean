import MediaIndex.Column
import MediaIndex.Error
import MediaIndex.Index.State
import MediaIndex.Toml.Statement

/-!
# Settings

How the index is to be set up, and reading it from a TOML document. Every part may be missing, and
keys that are not known count for nothing.

* `Settings.ofEntries` takes the settings from the tables of a document;
* `Settings.load` reads a file, or gives the defaults when there is none.
-/

namespace MediaIndex

/-! ## 1. Settings -/

/-- How the index is to be set up. -/
structure Settings where
  logLevel : String := "info"
  columns : List Column := [.ofField "artist" "Artist"]
  showSummary : Bool := true
  /-- Stands between two values of one field; nothing splits fields when it is empty. -/
  separator : String := ";"
  parallelThreshold : Nat := Grouper.defaultThreshold
  coalesceUpdates : Bool := true
deriving DecidableEq, Repr, Inhabited

namespace Settings

/-- The index the settings ask for, with nothing in it. -/
def index (s : Settings) : Index :=
  Index.ofOptions (fieldExtractor s.separator) {
    columns := s.columns
    showSummary := s.showSummary
    parallelThreshold := s.parallelThreshold
    coalesce := s.coalesceUpdates }

/-- The file with the settings, in the folder that programs keep their settings in. -/
def fileIn (folder : String) : String := folder ++ "/sift/sift.toml"

end Settings

/-! ## 2. Values of a document -/

namespace Toml.Value

/-- A text. -/
def text? : Value → Option String
  | text s => some s
  | _ => none

/-- A truth value. -/
def boolean? : Value → Option Bool
  | boolean b => some b
  | _ => none

/-- A number that counts something. -/
def count? : Value → Option Nat
  | integer n => if 0 ≤ n then some n.toNat else none
  | _ => none

/-- The elements of an array of either kind. -/
def elements? : Value → Option (List Value)
  | array elements => some elements
  | tables elements => some elements
  | _ => none

/-- The part with a name. An array gives the parts in their order; a moment has none that is known. -/
def part? (v : Value) (name : String) (place : Nat) : Option (Option Value) :=
  match v with
  | table _ entries => some (entries.lookup name)
  | array elements => some elements[place]?
  | tables elements => some elements[place]?
  | moment => some none
  | _ => none

/-- A part that may be missing. -/
def partOr (v : Value) (name : String) (place : Nat) (read : Value → Option α) (otherwise : α) :
    Option α := do
  match ← v.part? name place with
  | none => pure otherwise
  | some part => read part

/-- A part that may not be missing. -/
def part (v : Value) (name : String) (place : Nat) (read : Value → Option α) : Option α := do
  read (← (← v.part? name place))

/-- A column. -/
def column? (v : Value) : Option Column := do
  let field ← v.part "field" 0 text?
  let name ← v.part "name" 1 text?
  pure (.ofField field name)

/-- A list of columns. -/
def columns? (v : Value) : Option (List Column) := do (← v.elements?).mapM column?

end Toml.Value

/-! ## 3. Settings from a document -/

namespace Settings

/-- The settings that the tables of a document give. -/
def ofEntries (entries : Toml.Entries) : Option Settings := do
  let section? (name : String) := (entries.lookup name).getD (.table .header [])
  let general := section? "general"
  let grouping := section? "grouping"
  let performance := section? "performance"
  let default : Settings := {}
  let logLevel ← general.partOr "log_level" 0 Toml.Value.text? default.logLevel
  let columns ← grouping.partOr "columns" 0 Toml.Value.columns? default.columns
  let showSummary ← grouping.partOr "show_summary" 1 Toml.Value.boolean? default.showSummary
  let separator ← grouping.partOr "multi_value_separator" 2 Toml.Value.text? default.separator
  let parallelThreshold ←
    performance.partOr "parallel_threshold" 0 Toml.Value.count? default.parallelThreshold
  let coalesceUpdates ←
    performance.partOr "coalesce_updates" 1 Toml.Value.boolean? default.coalesceUpdates
  pure { logLevel, columns, showSummary, separator, parallelThreshold, coalesceUpdates }

/-- The settings that a text gives; a column without a field is refused. -/
def parse (text : String) : Except IndexError Settings :=
  match (Toml.parse text).bind ofEntries with
  | none => .error (.configuration "Failed to parse config")
  | some settings =>
    match settings.columns.mapM Column.validate with
    | .ok _ => .ok settings
    | .error e => .error (.configuration e.message)

/-- The settings of a file, or the defaults when there is no file. -/
def load : Option String → Except IndexError Settings
  | none => .ok {}
  | some text => parse text

end Settings

end MediaIndex
