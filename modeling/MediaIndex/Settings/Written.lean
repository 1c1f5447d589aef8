import MediaIndex.Settings.Basic

/-!
# Written settings

The text that settings are saved as: a TOML document with every part in it, one section after another
with an empty line between two.

* `Settings.write` is that text;
* `Settings.save` refuses settings with a number that TOML has no room for.
-/

namespace MediaIndex.Settings

/-! ## 1. Lines -/

/-- A key with its value. -/
def assignment (key value : String) : String := key ++ " = " ++ value

/-- A key with a text. -/
def textLine (key text : String) : String := assignment key (Toml.Quoted.write text)

/-- A key with a truth value. -/
def flagLine (key : String) (flag : Bool) : String := assignment key (toString flag)

/-! ## 2. Sections -/

/-- A column as a table of its own. -/
def columnSection (c : Column) : List String :=
  ["[[grouping.columns]]", textLine "field" c.field, textLine "name" c.name]

/-- The sections, each as its lines. An empty list of columns is written within the grouping. -/
def sections (s : Settings) : List (List String) :=
  [["[general]", textLine "log_level" s.logLevel],
   ["[grouping]"] ++ (if s.columns.isEmpty then [assignment "columns" "[]"] else []) ++
     [flagLine "show_summary" s.showSummary, textLine "multi_value_separator" s.separator]] ++
  s.columns.map columnSection ++
  [["[performance]", assignment "parallel_threshold" (toString s.parallelThreshold),
    flagLine "coalesce_updates" s.coalesceUpdates]]

/-- The text of the settings. -/
def write (s : Settings) : String :=
  "\n".intercalate (s.sections.map fun lines => String.join (lines.map (· ++ "\n")))

/-- What a file gets when the settings are saved to it. The threshold has to be a TOML integer. -/
def save (s : Settings) : Except IndexError String :=
  if Toml.Numeral.inRange s.parallelThreshold then .ok s.write
  else .error (.configuration "Failed to serialize config")

end MediaIndex.Settings
