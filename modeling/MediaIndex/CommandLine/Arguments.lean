import MediaIndex.Query.Written
import MediaIndex.Text.CaseMapping

/-!
# Command line arguments

How the program is called: options that hold for every command, a command, and the options and words
of that command. An option has a long name after two hyphens and perhaps a letter after one; letters
may be put together. The value of an option is the next argument, or what follows the letter or an
equals sign. After two hyphens alone every argument is a word.

* `scan` splits arguments into options and words, or refuses them;
* `Invocation.parse` says what is to be done.
-/

namespace MediaIndex.CommandLine

/-! ## 1. Options -/

/-- An option that may be given. -/
structure OptionSpec where
  name : String
  letter : Option Char := none
  /-- It has a value. -/
  hasValue : Bool := false
  /-- It may be given several times. -/
  repeats : Bool := false
deriving DecidableEq, Repr

/-- An option as given. -/
structure Given where
  spec : OptionSpec
  value : String := ""
deriving DecidableEq, Repr

/-- Arguments split into options and words. -/
structure Scanned where
  options : List Given := []
  words : List String := []
  /-- What follows the first word, when scanning ends there. -/
  rest : List String := []
deriving DecidableEq, Repr

namespace Scanned

/-- More options in front. -/
def withOptions (s : Scanned) (gs : List Given) : Scanned := { s with options := gs ++ s.options }

/-- One more word in front. -/
def withWord (s : Scanned) (w : String) : Scanned := { s with words := w :: s.words }

/-- The value of an option that is given. -/
def value? (s : Scanned) (name : String) : Option String :=
  (s.options.find? (·.spec.name == name)).map (·.value)

/-- An option is given. -/
def has (s : Scanned) (name : String) : Bool := s.options.any (·.spec.name == name)

/-- No option is given twice unless it may be. -/
def isSingle (s : Scanned) : Bool :=
  let names := (s.options.filter (!·.spec.repeats)).map (·.spec.name)
  names.eraseDups.length == names.length

end Scanned

/-! ## 2. One argument -/

/-- Letters after one hyphen: the options they are, and the option that still needs a value. -/
def letters (specs : List OptionSpec) : List Char → Option (List Given × Option OptionSpec)
  | [] => some ([], none)
  | c :: cs => do
    let spec ← specs.find? (·.letter == some c)
    if spec.hasValue then
      match cs with
      | [] => pure ([], some spec)
      | '=' :: cs => pure ([⟨spec, String.ofList cs⟩], none)
      | cs => pure ([⟨spec, String.ofList cs⟩], none)
    else do
      let (given, open?) ← letters specs cs
      pure (⟨spec, ""⟩ :: given, open?)

/-- A name after two hyphens, perhaps with an equals sign and a value. -/
def longName (specs : List OptionSpec) (cs : List Char) : Option (List Given × Option OptionSpec) := do
  let (name, value) := match splitAtFirst '=' cs with
    | some (name, value) => (name, some (String.ofList value))
    | none => (cs, none)
  let spec ← specs.find? (·.name == String.ofList name)
  match value with
  | some value => if spec.hasValue then pure ([⟨spec, value⟩], none) else none
  | none => if spec.hasValue then pure ([], some spec) else pure ([⟨spec, ""⟩], none)

/-- An argument that begins with a hyphen and is not one alone is no word. -/
def isHyphened (arg : String) : Bool := arg.startsWith "-" && arg != "-"

/-- The options that an argument with a hyphen gives. -/
def options (specs : List OptionSpec) (arg : String) : Option (List Given × Option OptionSpec) :=
  match arg.toList with
  | '-' :: '-' :: cs => longName specs cs
  | '-' :: cs => letters specs cs
  | _ => none

/-! ## 3. All arguments -/

/-- Splits arguments; `toWord` says that the first word ends it. -/
def scan (specs : List OptionSpec) (toWord : Bool) : List String → Option Scanned
  | [] => some {}
  | "--" :: args => if toWord then none else some { words := args }
  | arg :: args =>
    if isHyphened arg then
      match options specs arg with
      | none => none
      | some (given, none) => (scan specs toWord args).map (·.withOptions given)
      | some (given, some spec) =>
        match args with
        | [] => none
        | value :: args =>
          if isHyphened value then none
          else (scan specs toWord args).map (·.withOptions (given ++ [⟨spec, value⟩]))
    else if toWord then some { words := [arg], rest := args }
    else (scan specs toWord args).map (·.withWord arg)

/-! ## 4. What is to be done -/

/-- How results are printed. -/
inductive Format where
  | text
  | json
deriving DecidableEq, Repr, Inhabited

/-- A command with its words and options. -/
inductive Command where
  /-- Groups a library and prints every row. -/
  | group (library : String) (hideSummary : Bool) (format : Format)
  /-- Prints the groups that a query keeps, at most so many. -/
  | query (library pattern : String) (limit : Nat) (format : Format)
  /-- Replays a script on a library and prints the events. -/
  | replay (library script : String) (format : Format)
  /-- Browses a library. -/
  | interactive (library : String)
  /-- Prints the settings, or only where they are kept. -/
  | config (pathOnly : Bool)
deriving DecidableEq, Repr

/-- A call of the program. -/
structure Invocation where
  /-- The file with the settings. -/
  config : Option String
  /-- The columns, in place of those of the settings. -/
  columns : Option String
  command : Command
deriving DecidableEq, Repr

/-- The options that may stand anywhere. -/
def commonOptions : List OptionSpec := [
  { name := "config", letter := some 'c', hasValue := true },
  { name := "columns", letter := some 'C', hasValue := true },
  { name := "verbose", letter := some 'v', repeats := true },
  { name := "quiet", letter := some 'q' }]

/-- How results are to be printed. -/
def outputOption : OptionSpec := { name := "output", letter := some 'o', hasValue := true }

/-- The greatest number of groups to be printed. -/
def limitOption : OptionSpec := { name := "limit", letter := some 'l', hasValue := true }

/-- Leave the summary out. -/
def noSummaryOption : OptionSpec := { name := "no-summary" }

/-- Print the place of the settings only. -/
def pathOption : OptionSpec := { name := "path" }

/-- The commands with the options of each. -/
def optionsOf (command : String) : Option (List OptionSpec) :=
  match command with
  | "group" => some [noSummaryOption, outputOption]
  | "query" => some [limitOption, outputOption]
  | "replay" => some [outputOption]
  | "interactive" => some []
  | "i" => some []
  | "config" => some [pathOption]
  | _ => none

/-- A format by name, whatever its case. -/
def Format.parse (name : String) : Option Format :=
  match lowercase name with
  | "text" => some .text
  | "json" => some .json
  | _ => none

/-- The value of an option as something else, or what stands for it when it is not given. -/
def valueOr (s : Scanned) (spec : OptionSpec) (read : String → Option α) (otherwise : α) : Option α :=
  match s.value? spec.name with
  | none => some otherwise
  | some value => read value

/-- A path is not empty. -/
def path? (text : String) : Option String := if text.isEmpty then none else some text

/-- The number of groups that a query prints unless told otherwise. -/
def defaultLimit : Nat := 100

/-- A command from its words and options. -/
def Command.ofScanned (name : String) (s : Scanned) : Option Command := do
  let format ← valueOr s outputOption Format.parse .text
  let limit ← valueOr s limitOption (readNumber ·.toList) defaultLimit
  match name, s.words with
  | "group", [library] => pure (group (← path? library) (s.has noSummaryOption.name) format)
  | "query", [library, pattern] => pure (query (← path? library) pattern limit format)
  | "replay", [library, script] => pure (replay (← path? library) (← path? script) format)
  | "interactive", [library] => pure (interactive (← path? library))
  | "i", [library] => pure (interactive (← path? library))
  | "config", [] => pure (config (s.has pathOption.name))
  | _, _ => none

/-- What a call asks for, with the columns that the surroundings give; none if it is no proper call. An
    option after the command counts before the same one ahead of it. -/
def Invocation.parse (columns : Option String) (args : List String) : Option Invocation := do
  let outer ← scan commonOptions true args
  match outer.words with
  | [name] =>
    let inner ← scan (commonOptions ++ (← optionsOf name)) false outer.rest
    if !(outer.isSingle && inner.isSingle) then none
    else
      let command ← Command.ofScanned name inner
      let config ← ((outer.options ++ inner.options).filter (·.spec.name == "config")).mapM
        (path? ·.value)
      pure {
        config := config.getLast?
        columns := inner.value? "columns" <|> outer.value? "columns" <|> columns
        command }
  | _ => none

end MediaIndex.CommandLine
