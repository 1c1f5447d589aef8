import MediaIndex.CommandLine.Arguments
import MediaIndex.CommandLine.Report
import MediaIndex.Settings.Written

/-!
# Running commands

What a call of the program comes to, over any way to look at files. The settings come first, then the
columns that take their place, then the files of the command; the first thing that fails ends the call.
-/

namespace MediaIndex.CommandLine

/-! ## 1. Outcomes -/

/-- What a call has come to. -/
inductive Outcome where
  /-- It was carried out: lines to be printed, and remarks beside them. -/
  | done (lines : List String) (remarks : List String)
  /-- It was not carried out. -/
  | failed (f : Failure)
  /-- It was no proper call. -/
  | misused
  /-- A library is to be browsed. -/
  | browse (path : String) (session : Session)

/-- What a call reads besides its arguments. -/
structure Surroundings (m : Type → Type) where
  /-- What is found at a path. -/
  look : String → m FileContent
  /-- The folder that programs keep their settings in, if there is one. -/
  settingsFolder : Option String
  /-- Columns in place of those of the settings. -/
  columns : Option String

/-- The status that a call ends with. -/
def Outcome.status : Outcome → Nat
  | done _ _ => 0
  | failed _ => 1
  | misused => 2
  | browse _ _ => 0

/-- An outcome, or the failure in its way. -/
def Outcome.ofExcept : Except Failure Outcome → Outcome
  | .ok o => o
  | .error f => failed f

/-! ## 2. Settings -/

/-- The settings of the file at a path. -/
def settingsOf (content : FileContent) : Except Failure Settings :=
  (match content with
  | .missing => Settings.load none
  | .unreadable reason => .error (.file reason)
  | .text s => Settings.load (some s)).mapError .index

/-- The settings with other columns, if any are written. -/
def withColumns (columns : Option String) (s : Settings) : Except Failure Settings :=
  match columns with
  | none => .ok s
  | some text =>
    match Column.parseList text with
    | .ok columns => .ok { s with columns }
    | .error e => .error (.index (.configuration e.message))

/-! ## 3. Commands -/

/-- Prints results in a format; remarks go with text only. -/
def printed (format : Format) (lines : List String) (document : Json.Document) (remark : String) :
    Outcome :=
  match format with
  | .text => .done lines [remark]
  | .json => .done [document.shown] []

/-- The groups that a query keeps. -/
def runQuery (session : Session) (pattern : String) (limit : Nat) (format : Format) :
    Except Failure Outcome := do
  let ix := session.index
  if ix.isEmpty then pure (.done [] [emptyRemark])
  else
    let q ← (NodeQuery.parse pattern).mapError .index
    let nodes := ix.filter q
    let first := nodes.take limit
    pure (printed format (first.map (matchLine ix)) (matchesDocument ix first)
      (foundRemark nodes.length ix.size))

/-- The settings, or where they are kept. -/
def runConfig (settings : Settings) (path : String) (content : FileContent) (pathOnly : Bool) :
    Outcome :=
  if pathOnly then .done [path] []
  else
    let remark := if content = .missing then " (not found, using defaults)" else ""
    .done ["# " ++ path ++ remark, settings.write] []

/-- The script at a path. -/
def readScript (path : String) (content : FileContent) : Except Failure (List Operation) :=
  match content.text? with
  | none => .error (.noScript path)
  | some text =>
    match parseScript text with
    | none => .error (.badScript path)
    | some ops => .ok ops

variable {m : Type → Type}

/-- Carries out a command. -/
def runCommand [Monad m] (around : Surroundings m) (settings : Settings) (path : String) (config : FileContent)
    (command : Command) : m Outcome := do
  match command with
  | .group library hideSummary format =>
    let settings := if hideSummary then { settings with showSummary := false } else settings
    let content ← around.look library
    pure (.ofExcept do
      let s ← Session.ofLibrary settings library content
      pure (printed format (rowLines s.index) (rowsDocument s.index) (groupedRemark s.index)))
  | .query library pattern limit format =>
    let content ← around.look library
    pure (.ofExcept do
      runQuery (← Session.ofLibrary settings library content) pattern limit format)
  | .replay library script format =>
    let scriptContent ← around.look script
    let content ← around.look library
    pure (.ofExcept do
      let ops ← readScript script scriptContent
      let s ← Session.ofLibrary settings library content
      let r ← Replay.run s.index ops
      pure (printed format (r.log.map eventLine) (eventsDocument r.log) (replayedRemark r)))
  | .interactive library =>
    let content ← around.look library
    pure (.ofExcept do pure (.browse library (← Session.ofLibrary settings library content)))
  | .config pathOnly => pure (runConfig settings path config pathOnly)

/-- The file with the settings of a call. -/
def settingsPath (around : Surroundings m) (call : Invocation) : Option String :=
  call.config <|> around.settingsFolder.map Settings.fileIn

/-- Carries out a call. -/
def run [Monad m] (around : Surroundings m) (args : List String) : m Outcome := do
  match Invocation.parse around.columns args with
  | none => pure .misused
  | some call =>
    match settingsPath around call with
    | none => pure (.failed (.index (.configuration "Could not determine config directory")))
    | some path =>
      let config ← around.look path
      match settingsOf config >>= withColumns call.columns with
      | .error f => pure (.failed f)
      | .ok settings => runCommand around settings path config call.command

end MediaIndex.CommandLine
