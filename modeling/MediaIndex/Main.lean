import MediaIndex.Browser.Console
import MediaIndex.CommandLine.Run

/-!
# The program

Reads files and variables, prints what a call has come to, and browses line by line. Everything else is
decided by `CommandLine.run` and `Browser.loop`.
-/

namespace MediaIndex.Program

/-- What is found at a path. -/
def look (path : String) : IO FileContent := do
  try
    pure (.text (← IO.FS.readFile path))
  catch
    | .noFileOrDirectory _ _ _ => pure .missing
    | e => pure (.unreadable e.toString)

/-- A variable that is set to something. -/
def readVariable (name : String) : IO (Option String) := do
  pure ((← IO.getEnv name).filter (· ≠ ""))

/-- The folder that programs keep their settings in. -/
def settingsFolder : IO (Option String) := do
  let named := (← readVariable "XDG_CONFIG_HOME").filter (·.startsWith "/")
  pure (named <|> (← readVariable "HOME").map (· ++ "/.config"))

/-- Prints lines. -/
def printLines (lines : List String) : IO Unit := do
  let output ← IO.getStdout
  for line in lines do
    output.putStrLn line
  output.flush

/-- The size of the console. -/
def consoleSize : ScreenSize := ⟨100, 30⟩

/-- Draws, reads a line, and goes on until a line says to stop or there are no more. -/
partial def browse (took : String) (b : Browser) : IO UInt32 := do
  let (frame, b) := b.draw .blank consoleSize took
  printLines frame.shownLines
  let line ← (← IO.getStdin).getLine
  if line.isEmpty then return 0
  let start ← IO.monoMsNow
  let content ← look b.library
  match b.handleLine consoleSize content (line.dropEndWhile (· == '\n')).toString with
  | .error f =>
    IO.eprintln f.message
    return 1
  | .ok b =>
    if b.quitting then return 0
    let stop ← IO.monoMsNow
    browse s!"{stop - start}.0ms" b

/-- How the program is called. -/
def usage : List String := [
  "Usage: sift [-c FILE] [-C COLUMNS] [-v] [-q] COMMAND",
  "  group LIBRARY [--no-summary] [-o text|json]",
  "  query LIBRARY PATTERN [-l N] [-o text|json]",
  "  replay LIBRARY SCRIPT [-o text|json]",
  "  interactive LIBRARY",
  "  config [--path]"]

/-- Prints what a call has come to, or browses. -/
def finish (outcome : CommandLine.Outcome) : IO UInt32 := do
  match outcome with
  | .done lines remarks =>
    printLines lines
    for remark in remarks do
      IO.eprintln remark
  | .failed f => IO.eprintln ("Error: " ++ f.message)
  | .misused =>
    for line in usage do
      IO.eprintln line
  | .browse path session => return ← browse "0.0ms" (.ofSession session path)
  return outcome.status.toUInt32

end MediaIndex.Program

open MediaIndex in
/-- Carries out the call that the arguments make. -/
def main (args : List String) : IO UInt32 := do
  let around : CommandLine.Surroundings IO := {
    look := Program.look
    settingsFolder := ← Program.settingsFolder
    columns := ← IO.getEnv "SIFT_COLUMNS" }
  Program.finish (← CommandLine.run around args)
