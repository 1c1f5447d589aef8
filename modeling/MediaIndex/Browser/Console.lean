import MediaIndex.Browser.Input

/-!
# Browsing line by line

For a console that knows lines only: a line is either the name of a key after a colon, or text that is
typed character by character; an empty line is the enter key. A frame is printed as lines, the selected
one marked in front.
-/

namespace MediaIndex

/-! ## 1. Lines as inputs -/

/-- The input that a name stands for. -/
def Input.named? (name : String) : Option Input :=
  match name with
  | "up" => some (.press .up false)
  | "down" => some (.press .down false)
  | "pageup" => some (.press .pageUp false)
  | "pagedown" => some (.press .pageDown false)
  | "home" => some (.press .home false)
  | "end" => some (.press .toEnd false)
  | "delete" => some (.press .backspace false)
  | "reload" => some (.press (.function 5) false)
  | "summary" => some (.press (.char 's') true)
  | "hide" => some (.press (.char 'r') true)
  | "remove" => some (.press (.char 'd') true)
  | "quit" => some (.press .escape false)
  | _ => none

/-- The inputs that a line stands for. -/
def Input.ofLine (line : String) : List Input :=
  match line.toList with
  | [] => [.press .enter false]
  | ':' :: name => (Input.named? (String.ofList name)).toList
  | typed => typed.map fun c => .press (.char c) false

/-- The inputs of a line, one after another, and then what is finished is taken in. -/
def Browser.handleLine (b : Browser) (size : ScreenSize) (content : FileContent) (line : String) :
    Except Fault Browser := do
  let (_, _, b) ← Browser.loop size "" content (Input.ofLine line) .blank b
  b.tick

/-! ## 2. Frames as lines -/

/-- A line of the box with the rows. -/
def FrameLine.shown (l : FrameLine) : String := (if l.selected then "> " else "  ") ++ l.text

/-- A frame as lines. -/
def Frame.shownLines (f : Frame) : List String :=
  ["Filter: " ++ f.filter.text, f.title.text] ++ f.lines.map FrameLine.shown ++ [f.status.text]

end MediaIndex
