import MediaIndex.Browser.Frame

/-!
# Keys

What the keys do, and the loop in which they are read: before every key all finished work is taken in
and a frame is drawn.
-/

namespace MediaIndex

/-- A key. -/
inductive KeyCode where
  | char (c : Char)
  | up | down | pageUp | pageDown | home | toEnd
  | enter | backspace | escape
  /-- A function key. -/
  | function (n : Nat)
  /-- A key that does nothing. -/
  | other
deriving DecidableEq, Repr, Inhabited

/-- Something that happens at the keyboard or to the screen. -/
inductive Input where
  /-- A key is pressed, perhaps together with the control key. -/
  | press (key : KeyCode) (control : Bool)
  /-- Anything else. -/
  | ignored
deriving DecidableEq, Repr, Inhabited

namespace Browser

/-- The number of rows in a page. -/
def pageLength : Nat := 10

/-- Leaves the browser. -/
def quit (b : Browser) : Browser := { b with quitting := true }

/-- A letter together with the control key. -/
def controlled (b : Browser) : Char → Except Fault Browser
  | 'c' => pure b.quit
  | 's' => b.toggleSummary
  | 'r' => b.hideLastColumn
  | 'd' => b.removeSelected
  | _ => pure b

/-- A key is pressed; `content` is what the library file holds. -/
def press (b : Browser) (content : FileContent) (key : KeyCode) (control : Bool) :
    Except Fault Browser :=
  match key with
  | .char c => if control then b.controlled c else pure (b.typed c)
  | .up => pure b.up
  | .down => pure b.down
  | .pageUp => pure (b.pageUp pageLength)
  | .pageDown => pure (b.pageDown pageLength)
  | .home => pure b.home
  | .toEnd => pure b.toEnd
  | .enter => pure b.openSelected
  | .backspace => pure b.backspace
  | .escape => pure b.quit
  | .function n => if n = 5 then b.reload content else pure b
  | .other => pure b

/-- Something happens. -/
def handle (b : Browser) (content : FileContent) : Input → Except Fault Browser
  | .press key control => b.press content key control
  | .ignored => pure b

/-- One turn of the loop: takes in what is finished, draws over the frame before, and handles an
    input. -/
def turn (b : Browser) (old : Frame) (size : ScreenSize) (took : String) (content : FileContent)
    (input : Input) : Except Fault (Frame × Browser) := do
  let (frame, b) := (← b.tick).draw old size took
  pure (frame, ← b.handle content input)

/-- Reads inputs until one leaves the browser or there are no more, and keeps the last frame, which is
    what is on the screen. The answer says which inputs are left. -/
def loop (size : ScreenSize) (took : String) (content : FileContent) :
    List Input → Frame → Browser → Except Fault (Frame × List Input × Browser)
  | [], shown, b => pure (shown, [], b)
  | input :: rest, shown, b => do
    let (shown, b) ← b.turn shown size took content input
    if b.quitting then pure (shown, rest, b) else loop size took content rest shown b

end Browser

end MediaIndex
