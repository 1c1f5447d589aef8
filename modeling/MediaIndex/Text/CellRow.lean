import MediaIndex.Text.Grapheme
import MediaIndex.Text.Width

/-!
# Rows of cells

A row on a screen is made of cells, one a column, and a cell holds a grapheme. A wide grapheme stands in
the first of the cells that it takes and covers the others.

* `textLines` are the lines of a text;
* `CellRow.paintRuns` paints a line over what is in a row, `CellRow.ofLine` makes a row of a line
  (section 2);
* `CellRow.overlay` is what can be seen of a row that is put where another one was (section 3).
-/

namespace MediaIndex

/-! ## 1. Lines -/

/-- The lines of a text. A line feed ends a line, together with a carriage return right before it; the
    text after the last line feed is a line unless it is empty. -/
def splitLines : List Char → List (List Char)
  | [] => []
  | '\n' :: cs => [] :: splitLines cs
  | '\r' :: '\n' :: cs => [] :: splitLines cs
  | c :: cs =>
    match splitLines cs with
    | [] => [[c]]
    | line :: lines => (c :: line) :: lines

/-- The lines of a text, of which there is at least one. -/
def textLines (s : String) : List (List Char) :=
  match splitLines s.toList with
  | [] => [[]]
  | lines => lines

/-! ## 2. Painting -/

/-- What the cells of a row hold, from the left. -/
abbrev CellRow := List (List Char)

namespace CellRow

/-- A cell with nothing to be seen in it. -/
def blankCell : List Char := [' ']

/-- A row with nothing to be seen in it. -/
def blank (room : Nat) : CellRow := List.replicate room blankCell

/-- The edge of a box. -/
def edge (room : Nat) : CellRow := List.replicate room ['─']

/-- Clears the cells that a grapheme at `x` covers, which takes `w` cells. -/
def cover (x w : Nat) (row : CellRow) : CellRow :=
  (List.range (w - 1)).foldl (fun row k => row.set (x + 1 + k) blankCell) row

/-- Paints graphemes from the cell `x` on; the run they belong to starts at `start`. What takes no room,
    and what comes after such graphemes at the start, goes to the cell before. The first grapheme for
    which there is no room, and all after it, are left out. -/
def paintFrom (start : Nat) : Nat → List (List Char) → CellRow → CellRow
  | _, [], row => row
  | x, g :: more, row =>
    let w := Screen.width g
    if row.length < x + w then row
    else
      let row :=
        if x = start || w = 0 then row.modify (max start (x - 1)) (· ++ g) else row.set x g
      paintFrom start (x + w) more (cover x w row)

/-- Paints a run of text that starts at a cell. -/
def paintRun (start : Nat) (run : List Char) (row : CellRow) : CellRow :=
  match Grapheme.split run with
  | [] => row
  | g :: more =>
    let w := Screen.width g
    if row.length < start + w then row
    else paintFrom start (start + w) more (cover start w (row.set start g))

/-- Paints the runs of a line one after another. A run that takes no room is left out. -/
def paintRuns : Nat → List (List Char) → CellRow → CellRow
  | _, [], row => row
  | start, run :: runs, row =>
    let w := Screen.width run
    if w = 0 then paintRuns start runs row
    else if row.length ≤ start then row
    else paintRuns (start + w) runs (paintRun start run row)

/-- The cells for the graphemes of a line, of which some columns are taken already. A grapheme that is
    wider than all the room is left out, and so is one that takes no room; the line ends before the
    first one for which there is no room left. -/
def cellsFrom (room : Nat) : Nat → List (List Char) → CellRow
  | _, [] => []
  | taken, g :: more =>
    let w := Screen.width g
    if room < w then cellsFrom room taken more
    else if room < taken + w then []
    else if w = 0 then cellsFrom room taken more
    else g :: blank (w - 1) ++ cellsFrom room (taken + w) more

/-- A row with the beginning of a line, as much of it as there is room for. -/
def ofLine (room : Nat) (line : List Char) : CellRow :=
  let cells := cellsFrom room 0 (Grapheme.split line)
  cells ++ blank (room - cells.length)

/-! ## 3. What can be seen -/

/-- What can be seen where a row is put over another one, the cell before the first being wide or not:
    the cell after a wide one keeps what was in it. -/
def overlayFrom (afterWide : Bool) : CellRow → CellRow → CellRow
  | _, [] => []
  | old, cell :: row =>
    (if afterWide then old.headD blankCell else cell) ::
      overlayFrom (decide (2 ≤ Screen.width cell)) old.tail row

/-- What can be seen where a row is put over another one. -/
def overlay (row old : CellRow) : CellRow := overlayFrom false old row

/-- What a row says, without the blanks at its end. -/
def text (row : CellRow) : String :=
  String.ofList (row.flatten.reverse.dropWhile (· == ' ')).reverse

end CellRow

end MediaIndex
