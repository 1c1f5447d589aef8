import MediaIndex.Browser.State
import MediaIndex.RowText
import MediaIndex.Text.CellRow

/-!
# Frames

What a browser puts on a screen: a box with the query, a box with the rows, and a status line. Drawing
changes nothing but the place of the first row that is shown, and that only to show the selected row.
A frame is drawn over the one before it, of which a cell can stay that a wide grapheme covers.
-/

namespace MediaIndex

/-! ## 1. Frames -/

/-- The size of a screen. -/
structure ScreenSize where
  width : Nat
  height : Nat
deriving DecidableEq, Repr

namespace ScreenSize

/-- The columns between the margins, where the status line stands. -/
def room (s : ScreenSize) : Nat := s.width - 2

/-- The columns inside a box. -/
def boxRoom (s : ScreenSize) : Nat := s.width - 4

/-- The lines inside the box with the rows. -/
def listHeight (s : ScreenSize) : Nat := s.height - 9

end ScreenSize

/-- A line in the box with the rows. -/
structure FrameLine where
  cells : CellRow
  /-- It belongs to the selected row. -/
  selected : Bool
  /-- It belongs to the summary, and is shown in italics. -/
  summary : Bool
deriving DecidableEq, Repr, Inhabited

/-- What the line says. -/
def FrameLine.text (line : FrameLine) : String := line.cells.text

/-- What is on the screen. -/
structure Frame where
  /-- What can be seen of the query. -/
  filter : CellRow := []
  /-- The column and line of the cursor. -/
  cursor : Nat × Nat := (0, 0)
  /-- The heading of the box with the rows. -/
  title : CellRow := []
  /-- The lines in that box. -/
  lines : List FrameLine := []
  status : CellRow := []
deriving DecidableEq, Repr, Inhabited

namespace Frame

/-- A screen on which nothing has been drawn. -/
def blank : Frame := {}

/-- The cells of a line in the box with the rows. -/
def lineCells (f : Frame) (place : Nat) : CellRow := (f.lines[place]?).elim [] FrameLine.cells

/-- What can be seen of a frame that is drawn over another one. -/
def overlay (f old : Frame) : Frame where
  filter := f.filter.overlay old.filter
  cursor := f.cursor
  title := f.title.overlay old.title
  lines := f.lines.zipIdx.map fun (line, place) =>
    { line with cells := line.cells.overlay (old.lineCells place) }
  status := f.status.overlay old.status

end Frame

/-- A row that is to be shown, as the lines it takes. -/
structure RowBlock where
  lines : List (List Char)
  selected : Bool
  summary : Bool
deriving DecidableEq, Repr

/-- The blocks at the front that fit in a height together. -/
def fitBlocks (height : Nat) : List RowBlock → List RowBlock
  | [] => []
  | block :: blocks =>
    if block.lines.length ≤ height then block :: fitBlocks (height - block.lines.length) blocks else []

/-- The lines of a block, in so many columns. Where there are none, there are no lines. -/
def RowBlock.frameLines (room : Nat) (block : RowBlock) : List FrameLine :=
  if room = 0 then []
  else block.lines.map fun line =>
    ⟨CellRow.paintRuns 0 [line] (CellRow.blank room), block.selected, block.summary⟩

namespace Browser

/-! ## 2. Parts of a frame -/

/-- The first line of a text, in so many columns. -/
def firstLine (room : Nat) (text : String) : CellRow :=
  CellRow.ofLine room ((textLines text).headD [])

/-- A heading in the upper edge of a box that has so many columns. -/
def heading (room : Nat) (text : String) : CellRow :=
  let runs := textLines text
  let edge := CellRow.edge room
  let taken := runs.foldl (fun taken run => taken + Screen.width run) 0
  CellRow.paintRuns 0 runs (edge.take taken) ++ edge.drop taken

/-- The browser scrolled so that the selected row is within so many lines. -/
def scrollFor (b : Browser) (height : Nat) : Browser :=
  if b.scroll + height ≤ b.selected then { b with scroll := b.selected + 1 - height } else b

/-- The results that have a place on the screen, each with its place among all. -/
def shownResults (b : Browser) (height : Nat) : List (NodeRef × Nat) :=
  ((b.results.drop b.scroll).take height).zipIdx b.scroll

/-- A result as a block of lines; none if its row is gone. -/
def block? (b : Browser) (ref : NodeRef) (place : Nat) : Option RowBlock := do
  let row ← b.index.nodeAtRow (← b.index.rowOf ref)
  pure {
    lines := textLines (b.index.rowLine row)
    selected := place == b.selected
    summary := row.ref == .summary }

/-- The blocks that are shown. -/
def blocks (b : Browser) (height : Nat) : List RowBlock :=
  fitBlocks height ((b.shownResults height).filterMap fun (ref, place) => b.block? ref place)

/-- The heading: the columns, the number of results and the time it took to find them. -/
def title (b : Browser) (took : String) : String :=
  let names := " / ".intercalate (b.index.layout.columns.map Column.name)
  s!" {names} ({b.results.length} shown, filtered in {took}) "

/-- What the status line says. -/
def statusText (b : Browser) : String :=
  match b.status with
  | some text => text
  | none =>
    let phase := if b.index.isIdle then "" else " (grouping)"
    s!"Index: {b.index.size} groups, {b.index.itemCount} items{phase} | " ++
      "↑↓:Navigate Enter:Members F5:Reload Ctrl+S:Summary Ctrl+R:Hide column Ctrl+D:Remove Esc:Quit"

/-! ## 3. Drawing -/

/-- What is on a screen of a size. -/
def frame (b : Browser) (size : ScreenSize) (took : String) : Frame where
  filter := firstLine size.boxRoom b.query
  cursor := (b.query.length + 2, 2)
  title := heading size.boxRoom (b.title took)
  lines := (b.blocks size.listHeight).flatMap (·.frameLines size.boxRoom)
  status := firstLine size.room b.statusText

/-- Draws on a screen that shows `old`. -/
def draw (b : Browser) (old : Frame) (size : ScreenSize) (took : String) : Frame × Browser :=
  let b := b.scrollFor size.listHeight
  ((b.frame size took).overlay old, b)

end Browser

end MediaIndex
