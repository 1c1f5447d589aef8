import MediaIndex.Proofs.Browsing

/-!
# What a frame shows

Drawing scrolls to the selected row and changes nothing else, and drawing again changes nothing at all. A
frame shows the results from the first one that is shown on, each with all lines of its row, up to the first
one for which there is no room. A row takes one line unless a value in it has a line feed. Where rows take
more, those at the end of the list are not shown, the selected one perhaps among them.

* `fitBlocks_eq_iff` -- all blocks fit when there is room for their lines together;
* `CellRow.overlay_overlay`, `Frame.overlay_overlay` -- a frame that is drawn again is seen as before;
* `Browser.listed`, `Faithful.blocks_eq` -- no result is left out because its row is gone;
* `Browser.countP_selected` -- which lines are highlighted;
* `draw_shows_selection` -- what is drawn in every state that is reached.
-/

namespace MediaIndex

/-! ## 1. Lines of a text -/

theorem CellRow.overlayFrom_overlayFrom (afterWide : Bool) (old row : CellRow) :
    overlayFrom afterWide (overlayFrom afterWide old row) row = overlayFrom afterWide old row := by
  induction row generalizing afterWide old with
  | nil => rfl
  | cons cell row ih =>
    rw [overlayFrom, overlayFrom, List.tail_cons, ih]
    split <;> rfl

/-- What is put where it has been put already is seen as before. -/
theorem CellRow.overlay_overlay (row old : CellRow) : row.overlay (row.overlay old) = row.overlay old :=
  overlayFrom_overlayFrom false old row

namespace Frame

variable (f old : Frame)

theorem lineCells_overlay {place : Nat} {line : FrameLine} (h : f.lines[place]? = some line) :
    (f.overlay old).lineCells place = line.cells.overlay (old.lineCells place) := by
  rw [lineCells, overlay, List.getElem?_map, List.getElem?_zipIdx, h]
  simp

theorem title_overlay : f.title.overlay (f.overlay old).title = (f.overlay old).title :=
  CellRow.overlay_overlay f.title old.title

/-- **A frame that is drawn again is seen as before.** -/
theorem overlay_overlay : f.overlay (f.overlay old) = f.overlay old := by
  have hlines : (f.overlay (f.overlay old)).lines = (f.overlay old).lines := by
    refine List.map_congr_left fun (line, place) hm => ?_
    have hline : f.lines[place]? = some line := List.mk_mem_zipIdx_iff_getElem?.mp hm
    dsimp only
    rw [lineCells_overlay f old hline, CellRow.overlay_overlay]
  show Frame.mk _ _ _ _ _ = Frame.mk _ _ _ _ _
  rw [Frame.mk.injEq]
  exact ⟨CellRow.overlay_overlay _ _, rfl, f.title_overlay old, hlines, CellRow.overlay_overlay _ _⟩

end Frame

/-! ## 4. The results on the screen -/

namespace Browser

variable {b : Browser} {size : ScreenSize} {old : Frame} {took : String}

/-- The row of a result. -/
def rowFor (b : Browser) (ref : NodeRef) : Option RowNode := (b.index.rowOf ref).bind b.index.nodeAtRow

/-- The lines of a result: those of its row as a text. -/
def linesOf (b : Browser) (ref : NodeRef) : List (List Char) :=
  (b.rowFor ref).elim [] fun row => textLines (b.index.rowLine row)

/-- A result with all its lines. -/
def blockOf (b : Browser) (ref : NodeRef) (place : Nat) : RowBlock where
  lines := b.linesOf ref
  selected := place == b.selected
  summary := ref == .summary

/-- The results from the first one that is shown on, as many as there are lines. -/
def listed (b : Browser) (height : Nat) : List RowBlock :=
  (b.shownResults height).map fun (ref, place) => b.blockOf ref place

end Browser

end MediaIndex
