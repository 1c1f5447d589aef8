import MediaIndex.Browser.Input
import MediaIndex.Proofs.Browser.Rows

/-!
# What a browser shows

Whatever keys are pressed, however often the library is loaded anew, and whenever the worker gets on
with its jobs, a browser lists the rows that the typed query keeps of the index as it is now, and one
of them is selected.

* `Browser.Happening`, `Browser.run` -- what can happen to a browser;
* `Browser.Kept` -- the invariant, and `kept_refilter` -- finding the rows anew establishes it;
* `Kept.removeSelected`, `Kept.reload`, `Kept.tickAlong` and others -- what can happen keeps it;
* `Kept.happen`, `Kept.run` -- one happening, and all of them;
* `results_keep_up` -- from every library that is loaded.
-/

namespace MediaIndex.Browser

/-! ## 1. What can happen -/

/-- The browser over an index that the worker has brought so far, `applied` of its jobs having been taken
    in. -/
def takenIn (b : Browser) (applied : Nat) (index : Index) : Browser :=
  if applied = 0 then b.withIndex index
  else { b.withIndex index with
    status := if index.isIdle && b.status == some reloadingStatus then none else b.status }.refilter

/-- Takes in what is finished while the worker goes on, in any order of the two. -/
def tickAlong (b : Browser) (moves : List Step) : Except Fault Browser := do
  pure (b.takenIn (b.index.deliveries moves).length (← b.index.run moves))

/-- Something that happens to a browser. -/
inductive Happening where
  /-- A key is pressed, or something else is reported; the library file holds `content`. -/
  | input (content : FileContent) (input : Input)
  /-- The worker runs as far as it can, and what it has finished is taken in. -/
  | tick (gate : Worker.Gate)
  /-- The worker goes on, and jobs are taken in, in any order of the two. -/
  | tickAlong (moves : List Step) (internal : ∀ s ∈ moves, s.isInternal = true)
  /-- A frame is drawn over another one, on a screen of 20 lines at least. -/
  | draw (old : Frame) (size : ScreenSize) (took : String) (high : 20 ≤ size.height)

/-- The browser after something has happened. -/
def happen (b : Browser) : Happening → Except Fault Browser
  | .input content input => b.handle content input
  | .tick gate => b.tick gate
  | .tickAlong moves _ => b.tickAlong moves
  | .draw old size took _ => pure (b.draw old size took).2

/-- The browser after some things have happened, one after another. -/
def run (b : Browser) (happenings : List Happening) : Except Fault Browser := happenings.foldlM happen b

/-! ## 2. The invariant -/

/-- The results are the rows that the query keeps now, one of them is selected, if there are any, and it is
    not above the first row that is shown. -/
structure Kept (b : Browser) : Prop where
  index : b.index.Browsable
  results_eq : b.results = rowsOf b.index b.query
  selected : b.selected = 0 ∨ b.selected < b.results.length
  scroll_le : b.scroll ≤ b.selected

variable {b b' : Browser}

theorem Kept.congr (h : b.Kept) (hi : b'.index = b.index) (hq : b'.query = b.query)
    (hr : b'.results = b.results) (hs : b'.selected = b.selected) (hscroll : b'.scroll = b.scroll) :
    b'.Kept where
  index := hi ▸ h.index
  results_eq := by rw [hr, hi, hq, h.results_eq]
  selected := by
    rw [hs, hr]
    exact h.selected
  scroll_le := by
    rw [hscroll, hs]
    exact h.scroll_le

/-- Over an index that lists the same rows the results stay what they are. -/
theorem Kept.withIndex (h : b.Kept) {index : Index} (hi : index.Browsable)
    (hr : rowsOf index b.query = rowsOf b.index b.query) : (b.withIndex index).Kept where
  index := hi
  results_eq := h.results_eq.trans hr.symm
  selected := h.selected
  scroll_le := h.scroll_le

/-- Without results the first place is the selected one. -/
theorem Kept.selected_eq_zero (h : b.Kept) (hr : b.results = []) : b.selected = 0 := by
  refine h.selected.elim id fun hlt => ?_
  rw [hr] at hlt
  exact absurd hlt (Nat.not_lt_zero _)

/-! ## 3. Selection -/

theorem scroll_ensureVisible_le (b : Browser) : b.ensureVisible.scroll ≤ b.ensureVisible.selected := by
  unfold ensureVisible
  split
  · exact Nat.le_refl _
  · split
    · show b.selected + 1 - assumedHeight ≤ b.selected
      unfold assumedHeight
      omega
    · omega

theorem ensureVisible_eq (b : Browser) : ∃ scroll, b.ensureVisible = { b with scroll } := by
  unfold ensureVisible
  split
  · exact ⟨_, rfl⟩
  · split
    · exact ⟨_, rfl⟩
    · exact ⟨_, rfl⟩

/-- **A place among the results can be selected.** -/
theorem Kept.select (h : b.Kept) {i : Nat} (hi : i = 0 ∨ i < b.results.length) : (b.select i).Kept := by
  have hscroll : (b.select i).scroll ≤ (b.select i).selected := scroll_ensureVisible_le _
  obtain ⟨scroll, e⟩ := ensureVisible_eq { b with selected := i }
  rw [Browser.select, e] at hscroll ⊢
  exact ⟨h.index, h.results_eq, hi, hscroll⟩

/-- Every place up to the last one is a place among the results. -/
theorem le_lastPlace {i : Nat} (hi : i ≤ b.lastPlace) : i = 0 ∨ i < b.results.length := by
  unfold lastPlace at hi
  omega

theorem Kept.up (h : b.Kept) : b.up.Kept := by
  unfold Browser.up
  split
  · exact h
  · refine h.select (h.selected.elim (fun hz => Or.inl ?_) fun hlt => Or.inr ?_)
    · rw [hz]
    · exact Nat.lt_of_le_of_lt (Nat.sub_le _ _) hlt

theorem Kept.down (h : b.Kept) : b.down.Kept := by
  unfold Browser.down
  split
  · exact h.select (Or.inr ‹_›)
  · exact h

theorem Kept.pageUp (h : b.Kept) (n : Nat) : (b.pageUp n).Kept := by
  refine h.select (h.selected.elim (fun hz => Or.inl ?_) fun hlt => Or.inr ?_)
  · rw [hz, Nat.zero_sub]
  · exact Nat.lt_of_le_of_lt (Nat.sub_le _ _) hlt

theorem Kept.pageDown (h : b.Kept) (n : Nat) : (b.pageDown n).Kept :=
  h.select (le_lastPlace (Nat.min_le_right _ _))

theorem Kept.home (h : b.Kept) : b.home.Kept := ⟨h.index, h.results_eq, Or.inl rfl, Nat.le_refl 0⟩

theorem Kept.toEnd (h : b.Kept) : b.toEnd.Kept := by
  unfold Browser.toEnd
  split
  · exact h
  · exact h.select (le_lastPlace (Nat.le_refl _))

/-- A frame of some height scrolls no further than to the selected row. -/
theorem Kept.scrollFor (h : b.Kept) {height : Nat} (hh : 0 < height) : (b.scrollFor height).Kept := by
  unfold Browser.scrollFor
  split
  · refine ⟨h.index, h.results_eq, h.selected, ?_⟩
    show b.selected + 1 - height ≤ b.selected
    omega
  · exact h

/-! ## 4. Finding the rows anew -/

/-- **Finding the rows anew establishes the invariant**; a query that cannot be read keeps no row, so the
    first place must have been selected before. -/
theorem kept_refilter (hi : b.index.Browsable) (hs : b.scroll ≤ b.selected)
    (hu : ∀ e, NodeQuery.parse b.query = .error e → b.selected = 0) : b.refilter.Kept := by
  unfold refilter
  split
  · rename_i e hparse
    exact ⟨hi, (rowsOf_of_error hparse).symm, Or.inl (hu e hparse), hs⟩
  · rename_i q hparse
    let found : Browser := { b with results := rowsFor b.index q }
    let place := min b.selected found.lastPlace
    have hscroll : (found.select place).scroll ≤ (found.select place).selected := scroll_ensureVisible_le _
    have hplace : place = 0 ∨ place < found.results.length := le_lastPlace (Nat.min_le_right _ _)
    obtain ⟨scroll, e⟩ := ensureVisible_eq { found with selected := place }
    show (found.select place).Kept
    rw [select, e] at hscroll ⊢
    exact ⟨hi, (rowsOf_of_ok hparse).symm, hplace, hscroll⟩

/-- Over another index the rows are found anew from the place that is selected. -/
theorem Kept.refilter (h : b.Kept) (hi : b'.index.Browsable) (hq : b'.query = b.query)
    (hs : b'.selected = b.selected) (hscroll : b'.scroll = b.scroll) : b'.refilter.Kept := by
  refine kept_refilter hi ?_ fun e he => ?_
  · rw [hscroll, hs]
    exact h.scroll_le
  · rw [hq] at he
    rw [hs]
    exact h.selected_eq_zero (h.results_eq.trans (rowsOf_of_error he))

theorem Kept.withQuery (h : b.Kept) (query : String) : (b.withQuery query).Kept :=
  kept_refilter h.index (Nat.le_refl 0) fun _ _ => rfl

/-! ## 5. What is asked of the index -/

theorem Kept.removeSelected (h : b.Kept) : ∃ b', b.removeSelected = .ok b' ∧ b'.Kept := by
  unfold Browser.removeSelected
  split
  · rename_i key _
    have hnext (ids : List ItemId) : (b.index.after (.remove ids)).Browsable :=
      h.index.after fun _ e => nomatch e
    dsimp only
    rw [Index.remove_eq h.index.orderly.quiet]
    exact ⟨_, rfl, h.refilter (hnext _) rfl rfl rfl⟩
  · exact ⟨b, rfl, h⟩

theorem Kept.toggleSummary (h : b.Kept) : ∃ b', b.toggleSummary = .ok b' ∧ b'.Kept := by
  let shown := !b.index.showSummary
  have hnext : (b.index.after (.setSummaryShown shown)).Browsable := h.index.after fun _ e => nomatch e
  have hset : b.index.setSummaryShown shown = _ := Index.setSummaryShown_eq h.index.orderly.quiet shown
  refine ⟨(b.withIndex (b.index.after (.setSummaryShown shown))).refilter, ?_,
    h.refilter hnext rfl rfl rfl⟩
  rw [Browser.toggleSummary, hset]
  rfl

/-- The last column is hidden only when there is another one. -/
theorem Kept.hideLastColumn (h : b.Kept) : ∃ b', b.hideLastColumn = .ok b' ∧ b'.Kept := by
  unfold Browser.hideLastColumn
  dsimp only
  split
  · exact ⟨b, rfl, h⟩
  · rename_i hmany
    let last := b.index.layout.columns.length - 1
    have hnext : (b.index.after (.hideColumn last)).Browsable := h.index.after fun _ _ e => by omega
    have hhide : b.index.hideColumn last = _ := Index.hideColumn_eq h.index.orderly.quiet last
    have hsome : b.index.layout.columns[last]?.isSome = true := by
      rw [List.getElem?_eq_getElem (by omega)]
      rfl
    rw [hhide, hsome]
    exact ⟨_, rfl, h.refilter hnext rfl rfl rfl⟩

/-- **A reload is asked for without finding the rows anew**, for the rows stay as they are until the
    library has been grouped. -/
theorem Kept.reload (h : b.Kept) (content : FileContent) : ∃ b', b.reload content = .ok b' ∧ b'.Kept := by
  unfold Browser.reload
  split
  · exact ⟨_, rfl, h.congr rfl rfl rfl rfl rfl⟩
  · rename_i items _
    have hnext : (b.index.after (.fullReload items)).Browsable := h.index.after fun _ e => nomatch e
    have hrows : rowsOf (b.index.after (.fullReload items)) b.query = rowsOf b.index b.query :=
      rowsOf_fullReload h.index.orderly h.index.headed items
    obtain ⟨ticket, hreset⟩ := Index.reset_eq h.index.orderly.quiet
      (b.index.pendingColumns.getD b.index.layout.columns) items
    have hreload : b.index.fullReload items = .ok (ticket, b.index.after (.fullReload items)) := hreset
    rw [hreload]
    exact ⟨_, rfl, (h.withIndex hnext hrows).congr rfl rfl rfl rfl rfl⟩

/-- **Taking in jobs finds the rows anew, or there was none to take in** and the rows are the same. -/
theorem Kept.takenIn (h : b.Kept) {moves : List Step} (hm : ∀ s ∈ moves, s.isInternal = true) :
    (b.takenIn (b.index.deliveries moves).length (moves.foldl Index.after b.index)).Kept := by
  have hnext : (moves.foldl Index.after b.index).Browsable := h.index.foldl_after hm
  unfold Browser.takenIn
  split
  · rename_i hnone
    exact h.withIndex hnext (rowsOf_of_no_deliveries hm (List.length_eq_zero_iff.mp hnone))
  · exact h.refilter hnext rfl rfl rfl

theorem Kept.tickAlong (h : b.Kept) {moves : List Step} (hm : ∀ s ∈ moves, s.isInternal = true) :
    ∃ b', b.tickAlong moves = .ok b' ∧ b'.Kept := by
  refine ⟨_, ?_, h.takenIn hm⟩
  rw [Browser.tickAlong, Index.run_eq h.index.orderly.quiet]
  rfl

/-- A tick takes in jobs as they are finished. -/
theorem tick_eq (hq : b.index.Quiet) (gate : Worker.Gate) : ∃ moves : List Step,
    (∀ s ∈ moves, s.isInternal = true) ∧ b.tick gate = b.tickAlong moves := by
  obtain ⟨moves, hm, hpoll⟩ := Index.poll_eq hq gate
  refine ⟨moves, hm, ?_⟩
  rw [tick, hpoll, Browser.tickAlong, Index.run_eq hq]
  show (if (b.index.deliveries moves).length = 0 then _ else _) = Except.ok (b.takenIn _ _)
  unfold Browser.takenIn
  split
  · rfl
  · rfl

theorem Kept.tick (h : b.Kept) (gate : Worker.Gate) : ∃ b', b.tick gate = .ok b' ∧ b'.Kept := by
  obtain ⟨moves, hm, e⟩ := tick_eq h.index.orderly.quiet gate
  rw [e]
  exact h.tickAlong hm

/-! ## 6. Everything that can happen -/

theorem Kept.controlled (h : b.Kept) (c : Char) : ∃ b', b.controlled c = .ok b' ∧ b'.Kept := by
  unfold Browser.controlled
  split
  · exact ⟨_, rfl, h.congr rfl rfl rfl rfl rfl⟩
  · exact h.toggleSummary
  · exact h.hideLastColumn
  · exact h.removeSelected
  · exact ⟨b, rfl, h⟩

theorem Kept.press (h : b.Kept) (content : FileContent) (key : KeyCode) (control : Bool) :
    ∃ b', b.press content key control = .ok b' ∧ b'.Kept := by
  have hstays {b' : Browser} (h' : b'.Kept) :
      ∃ b'', (pure b' : Except Fault Browser) = .ok b'' ∧ b''.Kept := ⟨b', rfl, h'⟩
  cases key with
  | char c =>
    cases control with
    | true => exact h.controlled c
    | false => exact hstays (h.withQuery _)
  | up => exact hstays h.up
  | down => exact hstays h.down
  | pageUp => exact hstays (h.pageUp pageLength)
  | pageDown => exact hstays (h.pageDown pageLength)
  | home => exact hstays h.home
  | toEnd => exact hstays h.toEnd
  | enter => exact hstays (h.congr rfl rfl rfl rfl rfl)
  | backspace => exact hstays (h.withQuery _)
  | escape => exact hstays (h.congr rfl rfl rfl rfl rfl)
  | function n =>
    show ∃ b', (if n = 5 then b.reload content else pure b) = .ok b' ∧ b'.Kept
    split
    · exact h.reload content
    · exact hstays h
  | other => exact hstays h

/-- **Whatever happens, it is not refused and the invariant is kept.** -/
theorem Kept.happen (h : b.Kept) (happening : Happening) :
    ∃ b', b.happen happening = .ok b' ∧ b'.Kept := by
  cases happening with
  | input content input =>
    cases input with
    | press key control => exact h.press content key control
    | ignored => exact ⟨b, rfl, h⟩
  | tick gate => exact h.tick gate
  | tickAlong moves internal => exact h.tickAlong internal
  | draw old size took high =>
    have hheight : 0 < size.listHeight := by
      unfold ScreenSize.listHeight
      omega
    exact ⟨_, rfl, h.scrollFor hheight⟩

theorem Kept.run (h : b.Kept) (happenings : List Happening) :
    ∃ b', b.run happenings = .ok b' ∧ b'.Kept := by
  induction happenings generalizing b with
  | nil => exact ⟨b, rfl, h⟩
  | cons happening happenings ih =>
    obtain ⟨next, hnext, hkept⟩ := h.happen happening
    obtain ⟨b', hb', hkept'⟩ := ih hkept
    refine ⟨b', ?_, hkept'⟩
    rw [Browser.run, List.foldlM_cons, hnext]
    exact hb'

/-! ## 7. From a library on -/

/-- Loading a library is not refused. -/
theorem exists_load (settings : Settings) (items : List Item) : ∃ session : Session,
    (Session.ofSettings settings).load items = .ok session ∧ session.index.Browsable := by
  have hstart : settings.index.Browsable := Index.browsable_ofOptions _ _
  have hasked : (settings.index.after (.reset settings.columns items)).Browsable :=
    hstart.after fun _ e => nomatch e
  obtain ⟨ticket, hreset⟩ := Index.reset_eq hstart.orderly.quiet settings.columns items
  obtain ⟨moves, hm, hpoll⟩ := Index.poll_eq hasked.orderly.quiet .open
  let loaded := moves.foldl Index.after (settings.index.after (.reset settings.columns items))
  have hload : (settings.index.after (.reset settings.columns items)).wait =
      .ok (loaded.outstanding == 0, loaded) := by
    rw [Index.wait, hpoll]
    rfl
  have hrequest : (Session.ofSettings settings).request items = .ok { Session.ofSettings settings with
      index := settings.index.after (.reset settings.columns items), items := Session.catalogue items } := by
    show (settings.index.reset settings.columns items >>= _) = _
    rw [hreset]
    rfl
  refine ⟨{ Session.ofSettings settings with index := loaded, items := Session.catalogue items }, ?_,
    hasked.foldl_after hm⟩
  rw [Session.load, hrequest]
  show ((settings.index.after (.reset settings.columns items)).wait >>= _) = _
  rw [hload]
  rfl

/-- From a loaded library on nothing is refused, and the invariant holds. -/
theorem exists_kept (settings : Settings) (items : List Item) (library : String)
    (happenings : List Happening) : ∃ session b, (Session.ofSettings settings).load items = .ok session ∧
      (ofSession session library).run happenings = .ok b ∧ b.Kept := by
  obtain ⟨session, hload, hindex⟩ := exists_load settings items
  have hstart : (ofSession session library).Kept := kept_refilter hindex (Nat.le_refl 0) fun _ _ => rfl
  obtain ⟨b, hrun, hkept⟩ := hstart.run happenings
  exact ⟨session, b, hload, hrun, hkept⟩

end MediaIndex.Browser
