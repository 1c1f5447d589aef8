import MediaIndex.Proofs.Browsing

/-!
# How a reload is told to be over

A reload is told of in the status line, and a tick that takes in the last job takes the message away. So a
message that stands for a job which is outstanding goes. A reload of a library without items, while the
index is empty and idle, is carried out at once: there is no job, and the message stays.

* `Browser.Announced` -- the message stands for a job;
* `Announced.happen`, `Announced.run` -- what can happen keeps it so, but for a reload that is carried out at
  once;
* `announced_reload` -- any other reload makes it so;
* `reload_reports_end_iff` -- which reloads are told to be over.
-/

namespace MediaIndex.Browser

variable {b b' : Browser} {content : FileContent} {items : List Item}

/-! ## 1. The message -/

/-- While the status tells of a reload, something is outstanding. -/
def Announced (b : Browser) : Prop := b.status = some reloadingStatus → b.index.isIdle = false

theorem Announced.congr (h : b.Announced) (hs : b'.status = b.status) (hi : b'.index.phase = b.index.phase) :
    b'.Announced := fun e => by
  have hidle : b'.index.isIdle = b.index.isIdle := congrArg (· == Phase.idle) hi
  exact hidle.trans (h (hs.symm.trans e))

/-- Every other message has a blank in it. -/
theorem announced_of_blank {s : String} (hs : b.status = some s) (hblank : ' ' ∈ s.toList) : b.Announced := by
  intro e
  have hnone : ' ' ∉ reloadingStatus.toList := by decide
  exact absurd (Option.some.inj (hs.symm.trans e) ▸ hblank) hnone

theorem announced_of_none (hs : b.status = none) : b.Announced := fun e => nomatch hs.symm.trans e

/-- Finding the rows anew touches the message only to say that the query cannot be read. -/
theorem Announced.refilter (h : b.Announced) : b.refilter.Announced := by
  unfold Browser.refilter
  split
  · exact announced_of_blank rfl (by simp)
  · rename_i q _
    let found : Browser := { b with results := rowsFor b.index q }
    obtain ⟨scroll, e⟩ := ensureVisible_eq { found with selected := min b.selected found.lastPlace }
    show (found.select (min b.selected found.lastPlace)).Announced
    rw [select, e]
    exact h.congr rfl rfl

theorem announced_withQuery (b : Browser) (query : String) : (b.withQuery query).Announced :=
  Announced.refilter (announced_of_none rfl)

theorem Announced.select (h : b.Announced) (i : Nat) : (b.select i).Announced := by
  obtain ⟨scroll, e⟩ := ensureVisible_eq { b with selected := i }
  rw [Browser.select, e]
  exact h.congr rfl rfl

theorem Announced.up (h : b.Announced) : b.up.Announced := by
  unfold Browser.up
  split
  · exact h
  · exact h.select _

theorem Announced.down (h : b.Announced) : b.down.Announced := by
  unfold Browser.down
  split
  · exact h.select _
  · exact h

theorem Announced.home (h : b.Announced) : b.home.Announced := h.congr rfl rfl

theorem Announced.toEnd (h : b.Announced) : b.toEnd.Announced := by
  unfold Browser.toEnd
  split
  · exact h
  · exact h.select _

theorem Announced.quit (h : b.Announced) : b.quit.Announced := h.congr rfl rfl

/-! ## 2. What happens to it -/

theorem announced_openSelected (b : Browser) : b.openSelected.Announced := by
  intro e
  obtain ⟨ref, -, href⟩ := Option.bind_eq_some_iff.mp e
  have hblank : ' ' ∈ reloadingStatus.toList := by
    cases ref with
    | summary =>
      rw [← Option.some.inj href]
      simp [toString]
    | group key =>
      obtain ⟨members, -, hstatus⟩ := Option.map_eq_some_iff.mp href
      rw [← hstatus]
      simp
  exact absurd hblank (by decide)

/-- Removing says so, or there is nothing to remove. -/
theorem Announced.removeSelected (h : b.Announced) (hq : b.index.Quiet) (hb : b.removeSelected = .ok b') :
    b'.Announced := by
  unfold Browser.removeSelected at hb
  split at hb
  · dsimp only at hb
    rw [Index.remove_eq hq] at hb
    rw [← Except.ok.inj hb]
    exact Announced.refilter (announced_of_blank rfl (by simp [toString]))
  · rw [← Except.ok.inj hb]
    exact h

theorem Announced.hideLastColumn (h : b.Announced) (hq : b.index.Quiet) (hb : b.hideLastColumn = .ok b') :
    b'.Announced := by
  unfold Browser.hideLastColumn at hb
  dsimp only at hb
  split at hb
  · rw [← Except.ok.inj hb]
    exact h
  · have hhide : b.index.hideColumn (b.index.layout.columns.length - 1) = _ := Index.hideColumn_eq hq _
    rw [hhide] at hb
    cases hs : b.index.layout.columns[b.index.layout.columns.length - 1]?.isSome with
    | true =>
      rw [hs] at hb
      rw [← Except.ok.inj hb]
      exact Announced.refilter (announced_of_blank rfl (by decide))
    | false =>
      rw [hs] at hb
      rw [← Except.ok.inj hb]
      exact h

theorem phase_summarised (ix : Index) (shown : Bool) : (ix.summarised shown).phase = ix.phase := by
  unfold Index.summarised
  split <;> rfl

theorem Announced.toggleSummary (h : b.Announced) (hq : b.index.Quiet) (hb : b.toggleSummary = .ok b') :
    b'.Announced := by
  have hset : b.index.setSummaryShown (!b.index.showSummary) = _ := Index.setSummaryShown_eq hq _
  rw [Browser.toggleSummary, hset] at hb
  rw [← Except.ok.inj hb]
  refine Announced.refilter (h.congr rfl ?_)
  exact phase_summarised b.index (!b.index.showSummary)

/-- **Taking in the last job takes the message away.** -/
theorem Announced.tickAlong (h : b.Announced) (hq : b.index.Quiet) {moves : List Step}
    (hm : ∀ s ∈ moves, s.isInternal = true) (hb : b.tickAlong moves = .ok b') : b'.Announced := by
  rw [Browser.tickAlong, Index.run_eq hq] at hb
  rw [← Except.ok.inj hb]
  show (Browser.takenIn b _ _).Announced
  unfold Browser.takenIn
  split
  · rename_i hnone
    obtain ⟨worker, e⟩ := Index.foldl_after_of_no_deliveries hm (List.length_eq_zero_iff.mp hnone)
    have hphase : (moves.foldl Index.after b.index).phase = b.index.phase := by rw [e]
    exact h.congr rfl hphase
  · refine Announced.refilter fun e => ?_
    show (moves.foldl Index.after b.index).isIdle = false
    cases hidle : (moves.foldl Index.after b.index).isIdle with
    | false => rfl
    | true =>
      -- idle again, so the message would have been taken away
      have e : (if (true && b.status == some reloadingStatus) = true then none else b.status) =
          some reloadingStatus := hidle ▸ e
      split at e
      · cases e
      · rename_i hother
        rw [e] at hother
        exact absurd rfl hother

theorem Announced.tick (h : b.Announced) (hq : b.index.Quiet) {gate : Worker.Gate} (hb : b.tick gate = .ok b') :
    b'.Announced := by
  obtain ⟨moves, hm, e⟩ := tick_eq hq gate
  exact h.tickAlong hq hm (e ▸ hb)

/-! ## 3. Reloads -/

/-- A reload of the file would be carried out at once: the file has no items, and the index is empty and
    idle. -/
def reloadsAtOnce (b : Browser) (content : FileContent) : Bool :=
  match Session.readLibrary b.library content with
  | .error _ => false
  | .ok items => items.isEmpty && b.index.isEmpty && b.index.isIdle

theorem isBare_eq {ix : Index} (ho : ix.Orderly) (items : List Item) :
    ix.isBare items = (items.isEmpty && ix.isEmpty && ix.isIdle) := by
  have hidle : (ix.outstanding == 0) = ix.isIdle := by
    rw [Bool.eq_iff_iff, beq_iff_eq, Index.isIdle, beq_iff_eq]
    exact ho.idle_iff.symm
  rw [Index.isBare, hidle]
  rfl

/-- A reload that is not carried out at once has a job to wait for. -/
theorem isIdle_rebuilt {ix : Index} (columns : List Column) (hb : ix.isBare items = false) :
    (ix.rebuilt columns items).isIdle = false := by
  unfold Index.rebuilt
  rw [hb, if_neg Bool.false_ne_true]
  show ((if ix.phase = .idle then Phase.awaitingBatch else ix.phase) == .idle) = false
  split
  · rfl
  · rename_i hphase
    exact beq_eq_false_iff_ne.mpr hphase

theorem reload_eq (hq : b.index.Quiet) (hread : Session.readLibrary b.library content = .ok items) :
    b.reload content = .ok { b with
      session := { b.session with
        index := b.index.rebuilt (b.index.pendingColumns.getD b.index.layout.columns) items
        items := Session.catalogue items }
      status := some reloadingStatus } := by
  obtain ⟨ticket, hreset⟩ := Index.reset_eq hq (b.index.pendingColumns.getD b.index.layout.columns) items
  have hreload : b.index.fullReload items = .ok (ticket, _) := hreset
  unfold Browser.reload
  rw [hread]
  dsimp only
  rw [hreload]
  rfl

/-- **A reload that is not carried out at once is announced**, whatever was told of before. -/
theorem announced_reload (ho : b.index.Orderly) (hlater : b.reloadsAtOnce content = false)
    (hb : b.reload content = .ok b') : b'.Announced := by
  unfold reloadsAtOnce at hlater
  split at hlater
  · rename_i e hread
    unfold Browser.reload at hb
    rw [hread] at hb
    rw [← Except.ok.inj hb]
    exact announced_of_blank rfl (by simp)
  · rename_i items hread
    rw [reload_eq ho.quiet hread] at hb
    rw [← Except.ok.inj hb]
    exact fun _ => isIdle_rebuilt _ ((isBare_eq ho items).trans hlater)

/-- While nothing is outstanding a tick lets the worker go on, and that is all. -/
theorem tick_of_idle (ho : b.index.Orderly) (hi : b.index.isIdle = true) (gate : Worker.Gate) :
    b.tick gate = .ok (b.withIndex (b.index.settle gate)) := by
  have hpoll : b.index.poll gate = .ok (0, b.index.settle gate) := by
    rw [Index.poll, ho.idle_iff.mp (eq_of_beq hi)]
    rfl
  rw [tick, hpoll]
  rfl

/-- **A reload that is carried out at once is told of for good**, as far as ticks go. -/
theorem exists_tick_of_reloadsAtOnce (hk : b.Kept) (hnow : b.reloadsAtOnce content = true)
    (hb : b.reload content = .ok b') : ∃ b'', b'.tick .open = .ok b'' ∧ b''.index.isIdle = true ∧
      b''.status = some reloadingStatus := by
  have ho := hk.index.orderly
  obtain ⟨next, hnext, hkept⟩ := hk.reload content
  obtain rfl : next = b' := Except.ok.inj (hnext.symm.trans hb)
  unfold reloadsAtOnce at hnow
  split at hnow
  · cases hnow
  · rename_i items hread
    have hbare : b.index.isBare items = true := (isBare_eq ho items).trans hnow
    rw [reload_eq ho.quiet hread, Index.rebuilt_of_bare hbare] at hb
    have hidle : next.index.isIdle = true := by
      rw [← Except.ok.inj hb]
      exact (Bool.and_eq_true_iff.mp hnow).2
    refine ⟨_, tick_of_idle hkept.index.orderly hidle .open, hidle, ?_⟩
    rw [← Except.ok.inj hb]
    rfl

/-! ## 4. Everything that can happen -/

namespace Happening

/-- Finished jobs are taken in. -/
def isTick : Happening → Bool
  | tick _ | tickAlong _ _ => true
  | _ => false

/-- It is a reload that is carried out at once. -/
def reloadsAtOnce (b : Browser) : Happening → Bool
  | input content (.press (.function 5) _) => b.reloadsAtOnce content
  | _ => false

end Happening

theorem Announced.press (h : b.Announced) (ho : b.index.Orderly) {key : KeyCode} {control : Bool}
    (hlater : (Happening.input content (.press key control)).reloadsAtOnce b = false)
    (hb : b.press content key control = .ok b') : b'.Announced := by
  have hstays {next : Browser} (hn : next.Announced) (hb : (pure next : Except Fault Browser) = .ok b') :
      b'.Announced := Except.ok.inj hb ▸ hn
  cases key with
  | char c =>
    cases control with
    | true =>
      have hb : b.controlled c = .ok b' := hb
      unfold Browser.controlled at hb
      split at hb
      · exact hstays h.quit hb
      · exact h.toggleSummary ho.quiet hb
      · exact h.hideLastColumn ho.quiet hb
      · exact h.removeSelected ho.quiet hb
      · exact hstays h hb
    | false => exact hstays (announced_withQuery b _) hb
  | up => exact hstays h.up hb
  | down => exact hstays h.down hb
  | pageUp => exact hstays (h.select _) hb
  | pageDown => exact hstays (h.select _) hb
  | home => exact hstays h.home hb
  | toEnd => exact hstays h.toEnd hb
  | enter => exact hstays (announced_openSelected b) hb
  | backspace => exact hstays (announced_withQuery b _) hb
  | escape => exact hstays h.quit hb
  | function n =>
    have hb : (if n = 5 then b.reload content else pure b) = .ok b' := hb
    split at hb
    · rename_i hfive
      subst hfive
      exact announced_reload ho hlater hb
    · exact hstays h hb
  | other => exact hstays h hb

/-- **Whatever happens, the message stands for a job**, but for a reload that is carried out at once. -/
theorem Announced.happen (h : b.Announced) (ho : b.index.Orderly) {happening : Happening}
    (hlater : happening.reloadsAtOnce b = false) (hb : b.happen happening = .ok b') : b'.Announced := by
  cases happening with
  | input content input =>
    cases input with
    | press key control => exact h.press ho hlater hb
    | ignored => exact Except.ok.inj hb ▸ h
  | tick gate => exact h.tick ho.quiet hb
  | tickAlong moves internal => exact h.tickAlong ho.quiet internal hb
  | draw old size took high =>
    have hb : (b.scrollFor size.listHeight) = b' := Except.ok.inj hb
    rw [← hb]
    unfold Browser.scrollFor
    split
    · exact h.congr rfl rfl
    · exact h

/-- None of the reloads among some happenings is carried out at once. -/
def Spared (b : Browser) : List Happening → Prop
  | [] => True
  | happening :: rest =>
    happening.reloadsAtOnce b = false ∧ ∀ b', b.happen happening = .ok b' → b'.Spared rest

theorem Announced.run (h : b.Announced) (hk : b.Kept) {happenings : List Happening} (hs : b.Spared happenings)
    (hb : b.run happenings = .ok b') : b'.Announced := by
  induction happenings generalizing b with
  | nil => exact Except.ok.inj hb ▸ h
  | cons happening happenings ih =>
    obtain ⟨hlater, hrest⟩ := hs
    obtain ⟨next, hnext, hkept⟩ := hk.happen happening
    rw [Browser.run, List.foldlM_cons, hnext] at hb
    exact ih (h.happen hk.index.orderly hlater hnext) hkept (hrest next hnext) hb

/-! ## 5. Which reloads are told to be over -/

/-- **Which reloads are told to be over.** After whatever has happened since a library was loaded, and whatever
    the library file holds, a reload is not refused. However things go on without a reload that is carried out
    at once, after a tick at which the index is idle the status no longer tells of the reload, exactly unless
    the reload itself is carried out at once: the file has no items, and the index is empty and idle. -/
theorem reload_reports_end_iff (settings : Settings) (items : List Item) (library : String)
    (earlier : List Happening) (content : FileContent) : ∃ session b b₁,
      (Session.ofSettings settings).load items = .ok session ∧
      (ofSession session library).run earlier = .ok b ∧ b.reload content = .ok b₁ ∧
      ((∀ later last, last.isTick = true → b₁.Spared (later ++ [last]) →
        ∃ b₂, b₁.run (later ++ [last]) = .ok b₂ ∧
          (b₂.index.isIdle = true → b₂.status ≠ some reloadingStatus)) ↔
      b.reloadsAtOnce content = false) := by
  obtain ⟨session, b, hload, hrun, hkept⟩ := exists_kept settings items library earlier
  obtain ⟨b₁, hreload, hkept₁⟩ := hkept.reload content
  refine ⟨session, b, b₁, hload, hrun, hreload, fun hover => ?_, fun hlater later last _ hspared => ?_⟩
  · refine Bool.eq_false_iff.mpr fun hnow => ?_
    obtain ⟨b₂, htick, hidle, hstatus⟩ := exists_tick_of_reloadsAtOnce hkept hnow hreload
    obtain ⟨b₂', hrun', hgone⟩ := hover [] (.tick .open) rfl ⟨rfl, fun _ _ => trivial⟩
    have hrun₂ : b₁.run [.tick .open] = .ok b₂ := by
      rw [Browser.run, List.foldlM_cons]
      show (b₁.tick .open >>= _) = _
      rw [htick]
      rfl
    obtain rfl : b₂ = b₂' := Except.ok.inj (hrun₂.symm.trans hrun')
    exact hgone hidle hstatus
  · have hannounced : b₁.Announced := announced_reload hkept.index.orderly hlater hreload
    obtain ⟨b₂, hrun₂, -⟩ := hkept₁.run (later ++ [last])
    refine ⟨b₂, hrun₂, fun hidle hstatus => ?_⟩
    have hbusy := hannounced.run hkept₁ hspared hrun₂ hstatus
    rw [hidle] at hbusy
    cases hbusy

/-- Where the library is empty, as it was before, a reload is told of also when the index is idle again. -/
theorem reload_of_nothing_stays_told : ∃ session b₁ b₂,
    (Session.ofSettings {}).load [] = .ok session ∧
    (ofSession session "library.json").run [.input (.text "[]") (.press (.function 5) false)] = .ok b₁ ∧
    b₁.tick .open = .ok b₂ ∧ b₂.index.isIdle = true ∧ b₂.status = some reloadingStatus :=
  ⟨_, _, _, rfl, rfl, rfl, rfl, rfl⟩

end MediaIndex.Browser
