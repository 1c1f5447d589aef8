import MediaIndex.Index.Delivery
import MediaIndex.Index.Mutation
import MediaIndex.Proofs.Store.Sound
import MediaIndex.Proofs.Telling

/-!
# What operations come to

Between operations no bracket is open and no batch is being taken in. From such a state no operation
faults, so each comes to a plain function of the index. This file gives the functions and shows that
the operations are equal to them.

* `Quiet` -- the state between operations;
* `detached`, `merged`, `takenIn`, `applied`, `rebuilt` and others -- the outcomes;
* `dispatchSome_induct` -- items are handed over, or there are none;
* `updated_induct` -- an update hands over its items in one part or in two;
* `detach_eq`, `merge_eq`, `apply_eq`, `reset_eq` and others -- the operations have these outcomes.
-/

namespace MediaIndex

/-! ## 1. What is told of the store -/

/-- What is told when items have been taken out; `offset` rows stand above the first group. -/
def Store.Detached.events (d : Store.Detached) (offset : Nat) : List Event :=
  (d.positions.map fun i => Bracket.remove (.single (offset + i))).flatMap Bracket.pair ++
    d.shrunk.map fun key => .changed (.group key) [.members]

/-- What is told when a batch has been taken in; `first` rows were there before. -/
def Store.Merged.events (m : Store.Merged) (first : Nat) : List Event :=
  (if m.created = 0 then [] else (Bracket.insert ⟨first, first + m.created - 1⟩).pair) ++
    m.grown.map fun key => .changed (.group key) [.members]

namespace Index

/-- No operation is under way. -/
structure Quiet (ix : Index) : Prop where
  closed : ix.notifier.current = none
  phase_ne : ix.phase ≠ .applying

/-! ## 2. Outcomes -/

/-- The index after items have been taken out of the store. -/
def detached (ix : Index) (ids : List ItemId) : Index :=
  { ix with
    store := (ix.store.detach ids).store
    notifier := ix.notifier.tell ((ix.store.detach ids).events ix.rowOffset) }

/-- The index after a batch has been taken into the store. -/
def merged (ix : Index) (batch : Batch) : Index :=
  { ix with
    store := (ix.store.merge ix.layout.visible batch).store
    notifier := ix.notifier.tell
      ((ix.store.merge ix.layout.visible batch).events (ix.rowOffset + ix.store.rows.length)) }

/-- The batch of a job without the items that were removed after its submission. -/
def wanted (ix : Index) (job : FinishedJob) : Batch :=
  job.batch.without (ix.isTombstoned · job.ticket)

/-- The index with the batch of a job in place of what it had of the same items. -/
def folded (ix : Index) (job : FinishedJob) (cleared : Bool) : Index :=
  (if cleared then ix else ix.detached (ix.wanted job).requested.toList).merged (ix.wanted job)

/-- The items of a job that were not removed after its submission. -/
def kept (ix : Index) (job : FinishedJob) : List Item :=
  job.items.filter fun item => !ix.isTombstoned item.id job.ticket

/-- The index after the items of a job have been submitted again. -/
def resubmitted (ix : Index) (job : FinishedJob) : Index :=
  if (ix.kept job).isEmpty then ix else (ix.dispatch .add (ix.kept job)).2

/-- The index after a job has been taken in or submitted again. -/
def takenUp (ix : Index) (job : FinishedJob) (cleared : Bool) : Index :=
  if job.columns = ix.layout.keyColumns then ix.folded job cleared else ix.resubmitted job

/-- The index that tells of a reset from now on. -/
def opened (ix : Index) : Index := { ix with notifier := ix.notifier.opened .reset }

/-- The index that has told of a reset. -/
def closed (ix : Index) : Index :=
  { ix with notifier := ix.notifier.closed .reset, resets := ix.resets + 1 }

/-- The index after a job that has not been replaced. -/
def takenIn (ix : Index) (job : FinishedJob) : Index :=
  if ix.resetting then (ix.opened.clear.takenUp job true).refreshSummary.closed
  else (ix.takenUp job false).refreshSummary

/-- The index with a job under way that was outstanding before. -/
def applying (ix : Index) : Index := { ix with outstanding := ix.outstanding - 1, phase := .applying }

/-- The index after a job has been dealt with. -/
def concluded (ix : Index) (job : FinishedJob) : Index :=
  { ix with
    tombstones := ix.tombstones.filter fun _ removedAt => decide (job.ticket < removedAt)
    phase := if ix.outstanding = 0 then .idle else .awaitingBatch
    notifier := ix.notifier.batchApplied job.ticket }

/-- The index with one more batch taken in. -/
def counted (ix : Index) : Index := { ix with batchesApplied := ix.batchesApplied + 1 }

/-- The index after a finished job has been applied. -/
def applied (ix : Index) (job : FinishedJob) : Index :=
  (if ix.replaces job then ix.applying else (ix.applying.takenIn job).counted).concluded job

/-- The index after the first finished job has been applied, if there is one. -/
def delivered (ix : Index) : Index :=
  match ix.worker.next? with
  | none => ix
  | some (job, worker) => { ix with worker }.applied job

/-- A reset has nothing to rebuild. -/
def isBare (ix : Index) (items : List Item) : Bool :=
  items.isEmpty && ix.store.nodes.isEmpty && ix.outstanding == 0

/-- The index with columns to be adopted at the next reset. -/
def adopting (ix : Index) (columns : List Column) : Index :=
  { ix with pendingColumns := some (orUnclassified columns) }

/-- The index after a reset has been asked for and what it can do at once is done. -/
def rebuilt (ix : Index) (columns : List Column) (items : List Item) : Index :=
  if ix.isBare items then (ix.opened.adopting columns).clear.closed
  else
    let asked := { ix.adopting columns with worker := ix.worker.supersede.2, resetting := true }
    { (asked.dispatch .reset items).2 with latestReset := some (asked.dispatch .reset items).1 }

/-- The items of a request that are not yet indexed. -/
def unindexed (ix : Index) (items : List Item) : List Item :=
  if ix.resetting then items else items.filter fun item => !ix.store.indexes item.id

/-- The index after items have been brought. -/
def brought (ix : Index) (items : List Item) : Index := (ix.dispatchSome .add (ix.unindexed items)).2

/-- The index after changed items have been brought. -/
def updated (ix : Index) (items : List Item) : Index :=
  if ix.resetting then (ix.dispatchSome .add items).2
  else
    ((ix.dispatchSome .update (items.filter fun item => ix.store.indexes item.id)).2.dispatchSome .add
      (items.filter fun item => !ix.store.indexes item.id)).2

/-- The index that remembers a removal when jobs are outstanding. -/
def buried (ix : Index) (ids : List ItemId) : Index :=
  { ix with tombstones :=
      if ix.outstanding = 0 then ix.tombstones
      else ids.foldl (fun t id => t.insert id ix.worker.lastTicket) ix.tombstones }

/-- The index after items have been removed. -/
def removed (ix : Index) (ids : List ItemId) : Index :=
  if (ix.store.detach ids).removed = 0 then (ix.buried ids).detached ids
  else ((ix.buried ids).detached ids).refreshSummary

/-- The index with one of its columns no longer shown. -/
def narrowed (ix : Index) (i : Nat) (hidden : Column) : Index :=
  { ix with
    notifier := ix.notifier.tell (Bracket.removeColumns (.single i)).pair
    layout := ix.layout.hide i
    store := ix.store.hideColumn i
    pendingColumns := hidePending ix.pendingColumns hidden }

/-- The index after a column has been hidden. -/
def hidden (ix : Index) (i : Nat) : Index :=
  match ix.layout.columns[i]? with
  | none => ix
  | some column => (ix.narrowed i column).refreshSummary

/-- The bracket that tells of the summary being shown or hidden. -/
def summaryChange (shown : Bool) : Bracket :=
  if shown then .insert (.single 0) else .remove (.single 0)

/-- The index after its summary has been shown or hidden. -/
def summarised (ix : Index) (shown : Bool) : Index :=
  if ix.showSummary = shown then ix
  else { ix with
    notifier := ix.notifier.tell (summaryChange shown).pair
    showSummary := shown
    summary := if shown then some ix.currentSummary else none }

variable {ix : Index} {job : FinishedJob} {columns : List Column} {items : List Item}

theorem isBare_iff : ix.isBare items = true ↔
    items = [] ∧ ix.store.nodes.isEmpty = true ∧ ix.outstanding = 0 := by
  simp only [isBare, Bool.and_eq_true, List.isEmpty_iff, beq_iff_eq, and_assoc]

/-- A reset that has nothing to rebuild is carried out at once. -/
theorem rebuilt_of_bare (hb : ix.isBare items = true) :
    ix.rebuilt columns items = (ix.opened.adopting columns).clear.closed := if_pos hb

theorem notifier_rebuilt_of_bare (hq : ix.notifier.current = none) (hb : ix.isBare items = true) :
    (ix.rebuilt columns items).notifier = ix.notifier.deliver Bracket.reset.pair := by
  rw [rebuilt_of_bare hb]
  show (ix.notifier.opened .reset).closed .reset = _
  rw [Notifier.closed_opened hq, Notifier.tell_of_quiet hq]

/-- The items of a request that are not yet indexed are some of its items. -/
theorem unindexed_sublist (ix : Index) (items : List Item) : (ix.unindexed items).Sublist items := by
  unfold unindexed
  split
  · exact List.Sublist.refl items
  · exact List.filter_sublist

/-- **Handing over the items there are is handing them over, or nothing when there are none.** What
    holds of both outcomes holds of it. -/
theorem dispatchSome_induct {kind : JobKind} {P : Option Ticket × Index → Prop}
    (hnone : items = [] → P (none, ix))
    (hsome : P (some (ix.dispatch kind items).1, (ix.dispatch kind items).2)) :
    P (ix.dispatchSome kind items) := by
  unfold dispatchSome
  split
  · rename_i he
    exact hnone (List.isEmpty_iff.mp he)
  · exact hsome

/-- What is submitted again is handed over when there is something left of it. -/
theorem resubmitted_eq (job : FinishedJob) :
    ix.resubmitted job = (ix.dispatchSome .add (ix.kept job)).2 := by
  unfold resubmitted dispatchSome
  split <;> rfl

/-- **What handing over some of the items keeps, an update keeps**, for it hands over all of them, or
    those that are indexed and then the others. -/
theorem updated_induct {P : Index → Prop} (h : P ix)
    (hd : ∀ (ix : Index) (kind : JobKind) (part : List Item), kind ≠ .reset → part.Sublist items → P ix →
      P (ix.dispatchSome kind part).2) : P (ix.updated items) := by
  unfold updated
  split
  · exact hd ix .add items (fun e => by cases e) (List.Sublist.refl items) h
  · have hknown := hd ix .update (items.filter fun item => ix.store.indexes item.id)
      (fun e => by cases e) List.filter_sublist h
    exact hd _ .add _ (fun e => by cases e) List.filter_sublist hknown

/-! ## 3. The open bracket stays -/

theorem current_refreshSummary : ix.refreshSummary.notifier.current = ix.notifier.current := by
  unfold refreshSummary
  split
  · split
    · rfl
    · exact Notifier.current_tell
  · rfl

theorem current_detached (ids : List ItemId) :
    (ix.detached ids).notifier.current = ix.notifier.current :=
  Notifier.current_tell

theorem current_merged (batch : Batch) : (ix.merged batch).notifier.current = ix.notifier.current :=
  Notifier.current_tell

theorem current_takenUp (cleared : Bool) :
    (ix.takenUp job cleared).notifier.current = ix.notifier.current := by
  unfold takenUp
  split
  · rw [folded, current_merged]
    split
    · rfl
    · exact current_detached _
  · rw [resubmitted_eq]
    exact dispatchSome_induct (P := fun r => r.2.notifier.current = _) (fun _ => rfl) rfl

/-! ## 4. Operations have their outcomes -/

theorem Quiet.steady (h : ix.Quiet) : ix.notifier.Steady := Or.inl h.closed

theorem Quiet.ensureNotApplying (h : ix.Quiet) (operation : String) :
    ix.ensureNotApplying operation = .ok () := if_neg h.phase_ne

theorem detach_eq (h : ix.notifier.Steady) (ids : List ItemId) :
    ix.detach ids = .ok ((ix.store.detach ids).removed, ix.detached ids) := by
  rw [detach, Notifier.announceAll_eq h]
  refine congrArg (fun n =>
    Except.ok (_, { ix with store := (ix.store.detach ids).store, notifier := n })) ?_
  rw [Notifier.membersChanged_eq, Notifier.tell_tell]
  rfl

theorem merge_eq (h : ix.notifier.Steady) (batch : Batch) : ix.merge batch = .ok (ix.merged batch) := by
  rw [merge, merged, Store.Merged.events]
  split
  · rw [List.nil_append]
    exact congrArg (fun n => Except.ok { ix with
      store := (ix.store.merge ix.layout.visible batch).store, notifier := n })
      (Notifier.membersChanged_eq _)
  · rw [Notifier.announce_eq h, ← Notifier.tell_tell]
    exact congrArg (fun n => Except.ok { ix with
      store := (ix.store.merge ix.layout.visible batch).store, notifier := n })
      (Notifier.membersChanged_eq _)

theorem fold_eq (h : ix.notifier.Steady) (job : FinishedJob) (cleared : Bool) :
    ix.fold job cleared = .ok (ix.folded job cleared) := by
  unfold fold folded
  cases cleared with
  | true => exact merge_eq h _
  | false =>
    have hd : (ix.detached (ix.wanted job).requested.toList).notifier.Steady := h.tell
    have he : ix.detach (ix.wanted job).requested.toList = _ := detach_eq h _
    rw [wanted] at he
    rw [if_neg Bool.false_ne_true, he]
    exact merge_eq hd _

theorem foldOrResubmit_eq (h : ix.notifier.Steady) (job : FinishedJob) (cleared : Bool) :
    ix.foldOrResubmit job cleared = .ok (ix.takenUp job cleared) := by
  unfold foldOrResubmit takenUp
  split
  · exact fold_eq h job cleared
  · rfl

theorem takenIn_eq (h : ix.notifier.current = none) (job : FinishedJob) :
    ix.takeIn job = .ok (ix.takenIn job) := by
  unfold takeIn takenIn
  split
  · have hc : ix.opened.clear.notifier.current = some .reset := rfl
    have hr : (ix.opened.clear.takenUp job true).refreshSummary.notifier.current = some .reset := by
      rw [current_refreshSummary, current_takenUp, hc]
    have hf : ix.opened.clear.foldOrResubmit job true = _ := foldOrResubmit_eq (Or.inr hc) job true
    rw [Notifier.openBracket_eq h]
    show (do
      let ix ← ix.opened.clear.foldOrResubmit job true
      let notifier ← Fault.ofBracket (ix.refreshSummary.notifier.closeBracket .reset)
      pure { ix.refreshSummary with notifier, resets := ix.refreshSummary.resets + 1 }) = _
    rw [hf]
    show (do
      let notifier ← Fault.ofBracket
        ((ix.opened.clear.takenUp job true).refreshSummary.notifier.closeBracket .reset)
      pure { (ix.opened.clear.takenUp job true).refreshSummary with
        notifier, resets := (ix.opened.clear.takenUp job true).refreshSummary.resets + 1 }) = _
    rw [Notifier.closeBracket_eq hr]
    rfl
  · rw [foldOrResubmit_eq (Or.inl h)]
    rfl

/-- **Applying a finished job does not fault.** -/
theorem apply_eq (h : ix.Quiet) (job : FinishedJob) : ix.apply job = .ok (ix.applied job) := by
  have hc : ix.applying.notifier.current = none := h.closed
  unfold apply applied
  rw [if_neg h.phase_ne]
  show (do
    let ix ← if ix.replaces job then pure ix.applying
      else do
        let ix ← ix.applying.takeIn job
        pure ix.counted
    pure (ix.concluded job)) = _
  split
  · rfl
  · rw [takenIn_eq hc]
    rfl

theorem applyNext?_eq (h : ix.Quiet) :
    ∃ next, ix.applyNext? = .ok next ∧ next.getD ix = ix.delivered := by
  unfold applyNext? delivered
  cases ix.worker.next? with
  | none => exact ⟨none, rfl, rfl⟩
  | some next =>
    have hq : Quiet { ix with worker := next.2 } := ⟨h.closed, h.phase_ne⟩
    exact ⟨some _, congrArg (some <$> ·) (apply_eq hq next.1), rfl⟩

theorem reset_eq (h : ix.Quiet) (columns : List Column) (items : List Item) :
    ∃ ticket, ix.reset columns items = .ok (ticket, ix.rebuilt columns items) := by
  unfold reset rebuilt isBare
  rw [h.ensureNotApplying]
  split
  · rename_i hb
    have hc : (ix.opened.adopting columns).clear.notifier.current = some .reset := rfl
    refine ⟨none, ?_⟩
    rw [Notifier.openBracket_eq h.closed]
    show (do
      let notifier ← Fault.ofBracket
        ((ix.opened.adopting columns).clear.notifier.closeBracket .reset)
      pure (none, { (ix.opened.adopting columns).clear with
        notifier, resets := (ix.opened.adopting columns).clear.resets + 1 })) = _
    rw [Notifier.closeBracket_eq hc]
    rfl
  · rename_i hb
    exact ⟨_, rfl⟩

theorem add_eq (h : ix.Quiet) (items : List Item) :
    ∃ ticket, ix.add items = .ok (ticket, ix.brought items) := by
  unfold add brought dispatchSome
  rw [h.ensureNotApplying]
  show ∃ ticket, (if (ix.unindexed items).isEmpty then pure (none, ix)
    else pure (some _, (ix.dispatch .add (ix.unindexed items)).2)) = _
  split <;> exact ⟨_, rfl⟩

theorem update_eq (h : ix.Quiet) (items : List Item) :
    ∃ ticket, ix.update items = .ok (ticket, ix.updated items) := by
  unfold update updated
  rw [h.ensureNotApplying, List.partition_eq_filter_filter]
  cases ix.resetting with
  | true => exact ⟨_, rfl⟩
  | false => exact ⟨_, rfl⟩

theorem remove_eq (h : ix.Quiet) (ids : List ItemId) :
    ix.remove ids = .ok ((ix.store.detach ids).removed, ix.removed ids) := by
  have hs : (ix.buried ids).notifier.Steady := h.steady
  unfold remove removed
  rw [h.ensureNotApplying]
  show ((ix.buried ids).detach ids >>= fun found =>
    pure (found.1, if found.1 = 0 then found.2 else found.2.refreshSummary)) = _
  rw [detach_eq hs]
  rfl

theorem hideColumn_eq (h : ix.Quiet) (i : Nat) :
    ix.hideColumn i = .ok (ix.layout.columns[i]?.isSome, ix.hidden i) := by
  have hc : (ix.notifier.opened (.removeColumns (.single i))).current =
    some (.removeColumns (.single i)) := rfl
  unfold hideColumn hidden
  rw [h.ensureNotApplying, Notifier.openBracket_eq h.closed]
  cases ix.layout.columns[i]? with
  | none => rfl
  | some column =>
    show (do
      let notifier ← Fault.ofBracket
        ((ix.notifier.opened (.removeColumns (.single i))).closeBracket (.removeColumns (.single i)))
      pure (true, { ix.narrowed i column with notifier }.refreshSummary)) = _
    rw [Notifier.closeBracket_eq hc, Notifier.closed_opened h.closed]
    rfl

theorem setSummaryShown_eq (h : ix.Quiet) (shown : Bool) :
    ix.setSummaryShown shown = .ok (ix.summarised shown) := by
  unfold setSummaryShown summarised
  rw [h.ensureNotApplying]
  show (if ix.showSummary = shown then pure ix else do
    let notifier ← Fault.ofBracket (ix.notifier.announce (summaryChange shown))
    pure { ix with
      notifier
      showSummary := shown
      summary := if shown then some ix.currentSummary else none }) = _
  split
  · rfl
  · rw [Notifier.announce_eq h.steady]
    rfl

end Index

end MediaIndex
