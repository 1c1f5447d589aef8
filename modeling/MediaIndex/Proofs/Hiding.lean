import MediaIndex.Proofs.Representation
import MediaIndex.Proofs.Store.Rows

/-!
# Hiding a column before or after a delivery

While no reset is pending, a column may be hidden before the next finished job is applied or after it:
the index comes out the same. Before it, new nodes are shown in the columns that are left; after it, they
are shown in all columns and cut. Only the order of what observers are told differs.

* `Index.silent` -- the index without its summary and its observers;
* `Index.shorn`, `silent_hidden` -- what hiding a column comes to;
* `silent_takenUp_shorn`, `silent_applied_shorn` -- it commutes with taking in a job, and with applying it;
* `Summed.eq_of_silent_eq` -- the summary is fixed by the rest;
* `hiding_commutes_with_delivery` -- hiding and applying, in either order, after every run.
-/

namespace MediaIndex.Index

variable {ix ix' : Index} {job : FinishedJob} {i : Nat}

/-! ## 1. The index but for what is shown of it -/

/-- The index without its summary and its observers. -/
def silent (ix : Index) : Index := { ix with summary := none, notifier := {} }

/-- The index with one column less in its layout and its nodes. -/
def shorn (ix : Index) (i : Nat) : Index :=
  { ix with layout := ix.layout.hide i, store := ix.store.hideColumn i }

theorem silent_refreshSummary : ix.refreshSummary.silent = ix.silent := by
  obtain ⟨summary, notifier, e⟩ := ix.refreshSummary_eq
  rw [e]
  rfl

/-- Hiding a column cuts it from layout and nodes, when no columns are pending. -/
theorem silent_hidden (hp : ix.pendingColumns = none) (hi : i < ix.layout.columns.length) :
    (ix.hidden i).silent = (ix.shorn i).silent := by
  have hn (column : Column) : (ix.narrowed i column).silent = (ix.shorn i).silent := by
    unfold narrowed shorn silent
    rw [hp]
    rfl
  unfold hidden
  rw [List.getElem?_eq_getElem hi]
  exact silent_refreshSummary.trans (hn _)

/-- The summary is that of the nodes, so the rest of the index fixes it. -/
theorem Summed.eq_of_silent_eq (h : ix.Summed) (h' : ix'.Summed) (e : ix.silent = ix'.silent) :
    ix = { ix' with notifier := ix.notifier } := by
  have hsummary : ix.summary = ix'.summary := by
    rw [h, h']
    show (if ix.silent.showSummary then some ix.silent.currentSummary else none) =
      if ix'.silent.showSummary then some ix'.silent.currentSummary else none
    rw [e]
  have hix : ix = { ix.silent with summary := ix.summary, notifier := ix.notifier } := rfl
  rw [hix, e, hsummary]
  rfl

/-! ## 2. Taking in a job -/

/-- What becomes of a job does not depend on the summary and the observers. -/
theorem silent_takenUp (ix : Index) (job : FinishedJob) :
    (ix.silent.takenUp job false).silent = (ix.takenUp job false).silent := by
  unfold takenUp
  show (if job.columns = ix.layout.keyColumns then _ else _ : Index).silent = _
  split
  · rfl
  · unfold resubmitted
    show (if (ix.kept job).isEmpty then _ else _ : Index).silent = _
    split <;> rfl

/-- A job is taken up with one column less as it is with all of them, and the column cut afterwards. -/
theorem silent_takenUp_shorn (ix : Index) (hs : ix.store.Sound) (hd : ix.store.Displays ix.layout.visible)
    (hb : (ix.wanted job).Sound) (i : Nat) :
    ((ix.shorn i).takenUp job false).silent = ((ix.takenUp job false).shorn i).silent := by
  unfold takenUp
  show (if job.columns = ix.layout.keyColumns then _ else _ : Index).silent = _
  split
  · -- the job is for the columns in force: its batch is put in place of what there was of its items
    have hstore := hs.take_hideColumn hd hb i
    show { ix.silent with
      layout := ix.layout.hide i
      store := (ix.store.hideColumn i).take (ix.layout.visible.eraseIdx i) (ix.wanted job) } = _
    rw [hstore]
    rfl
  · -- it is for others: it is submitted again for all key columns, whether they are shown or not
    unfold resubmitted
    show (if (ix.kept job).isEmpty then _ else _ : Index).silent = _
    split <;> rfl

/-! ## 3. Applying a job -/

theorem silent_takenIn (ix : Index) (hr : ix.resetting = false) :
    (ix.takenIn job).silent = (ix.takenUp job false).silent := by
  unfold takenIn
  rw [hr, if_neg Bool.false_ne_true]
  exact silent_refreshSummary

theorem silent_counted (ix : Index) : ix.counted.silent = ix.silent.counted := rfl

theorem silent_concluded (ix : Index) (job : FinishedJob) :
    (ix.concluded job).silent = (ix.silent.concluded job).silent := rfl

/-- An applied job, told by what taking it up comes to. -/
theorem silent_applied_eq (ix : Index) (hr : ix.resetting = false) : (ix.applied job).silent =
    ((if ix.replaces job then ix.applying.silent
      else (ix.applying.takenUp job false).silent.counted).concluded job).silent := by
  unfold applied
  split
  · rfl
  · rw [silent_concluded, silent_counted, ix.applying.silent_takenIn hr]

theorem silent_applied (ix : Index) (hr : ix.resetting = false) :
    (ix.silent.applied job).silent = (ix.applied job).silent := by
  have ht : (ix.silent.applying.takenUp job false).silent = (ix.applying.takenUp job false).silent :=
    ix.applying.silent_takenUp job
  rw [ix.silent.silent_applied_eq hr, ix.silent_applied_eq hr, ht]
  rfl

/-- **Cutting a column commutes with applying a job.** -/
theorem silent_applied_shorn (ix : Index) (hr : ix.resetting = false) (hs : ix.store.Sound)
    (hd : ix.store.Displays ix.layout.visible) (hb : (ix.wanted job).Sound) (i : Nat) :
    ((ix.shorn i).applied job).silent = ((ix.applied job).shorn i).silent := by
  have ht : ((ix.shorn i).applying.takenUp job false).silent =
      ((ix.applying.takenUp job false).shorn i).silent :=
    ix.applying.silent_takenUp_shorn hs hd hb i
  have he : ((ix.applied job).shorn i).silent = ((ix.applied job).silent.shorn i).silent := rfl
  rw [(ix.shorn i).silent_applied_eq hr, he, ix.silent_applied_eq hr, ht]
  show ((if ix.replaces job then _ else _ : Index).concluded job).silent = _
  split <;> rfl

/-! ## 4. The next finished job -/

/-- A delivery with no reset pending leaves the layout as it is, and no columns pending. -/
theorem layout_delivered (hp : ix.pendingColumns = none) (hr : ix.resetting = false) :
    ix.delivered.layout = ix.layout ∧ ix.delivered.pendingColumns = none := by
  have ht (ix : Index) (job : FinishedJob) : (ix.takenUp job false).layout = ix.layout ∧
      (ix.takenUp job false).pendingColumns = ix.pendingColumns := by
    unfold takenUp resubmitted
    split
    · exact ⟨rfl, rfl⟩
    · split <;> exact ⟨rfl, rfl⟩
  rcases ix.delivered_cases with ⟨-, e⟩ | ⟨job, rest, -, e⟩
  · rw [e]
    exact ⟨rfl, hp⟩
  · rw [e]
    show ((ix.popped rest).applied job).silent.layout = ix.layout ∧
      ((ix.popped rest).applied job).silent.pendingColumns = none
    rw [(ix.popped rest).silent_applied_eq hr]
    split
    · exact ⟨rfl, hp⟩
    · have h := ht (ix.popped rest).applying job
      exact ⟨h.1, h.2.trans hp⟩

/-- Of two indexes with the same finished jobs either none is delivered one, or both the same one. -/
theorem delivered_both (hf : ix.worker.finished = ix'.worker.finished) :
    ix.delivered = ix ∧ ix'.delivered = ix' ∨
      ∃ job rest, ix.worker.finished = job :: rest ∧
        ix.delivered = (ix.popped rest).applied job ∧ ix'.delivered = (ix'.popped rest).applied job := by
  rcases ix.delivered_cases with ⟨hnil, e⟩ | ⟨job, rest, hcons, e⟩
  · rcases ix'.delivered_cases with ⟨-, e'⟩ | ⟨job, rest, hcons, -⟩
    · exact Or.inl ⟨e, e'⟩
    · simp [← hf, hnil] at hcons
  · rcases ix'.delivered_cases with ⟨hnil, -⟩ | ⟨job', rest', hcons', e'⟩
    · simp [← hf, hcons] at hnil
    · obtain ⟨rfl, rfl⟩ := List.cons.inj (hcons.symm.trans (hf.trans hcons'))
      exact Or.inr ⟨job, rest, hcons, e, e'⟩

theorem silent_delivered (ix : Index) (hr : ix.resetting = false) :
    ix.silent.delivered.silent = ix.delivered.silent := by
  have hf : ix.silent.worker.finished = ix.worker.finished := rfl
  rcases delivered_both hf with ⟨e, e'⟩ | ⟨job, rest, -, e, e'⟩
  · rw [e, e']
    rfl
  · rw [e, e']
    exact (ix.popped rest).silent_applied hr

/-- Cutting a column commutes with a delivery. -/
theorem silent_delivered_shorn (ho : ix.Orderly) (hd : ix.store.Displays ix.layout.visible)
    (hr : ix.resetting = false) (i : Nat) :
    (ix.shorn i).delivered.silent = (ix.delivered.shorn i).silent := by
  have hf : ix.worker.finished = (ix.shorn i).worker.finished := rfl
  rcases delivered_both hf with ⟨e, e'⟩ | ⟨job, rest, hcons, e, e'⟩
  · rw [e, e']
  · have hb : job.batch = ix.worker.grouper.compute job.items job.columns :=
      ho.worker.batch_eq job (hcons ▸ List.mem_cons_self)
    rw [e, e']
    exact (ix.popped rest).silent_applied_shorn hr ho.store hd ((ix.popped rest).sound_wanted hb) i

/-- **Hiding a column commutes with a delivery**, but for the summary and what is told. -/
theorem silent_delivered_hidden (ho : ix.Orderly) (hd : ix.store.Displays ix.layout.visible)
    (hr : ix.resetting = false) (hi : i < ix.layout.columns.length) :
    (ix.hidden i).delivered.silent = (ix.delivered.hidden i).silent := by
  have hp := ho.pendingColumns_eq_none hr
  have hh := silent_hidden hp hi
  have hrh : (ix.hidden i).silent.resetting = false := by
    rw [hh]
    exact hr
  have he : (ix.shorn i).silent.delivered.silent = (ix.shorn i).delivered.silent :=
    (ix.shorn i).silent_delivered hr
  obtain ⟨hl', hp'⟩ := layout_delivered hp hr
  rw [silent_hidden hp' (hl' ▸ hi), ← (ix.hidden i).silent_delivered hrh, hh, he]
  exact silent_delivered_shorn ho hd hr i

/-! ## 5. Runs -/

/-- **Hiding a column commutes with applying a batch.** After every run that leaves no reset pending, a
    column is hidden and the next finished job applied, in one order and in the other: whether the job is
    taken in, in part or in whole, submitted again or dropped, the indexes are the same, and only what
    observers have been told differs. -/
theorem hiding_commutes_with_delivery (extractor : Extractor) (options : IndexOptions)
    {before : List Step} {ix : Index} (hb : (ofOptions extractor options).run before = .ok ix)
    (hr : ix.resetting = false) (i : Nat) (hi : i < ix.layout.columns.length) :
    ∃ ix₁ ix₂, ix.run [.hideColumn i, .deliver] = .ok ix₁ ∧
      ix.run [.deliver, .hideColumn i] = .ok ix₂ ∧ ix₁ = { ix₂ with notifier := ix₁.notifier } := by
  have hstart := orderly_ofOptions extractor options
  rw [run_eq hstart.quiet] at hb
  cases hb
  have ho := hstart.foldl_after before
  have ha := (arranged_ofOptions extractor options).foldl_after hstart before
  generalize before.foldl Index.after (ofOptions extractor options) = ix at ho ha hr hi ⊢
  have hfirst := ha.foldl_after ho [.hideColumn i, .deliver]
  have hlast := ha.foldl_after ho [.deliver, .hideColumn i]
  exact ⟨_, _, run_eq ho.quiet _, run_eq ho.quiet _,
    hfirst.summed.eq_of_silent_eq hlast.summed (silent_delivered_hidden ho ha.displays hr hi)⟩

/-- The columns of the example, of which the first is hidden soon. -/
def hidingOptions : IndexOptions :=
  { columns := [.ofField "artist" "Artist", .ofField "album" "Album", .ofField "genre" "Genre"] }

/-- Two items are changed, and one of them is removed before the job that brings the copies arrives. -/
def hidingBefore : List Step :=
  [.add [(Item.withField ⟨1, ∅⟩ "album" "X").withField "genre" "Rock", Item.withField ⟨2, ∅⟩ "genre" "Pop"],
    .start, .finish, .deliver, .hideColumn 0,
    .update [(Item.withField ⟨1, ∅⟩ "album" "Y").withField "genre" "Jazz",
      Item.withField ⟨2, ∅⟩ "genre" "Jazz"],
    .start, .finish, .remove [2]]

/-- The changed item is shown in the one column that is left, whether it was hidden in time or not. -/
theorem hiding_commutes_with_delivery_removed :
    let ix := hidingBefore.foldl after (ofOptions rawExtractor hidingOptions)
    ix.resetting = false ∧ 0 < ix.layout.columns.length ∧
      ∃ ix₁ ix₂, ix.run [.hideColumn 0, .deliver] = .ok ix₁ ∧
        ix.run [.deliver, .hideColumn 0] = .ok ix₂ ∧ ix₁ = { ix₂ with notifier := ix₁.notifier } ∧
        ix₁.nodes.map (·.display) = [["Jazz"]] := by
  intro ix
  have ho : ix.Orderly := (orderly_ofOptions rawExtractor hidingOptions).foldl_after hidingBefore
  have hb := run_eq (quiet_ofOptions rawExtractor hidingOptions) hidingBefore
  have hr : ix.resetting = false := by decide +kernel
  have hi : 0 < ix.layout.columns.length := by decide +kernel
  obtain ⟨ix₁, ix₂, h₁, h₂, e⟩ := hiding_commutes_with_delivery rawExtractor hidingOptions hb hr 0 hi
  have hshown : ix₁.nodes.map (·.display) = [["Jazz"]] := by
    rw [eq_foldl_after_of_run ho.quiet h₁]
    decide +kernel
  exact ⟨hr, hi, ix₁, ix₂, h₁, h₂, e, hshown⟩

end MediaIndex.Index
