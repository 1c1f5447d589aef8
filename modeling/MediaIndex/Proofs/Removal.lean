import MediaIndex.Index.Lookup
import MediaIndex.Proofs.Index.Bringing

/-!
# Removed items stay out

A removal takes an item out of the store at once, but jobs that were submitted before it may still
bring a copy. The removal is remembered with the newest ticket, which is that of the last such job, so
whatever becomes of the jobs their copy of the item is left out until a later request brings a new one.

* `Index.Gone` -- the item is not indexed, and every job that brings it was submitted before its removal;
* `gone_removed` -- a removal leads there;
* `Gone.after` -- every step keeps this unless it brings a copy of the item;
* `removed_items_stay_out` -- the same for every run.
-/

namespace MediaIndex.Index

variable {ix ix' : Index} {id : ItemId} {kind : JobKind} {items : List Item}

/-! ## 1. Items that are gone -/

/-- The item is not indexed, and whatever job brings it was submitted before it was removed. -/
structure Gone (ix : Index) (id : ItemId) : Prop where
  unindexed : ix.store.indexes id = false
  covered : ∀ {kind ticket}, ix.Brings id kind ticket → ix.isTombstoned id ticket = true

theorem Gone.congr (h : ix.Gone id) (hj : ix'.jobs = ix.jobs)
    (ht : ix'.tombstones[id]? = ix.tombstones[id]?)
    (hi : ix'.store.indexes id = ix.store.indexes id) : ix'.Gone id where
  unindexed := hi.trans h.unindexed
  covered hb := (isTombstoned_congr ht).trans (h.covered ((brings_congr hj).mp hb))

/-- An item that is gone has no keys and is in no node. -/
theorem Gone.not_links (h : ix.Gone id) (hs : ix.store.Sound) (key : GroupKey) :
    ¬ ix.store.Links key id := by
  intro hl
  have hi := hs.indexes_iff.mpr ⟨key, hl⟩
  rw [h.unindexed] at hi
  cases hi

/-! ## 2. Requests that do not bring the item -/

/-- Handing over other items neither brings the item nor forgets its removal. -/
theorem Gone.dispatch (h : ix.Gone id) (hn : id ∉ idsOf items) : (ix.dispatch kind items).2.Gone id where
  unindexed := h.unindexed
  covered {k ticket} hb := by
    have ht : (ix.dispatch kind items).2.tombstones[id]? = ix.tombstones[id]? := by
      rw [getElem?_tombstones_dispatch, if_neg hn]
    rw [isTombstoned_congr ht]
    rcases brings_dispatch.mp hb with hb | ⟨hm, -⟩
    · exact h.covered hb
    · exact absurd hm hn

theorem Gone.dispatchSome (h : ix.Gone id) (hn : id ∉ idsOf items) :
    (ix.dispatchSome kind items).2.Gone id :=
  dispatchSome_induct (P := fun r => r.2.Gone id) (fun _ => h) (h.dispatch hn)

theorem Gone.brought (h : ix.Gone id) (hn : id ∉ idsOf items) : (ix.brought items).Gone id :=
  h.dispatchSome (not_mem_idsOf_sublist hn (ix.unindexed_sublist items))

theorem Gone.updated (h : ix.Gone id) (hn : id ∉ idsOf items) : (ix.updated items).Gone id :=
  updated_induct (P := fun ix' => ix'.Gone id) h
    fun _ _ _ _ hp h => h.dispatchSome (not_mem_idsOf_sublist hn hp)

/-- A reset that does not bring the item leaves it gone, whether it clears the store at once or later. -/
theorem Gone.rebuilt (h : ix.Gone id) (columns : List Column) (hn : id ∉ idsOf items) :
    (ix.rebuilt columns items).Gone id := by
  cases hb : ix.isBare items with
  | true =>
    rw [rebuilt_of_bare hb]
    exact ⟨rfl, fun hbrings => h.covered ((brings_congr rfl).mp hbrings)⟩
  | false =>
    have ht : (ix.rebuilt columns items).tombstones[id]? = ix.tombstones[id]? :=
      (getElem?_tombstones_rebuilt hb).trans (if_neg hn)
    have hs : (ix.rebuilt columns items).store = ix.store := by
      unfold Index.rebuilt
      rw [hb]
      rfl
    refine ⟨?_, fun hbrings => ?_⟩
    · rw [hs]
      exact h.unindexed
    · rw [isTombstoned_congr ht]
      rcases brings_rebuilt.mp hbrings with hbrings | ⟨hm, -⟩
      · exact h.covered hbrings
      · exact absurd hm hn

theorem Gone.refreshSummary (h : ix.Gone id) : ix.refreshSummary.Gone id := by
  obtain ⟨summary, notifier, e⟩ := ix.refreshSummary_eq
  rw [e]
  exact h.congr rfl rfl rfl

theorem Gone.hidden (h : ix.Gone id) (i : Nat) : (ix.hidden i).Gone id := by
  unfold Index.hidden
  split
  · exact h
  · rename_i column _
    have hn : (ix.narrowed i column).Gone id := h.congr rfl rfl rfl
    exact hn.refreshSummary

/-! ## 3. Removals -/

section Removal

variable {ids : List ItemId}

/-- **What is removed is gone.** Every job that brings it has a ticket that the removal covers. -/
theorem gone_removed (ho : ix.Orderly) (hm : id ∈ ids) : (ix.removed ids).Gone id := by
  suffices hd : ((ix.buried ids).detached ids).Gone id by
    unfold removed
    split
    · exact hd
    · exact hd.refreshSummary
  refine ⟨(Store.indexes_detach ho.store).trans (if_pos hm), fun {kind ticket} hb => ?_⟩
  have hb' : ix.Brings id kind ticket := (brings_congr rfl).mp hb
  have hne : ix.outstanding ≠ 0 := by
    obtain ⟨job, hj, -⟩ := hb'
    rw [ho.outstanding_eq]
    exact fun e => List.ne_nil_of_mem hj (List.length_eq_zero_iff.mp e)
  have ht : ((ix.buried ids).detached ids).tombstones[id]? = some ix.worker.lastTicket := by
    show (ix.buried ids).tombstones[id]? = _
    rw [getElem?_tombstones_buried, if_pos ⟨hne, hm⟩]
  rw [isTombstoned, ht]
  exact decide_eq_true (hb'.ticket_le ho.worker)

/-- Removing other items, or the item once more, leaves it gone. -/
theorem Gone.removed (h : ix.Gone id) (ho : ix.Orderly) : (ix.removed ids).Gone id := by
  by_cases hm : id ∈ ids
  · exact gone_removed ho hm
  · have ht : ((ix.buried ids).detached ids).tombstones[id]? = ix.tombstones[id]? := by
      show (ix.buried ids).tombstones[id]? = _
      rw [getElem?_tombstones_buried, if_neg fun hb => hm hb.2]
    have hd : ((ix.buried ids).detached ids).Gone id :=
      h.congr rfl ht ((Store.indexes_detach ho.store).trans (if_neg hm))
    unfold Index.removed
    split
    · exact hd
    · exact hd.refreshSummary

end Removal

/-! ## 4. Deliveries -/

section Delivery

variable {job : FinishedJob} {rest : List FinishedJob}

/-- The job that is delivered does not bring the item, or its copy is left out. -/
theorem Gone.not_mem_kept (h : ix.Gone id) (hf : ix.worker.finished = job :: rest) :
    id ∉ idsOf (ix.kept job) := by
  intro hm
  obtain ⟨hmem, ht⟩ := mem_idsOf_kept.mp hm
  have hb : ix.Brings id job.kind job.ticket := ⟨_, mem_jobs_of_finished hf, hmem, rfl, rfl⟩
  rw [h.covered hb] at ht
  cases ht

theorem Gone.met (h : ix.Gone id) : ix.met.Gone id := by
  unfold Index.met
  split
  · exact ⟨rfl, h.covered⟩
  · exact h

/-- Whatever becomes of a job, the item stays gone. -/
theorem Gone.outcome (h : ix.Gone id) (ho : ix.Coherent) (hf : ix.worker.finished = job :: rest)
    {stage : Index} (hout : (ix.popped rest).Outcome job stage) : stage.Gone id := by
  have hpop : (ix.popped rest).applying.Gone id :=
    ⟨h.unindexed, fun hb => h.covered ((brings_popped hf).mpr (Or.inr hb))⟩
  have hmet : (ix.popped rest).applying.met.Gone id := hpop.met
  have hkept : id ∉ idsOf (ix.kept job) := h.not_mem_kept hf
  cases hout with
  | dropped hr hs =>
    subst hs
    exact hpop
  | taken hr hc hs =>
    subst hs
    have hb : job.batch = (ix.popped rest).worker.grouper.compute job.items job.columns :=
      ho.worker.batch_eq job (hf ▸ List.mem_cons_self)
    have hstore : (ix.popped rest).met.store.Sound := by
      rw [met_popped]
      exact ho.store_met
    refine ⟨eq_false_of_ne_true fun hi => ?_, fun hbrings => hmet.covered ((brings_congr rfl).mp hbrings)⟩
    rcases (Store.indexes_take hstore ((ix.popped rest).sound_wanted hb)).mp hi with ⟨hi, -⟩ | hputs
    · have hold : (ix.popped rest).met.store.indexes id = false := by
        have hu := hmet.unindexed
        rw [met_applying] at hu
        exact hu
      rw [hold] at hi
      cases hi
    · exact hkept ((exists_puts_wanted hb).mp hputs)
  | again hr hc hs =>
    subst hs
    rw [resubmitted_eq, kept_met]
    exact hmet.dispatchSome hkept

theorem Gone.delivered (h : ix.Gone id) (ho : ix.Coherent) : ix.delivered.Gone id := by
  rcases ix.delivered_cases with ⟨-, e⟩ | ⟨job, rest, hf, -⟩
  · rw [e]
    exact h
  · obtain ⟨stage, summary, notifier, batchesApplied, resets, hout, e⟩ := delivered_outcome hf
    have hs : stage.Gone id := h.outcome ho hf hout
    rw [e]
    refine ⟨hs.unindexed, fun hb => ?_⟩
    have hb' : stage.Brings id _ _ := (brings_congr rfl).mp hb
    exact (isTombstoned_booked (lt_of_brings_outcome ho.worker hf hout hb')).trans (hs.covered hb')

end Delivery

/-! ## 5. Steps and runs -/

/-- **An item that is gone stays gone until a step brings a copy of it.** -/
theorem Gone.after (h : ix.Gone id) (ho : ix.Orderly) {s : Step} (hn : id ∉ idsOf s.items) :
    (ix.after s).Gone id := by
  cases s with
  | reset columns items => exact h.rebuilt columns hn
  | fullReload items => exact h.rebuilt _ hn
  | add items => exact h.brought hn
  | update items => exact h.updated hn
  | remove ids => exact h.removed ho
  | hideColumn i => exact h.hidden i
  | setSummaryShown shown =>
    show (ix.summarised shown).Gone id
    unfold summarised
    split
    · exact h
    · exact h.congr rfl rfl rfl
  | decorationReady other => exact h.congr rfl rfl rfl
  | subscribe => exact h.congr rfl rfl rfl
  | start => exact h.congr ix.worker.jobs_start rfl rfl
  | finish => exact h.congr ix.worker.jobs_finish rfl rfl
  | deliver => exact h.delivered ho.toCoherent

theorem Gone.foldl_after (h : ix.Gone id) (ho : ix.Orderly) {steps : List Step}
    (hn : ∀ s ∈ steps, id ∉ idsOf s.items) : (steps.foldl Index.after ix).Gone id := by
  induction steps generalizing ix with
  | nil => exact h
  | cons s steps ih =>
    exact ih (h.after ho (hn s List.mem_cons_self)) (ho.after s) fun s' hs =>
      hn s' (List.mem_cons_of_mem _ hs)

/-- **Removed items stay out.** After any run an item is removed, and no later step brings a copy of it.
    Then it is not indexed after any of these steps: it has no keys and is in no node, whatever jobs
    brought it when it was removed and whatever became of them. -/
theorem removed_items_stay_out (extractor : Extractor) (options : IndexOptions) (before : List Step)
    {ids : List ItemId} {id : ItemId} {later : List Step} (hm : id ∈ ids)
    (hn : ∀ s ∈ later, id ∉ idsOf s.items) :
    ∃ ix, (ofOptions extractor options).run (before ++ .remove ids :: later) = .ok ix ∧
      ix.keysOf? id = none ∧ ∀ key node, ix.node? key = some node → id ∉ node.members := by
  have ho := orderly_ofOptions extractor options
  have ho₀ := ho.foldl_after before
  have ho₁ := ho₀.after (.remove ids)
  refine ⟨_, run_eq ho.quiet _, ?_⟩
  rw [List.foldl_append, List.foldl_cons]
  have hgone : (later.foldl Index.after _).Gone id := (gone_removed ho₀ hm).foldl_after ho₁ hn
  have hlinks := hgone.not_links (ho₁.foldl_after later).store
  refine ⟨(ho₁.foldl_after later).store.getElem?_keysOf_eq_none_iff.mpr hlinks, ?_⟩
  intro key node hnode hmem
  exact hlinks key ⟨node, hnode, hmem⟩

/-- Copies of item 1 are finished, being computed, and waiting, the last one in a job of its own. -/
def heldBefore : List Step :=
  [.add [Item.withField ⟨1, ∅⟩ "artist" "A"], .start, .finish,
    .update [Item.withField ⟨1, ∅⟩ "artist" "B", Item.withField ⟨2, ∅⟩ "artist" "B"], .start,
    .update [Item.withField ⟨1, ∅⟩ "artist" "C"]]

/-- Another item joins the job that waits, and a reset makes all of the jobs be computed again. -/
def heldLater : List Step :=
  [.add [Item.withField ⟨3, ∅⟩ "genre" "Rock"],
    .reset [.ofField "genre" "Genre"] [Item.withField ⟨4, ∅⟩ "genre" "Jazz"], .hideColumn 0,
    .finish, .start, .deliver, .deliver, .finish, .start, .deliver, .finish, .deliver, .start, .finish,
    .deliver]

/-- Item 1 stays out, though three jobs bring copies of it, and the others come in. -/
theorem removed_items_stay_out_held : 1 ∈ [(1 : ItemId)] ∧ (∀ s ∈ heldLater, 1 ∉ idsOf s.items) ∧
    ∃ ix, (ofOptions rawExtractor { columns := [.ofField "artist" "Artist"] }).run
        (heldBefore ++ .remove [1] :: heldLater) = .ok ix ∧
      ix.keysOf? 1 = none ∧ ∀ key node, ix.node? key = some node → 1 ∉ node.members := by
  have hm : 1 ∈ [(1 : ItemId)] := List.mem_singleton_self 1
  have hn : ∀ s ∈ heldLater, 1 ∉ idsOf s.items := by decide
  exact ⟨hm, hn, removed_items_stay_out rawExtractor { columns := [.ofField "artist" "Artist"] }
    heldBefore hm hn⟩

end MediaIndex.Index
