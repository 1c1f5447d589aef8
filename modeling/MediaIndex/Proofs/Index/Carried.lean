import MediaIndex.Proofs.Index.Orderly

/-!
# What outstanding jobs carry

The items of a job are those of requests, with items left out or newer ones taken in. What this keeps
holds of every job when it holds of every request: when no request carries an item twice, no job does.

* `Index.Loads` -- the items of every job have a property;
* `Inherited`, `Loads.after` -- a step keeps a property of this sort when the items it brings have it;
* `Index.Carries`, `Carries.after` -- jobs carry every item once, and only copies with a given property;
* `Distinct.foldl_after` -- after a run jobs carry no item twice when no request did.
-/

namespace MediaIndex.Index

/-- The items of every outstanding job have the property. -/
def Loads (ix : Index) (Q : List Item → Prop) : Prop := ∀ job ∈ ix.jobs, Q job.items

/-- The property is kept when items are left out, and when newer ones are taken in. -/
structure Inherited (Q : List Item → Prop) : Prop where
  sublist : ∀ {items part : List Item}, part.Sublist items → Q items → Q part
  absorb : ∀ {items newer : List Item}, Q items → Q newer → Q (absorb items newer)

variable {ix : Index} {Q : List Item → Prop} {kind : JobKind} {columns : List Column} {items : List Item}

theorem loads_of_no_jobs (h : ix.jobs = []) : ix.Loads Q :=
  fun _ hj => absurd (h ▸ hj) List.not_mem_nil

theorem Loads.of_jobs_eq {ix' : Index} (h : ix.Loads Q) (e : ix'.jobs = ix.jobs) : ix'.Loads Q := by
  unfold Loads
  rw [e]
  exact h

theorem Loads.forall_finished (h : ix.Loads Q) : ∀ job ∈ ix.worker.finished, Q job.items := by
  intro job hm
  exact h job.toJob.unmarked
    (List.mem_map_of_mem (List.mem_append_left _ (List.mem_append_left _ (List.mem_map_of_mem hm))))

/-! ## 1. Steps that bring nothing -/

theorem jobs_refreshSummary : ix.refreshSummary.jobs = ix.jobs := by
  obtain ⟨summary, notifier, e⟩ := ix.refreshSummary_eq
  rw [e]
  rfl

theorem jobs_removed (ids : List ItemId) : (ix.removed ids).jobs = ix.jobs := by
  unfold removed
  split
  · rfl
  · exact jobs_refreshSummary

theorem jobs_hidden (i : Nat) : (ix.hidden i).jobs = ix.jobs := by
  unfold hidden
  split
  · rfl
  · exact jobs_refreshSummary

theorem jobs_summarised (shown : Bool) : (ix.summarised shown).jobs = ix.jobs := by
  unfold summarised
  split <;> rfl

theorem jobs_met : ix.met.jobs = ix.jobs := by
  unfold jobs
  rw [worker_met]

/-! ## 2. Requests and deliveries -/

theorem Loads.dispatchSome (h : ix.Loads Q) (hQ : Inherited Q) (hq : Q items) :
    (ix.dispatchSome kind items).2.Loads Q := by
  refine dispatchSome_induct (P := fun r => r.2.Loads Q) (fun _ => h) fun job hj => ?_
  rcases ix.mem_jobs_dispatch kind items hj with hj | ⟨-, -, e | ⟨tail, ht, -, e⟩⟩
  · exact h job hj
  · rw [e]
    exact hq
  · rw [e]
    exact hQ.absorb (h tail ht) hq

theorem Loads.rebuilt (h : ix.Loads Q) (hq : Q items) : (ix.rebuilt columns items).Loads Q := by
  cases hb : ix.isBare items with
  | true =>
    refine h.of_jobs_eq ?_
    rw [rebuilt_of_bare hb]
    rfl
  | false =>
    intro job hm
    rw [(jobs_rebuilt columns hb).1] at hm
    rcases List.mem_append.mp hm with hm | hm
    · exact h job hm
    · rw [List.mem_singleton.mp hm]
      exact hq

theorem Loads.updated (h : ix.Loads Q) (hQ : Inherited Q) (hq : Q items) :
    (ix.updated items).Loads Q :=
  updated_induct (P := fun ix' => ix'.Loads Q) h fun _ _ _ _ hp h => h.dispatchSome hQ (hQ.sublist hp hq)

theorem Loads.brought (h : ix.Loads Q) (hQ : Inherited Q) (hq : Q items) :
    (ix.brought items).Loads Q :=
  h.dispatchSome hQ (hQ.sublist (ix.unindexed_sublist items) hq)

theorem Loads.popped {job : FinishedJob} {rest : List FinishedJob} (h : ix.Loads Q)
    (hf : ix.worker.finished = job :: rest) : (ix.popped rest).Loads Q :=
  fun other hm => h other (mem_jobs_of_popped hf hm)

theorem Loads.delivered (h : ix.Loads Q) (hQ : Inherited Q) : ix.delivered.Loads Q := by
  rcases ix.delivered_cases with ⟨-, e⟩ | ⟨job, rest, hf, -⟩
  · rw [e]
    exact h
  · have hrest : (ix.popped rest).Loads Q := h.popped hf
    have hmet : (ix.popped rest).applying.met.Loads Q := hrest.of_jobs_eq jobs_met
    have hitems : Q job.items := h job.toJob.unmarked (mem_jobs_of_finished hf)
    obtain ⟨stage, summary, notifier, batchesApplied, resets, ho, e⟩ := delivered_outcome hf
    suffices hs : stage.Loads Q by
      rw [e]
      exact hs
    cases ho with
    | dropped hr hs =>
      subst hs
      exact hrest
    | taken hr hc hs =>
      subst hs
      exact hmet
    | again hr hc hs =>
      subst hs
      rw [resubmitted_eq]
      exact hmet.dispatchSome hQ (hQ.sublist List.filter_sublist hitems)

/-- **A step keeps what holds of the items of every job**, when it holds of the items it brings. -/
theorem Loads.after (h : ix.Loads Q) (hQ : Inherited Q) {s : Step} (hq : Q s.items) :
    (ix.after s).Loads Q := by
  cases s with
  | reset columns items => exact h.rebuilt hq
  | add items => exact h.brought hQ hq
  | update items => exact h.updated hQ hq
  | fullReload items => exact h.rebuilt hq
  | remove ids => exact h.of_jobs_eq (jobs_removed ids)
  | hideColumn i => exact h.of_jobs_eq (jobs_hidden i)
  | setSummaryShown shown => exact h.of_jobs_eq (jobs_summarised shown)
  | decorationReady id => exact h.of_jobs_eq rfl
  | subscribe => exact h.of_jobs_eq rfl
  | start => exact h.of_jobs_eq ix.worker.jobs_start
  | finish => exact h.of_jobs_eq ix.worker.jobs_finish
  | deliver => exact h.delivered hQ

/-! ## 3. Copies that jobs carry -/

/-- Jobs carry one copy of every item, and each copy has the property. -/
structure Carries (ix : Index) (P : Item → Prop) : Prop where
  distinct : ∀ job ∈ ix.jobs, (idsOf job.items).Nodup
  requested : ∀ job ∈ ix.jobs, ∀ item ∈ job.items, P item

/-- Jobs carry one copy of every item. -/
abbrev Distinct (ix : Index) : Prop := ix.Carries fun _ => True

variable {P : Item → Prop}

theorem inherited_nodup : Inherited fun items => (idsOf items).Nodup where
  sublist hp h := h.sublist (hp.map _)
  absorb h _ := nodup_idsOf_absorb h

theorem inherited_forall (P : Item → Prop) : Inherited fun items => ∀ item ∈ items, P item where
  sublist hp h item hm := h item (hp.subset hm)
  absorb h hn item hm := (mem_of_mem_absorb hm).elim (hn item) (h item)

theorem inherited_count (id : ItemId) : Inherited fun items => (idsOf items).count id ≤ 1 where
  sublist hp h := Nat.le_trans ((hp.map _).count_le id) h
  absorb h _ := Nat.le_trans (count_idsOf_absorb_le _ _ id) (Nat.max_le.mpr ⟨h, Nat.le_refl 1⟩)

theorem carries_iff : ix.Carries P ↔
    ix.Loads (fun items => (idsOf items).Nodup) ∧ ix.Loads (fun items => ∀ item ∈ items, P item) :=
  ⟨fun h => ⟨h.distinct, h.requested⟩, fun h => ⟨h.1, h.2⟩⟩

theorem carries_of_no_jobs (h : ix.jobs = []) : ix.Carries P :=
  carries_iff.mpr ⟨loads_of_no_jobs h, loads_of_no_jobs h⟩

/-- **A step whose copies have the property keeps it for all jobs.** -/
theorem Carries.after (h : ix.Carries P) {s : Step} (hd : (idsOf s.items).Nodup)
    (hp : ∀ item ∈ s.items, P item) : (ix.after s).Carries P := by
  obtain ⟨hdistinct, hrequested⟩ := carries_iff.mp h
  exact carries_iff.mpr ⟨hdistinct.after inherited_nodup hd, hrequested.after (inherited_forall P) hp⟩

theorem Distinct.after (h : ix.Distinct) {s : Step} (hd : (idsOf s.items).Nodup) :
    (ix.after s).Distinct :=
  Carries.after h hd fun _ _ => trivial

/-- **When no request carries an item twice, no job does.** -/
theorem Distinct.foldl_after (h : ix.Distinct) {steps : List Step}
    (hd : ∀ s ∈ steps, (idsOf s.items).Nodup) :
    (steps.foldl Index.after ix).Distinct :=
  List.foldlRecOn (motive := Distinct) steps Index.after h fun _ h s hs => Distinct.after h (hd s hs)

end MediaIndex.Index
