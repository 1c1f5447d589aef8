import MediaIndex.Proofs.View.Pairs

/-!
# What is told of resets

A reset is told by one pair of events, at the moment when the store is cleared for it. Whatever else is
told of rows, nodes and finished jobs neither begins nor ends a reset.

* `Index.HearsResets` -- what the observers hear of resets on the way from one index to another;
* `hearsResets_rebuilt` -- of a reset they hear when it is asked for, unless it is pending then;
* `hearsResets_delivered`, `hearsResets_foldl_after` -- of deliveries and the worker's moves they hear
  of a reset exactly when a pending one is carried out.
-/

namespace MediaIndex

theorem filter_ofReset_eq_nil_iff {events : List Event} :
    events.filter Event.ofReset = [] ↔ ∀ e ∈ events, e.ofReset = false := by
  simp only [List.filter_eq_nil_iff, Bool.not_eq_true]

namespace Index

variable {ix ix' ix'' : Index} {job : FinishedJob}

/-! ## 1. What observers hear of resets -/

/-- The events that begin or end a reset, of those that observers hear on the way. -/
def HearsResets (ix ix' : Index) (resets : List Event) : Prop :=
  ∃ events, ix.Hears ix' events ∧ events.filter Event.ofReset = resets

theorem hearsResets_nil (h : ix'.notifier = ix.notifier) : ix.HearsResets ix' [] := ⟨[], hears_nil h, rfl⟩

theorem HearsResets.trans {resets more : List Event} (h : ix.HearsResets ix' resets)
    (h' : ix'.HearsResets ix'' more) : ix.HearsResets ix'' (resets ++ more) := by
  obtain ⟨events, hh, rfl⟩ := h
  obtain ⟨events', hh', rfl⟩ := h'
  exact ⟨events ++ events', hh.trans hh', List.filter_append _ _⟩

/-- What observers hear of a pending reset, given whether it is still pending afterwards. -/
def resetTold (before after : Bool) : List Event := if before && !after then Bracket.reset.pair else []

theorem resetTold_self (pending : Bool) : resetTold pending pending = [] := by cases pending <;> rfl

/-- A reset that is no longer pending is told once on the way. -/
theorem resetTold_append {before mid after : Bool} (h : mid = true → before = true)
    (h' : after = true → mid = true) :
    resetTold before mid ++ resetTold mid after = resetTold before after := by
  cases mid with
  | true =>
    rw [h rfl]
    rfl
  | false =>
    have ha : after = false := eq_false_of_ne_true fun e => Bool.false_ne_true (h' e)
    rw [ha]
    exact List.append_nil _

/-! ## 2. Resets and jobs -/

/-- A reset that is asked for is told at once, unless it is pending then. -/
theorem hearsResets_rebuilt (hq : ix.notifier.current = none) (columns : List Column)
    (items : List Item) : ix.HearsResets (ix.rebuilt columns items)
      (if (ix.rebuilt columns items).resetting then [] else Bracket.reset.pair) := by
  cases hb : ix.isBare items with
  | true =>
    have hr : (ix.rebuilt columns items).resetting = false := by
      rw [rebuilt_of_bare hb]
      rfl
    rw [hr]
    exact ⟨_, hears_of_deliver (notifier_rebuilt_of_bare hq hb), rfl⟩
  | false =>
    rw [rebuilt, hb]
    exact hearsResets_nil rfl

/-- **Observers hear of a reset when a job clears the store for it**, and of none otherwise. -/
theorem hearsResets_applied (hq : ix.notifier.current = none) :
    ix.HearsResets (ix.applied job) (resetTold ix.resetting (ix.applied job).resetting) := by
  obtain ⟨own, hn, ⟨hr, hafter, rfl⟩ | ⟨hsame, ht⟩⟩ := notifier_applied hq job
  · rw [hr, hafter]
    exact ⟨_, hears_of_deliver hn, rfl⟩
  · rw [hsame, resetTold_self]
    refine ⟨_, hears_of_deliver hn, ?_⟩
    rw [List.filter_append, filter_ofReset_eq_nil_iff.mpr ht.ofReset_eq]
    rfl

theorem hearsResets_delivered (hq : ix.notifier.current = none) :
    ix.HearsResets ix.delivered (resetTold ix.resetting ix.delivered.resetting) := by
  rcases ix.delivered_cases with ⟨-, e⟩ | ⟨job, rest, -, e⟩
  · rw [e, resetTold_self]
    exact hearsResets_nil rfl
  · have hqp : (ix.popped rest).notifier.current = none := hq
    rw [e]
    exact hearsResets_applied hqp

/-- A delivery makes no reset pending. -/
theorem resetting_of_delivered (h : ix.delivered.resetting = true) : ix.resetting = true := by
  rcases ix.delivered_cases with ⟨-, e⟩ | ⟨job, rest, -, e⟩
  · rwa [e] at h
  · rw [e] at h
    unfold applied at h
    split at h
    · exact h
    · have hafter : (((ix.popped rest).applying.takenIn job).counted.concluded job).resetting = false :=
        (ix.popped rest).applying.resetting_takenIn job
      rw [hafter] at h
      cases h

/-- **What observers hear of resets while nothing is asked for**: of one, exactly when a pending reset
    is carried out. -/
theorem hearsResets_foldl_after (hq : ix.Quiet) {steps : List Step}
    (hs : ∀ s ∈ steps, s.isInternal = true) :
    ix.HearsResets (steps.foldl Index.after ix)
        (resetTold ix.resetting (steps.foldl Index.after ix).resetting) ∧
      ((steps.foldl Index.after ix).resetting = true → ix.resetting = true) := by
  induction steps generalizing ix with
  | nil =>
    rw [List.foldl_nil, resetTold_self]
    exact ⟨hearsResets_nil rfl, fun h => h⟩
  | cons s steps ih =>
    have hstep : ix.HearsResets (ix.after s) (resetTold ix.resetting (ix.after s).resetting) ∧
        ((ix.after s).resetting = true → ix.resetting = true) := by
      have hi := hs s List.mem_cons_self
      have hkeep : resetTold ix.resetting ix.resetting = [] := resetTold_self _
      cases s with
      | start => exact ⟨hkeep ▸ hearsResets_nil rfl, fun h => h⟩
      | finish => exact ⟨hkeep ▸ hearsResets_nil rfl, fun h => h⟩
      | deliver => exact ⟨hearsResets_delivered hq.closed, resetting_of_delivered⟩
      | _ => cases hi
    obtain ⟨hheard, hmono⟩ := ih (hq.after s) fun s' hm => hs s' (List.mem_cons_of_mem _ hm)
    have hboth := hstep.1.trans hheard
    rw [resetTold_append hstep.2 hmono] at hboth
    exact ⟨hboth, fun h => hstep.2 (hmono h)⟩

end Index

end MediaIndex
