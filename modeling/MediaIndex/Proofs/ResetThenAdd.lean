import MediaIndex.Proofs.Schedule
import MediaIndex.Proofs.View.Resets

/-!
# Additions that a reset overtakes

Additions may be on their way when a reset is asked for. The reset takes the old collection away and not
what is on its way, so in the end the index shows what a new one does to which the reset comes first and
the additions after it. Jobs for the old columns are computed again, before or behind the rebuild.

* `delivered_eq_self` -- a delivery that takes no batch in changes nothing, when there is no rebuild;
* `Index.Gathered` -- additions were asked for since some state, and none was delivered;
* `Gathered.after`, `Gathered.foldl_after` -- what the jobs of several additions give together;
* `Gathered.converges_rebuilt` -- what a reset makes the index converge to;
* `reset_then_add` -- this is what a new index comes to, and one reset is told.
-/

namespace MediaIndex

/-- The step adds items, or nobody asks for it. -/
def Step.gathers : Step → Bool
  | .add _ => true
  | s => s.isInternal

namespace Index

variable {ix ix' ix₀ : Index} {items more : List Item} {columns : List Column} {id : ItemId}

/-! ## 1. The number of batches taken in -/

theorem batchesApplied_met : ix.met.batchesApplied = ix.batchesApplied := by
  unfold met
  split <;> rfl

theorem batchesApplied_dispatchSome (kind : JobKind) (items : List Item) :
    (ix.dispatchSome kind items).2.batchesApplied = ix.batchesApplied :=
  dispatchSome_induct (P := fun r => r.2.batchesApplied = _) (fun _ => rfl) rfl

theorem batchesApplied_takenIn (ix : Index) (job : FinishedJob) :
    (ix.takenIn job).batchesApplied = ix.batchesApplied := by
  by_cases hc : job.columns = ix.met.layout.keyColumns
  · obtain ⟨summary, notifier, resets, e⟩ := takenIn_of_fresh hc
    rw [e]
    exact batchesApplied_met
  · obtain ⟨summary, notifier, resets, e⟩ := takenIn_of_stale hc
    rw [e, resubmitted_eq]
    exact (batchesApplied_dispatchSome .add _).trans batchesApplied_met

/-- Of the deliveries, all are counted but those of rebuilds that a newer reset has replaced. -/
theorem batchesApplied_applied {job : FinishedJob} : (ix.applied job).batchesApplied =
    if ix.replaces job then ix.batchesApplied else ix.batchesApplied + 1 := by
  unfold applied
  split
  · rfl
  · exact congrArg (· + 1) (ix.applying.batchesApplied_takenIn job)

theorem batchesApplied_le_after {s : Step} (hs : s.gathers = true) :
    ix.batchesApplied ≤ (ix.after s).batchesApplied := by
  cases s with
  | add items => exact Nat.le_of_eq (batchesApplied_dispatchSome .add _).symm
  | start => exact Nat.le_refl _
  | finish => exact Nat.le_refl _
  | deliver =>
    rcases ix.delivered_cases with ⟨-, e⟩ | ⟨job, rest, -, e⟩
    · exact Nat.le_of_eq (congrArg batchesApplied e.symm)
    · have hcount : (ix.popped rest).batchesApplied ≤ ((ix.popped rest).applied job).batchesApplied := by
        rw [batchesApplied_applied]
        split
        · exact Nat.le_refl _
        · exact Nat.le_succ _
      exact Nat.le_trans hcount (Nat.le_of_eq (congrArg batchesApplied e.symm))
  | _ => cases hs

theorem batchesApplied_le_foldl_after {steps : List Step} (hs : ∀ s ∈ steps, s.gathers = true) :
    ix.batchesApplied ≤ (steps.foldl Index.after ix).batchesApplied := by
  induction steps generalizing ix with
  | nil => exact Nat.le_refl _
  | cons s steps ih =>
    have hfirst : ix.batchesApplied ≤ (ix.after s).batchesApplied :=
      batchesApplied_le_after (hs s List.mem_cons_self)
    exact Nat.le_trans hfirst (ih fun s' hm => hs s' (List.mem_cons_of_mem _ hm))

/-- While there is no rebuild, a delivery that is not counted finds nothing finished. -/
theorem delivered_eq_self (hk : ∀ job ∈ ix.jobs, job.kind ≠ .reset)
    (hc : ix.delivered.batchesApplied ≤ ix.batchesApplied) : ix.delivered = ix := by
  rcases ix.delivered_cases with ⟨-, e⟩ | ⟨job, rest, hf, e⟩
  · exact e
  · have hkind : job.kind ≠ .reset := hk job.toJob.unmarked (mem_jobs_of_finished hf)
    have hr : (ix.popped rest).replaces job = false := by
      unfold replaces
      rw [beq_eq_false_iff_ne.mpr hkind, Bool.false_and]
    have hcount : ix.delivered.batchesApplied = ix.batchesApplied + 1 := by
      rw [e, batchesApplied_applied, hr]
      rfl
    rw [hcount] at hc
    exact absurd hc (Nat.not_succ_le_self _)

/-! ## 2. Additions on their way -/

/-- The jobs carry the items that were added since some state, and nothing else has changed. -/
structure Gathered (ix₀ ix : Index) (items : List Item) : Prop where
  settled : ix.Settled
  kind_eq : ∀ job ∈ ix.jobs, job.kind = .add
  distinct : ∀ job ∈ ix.jobs, (idsOf job.items).Nodup
  unremoved : ∀ job ∈ ix.jobs, ∀ id ∈ idsOf job.items, ix.tombstones[id]? = none
  lastGiven_eq : ∀ columns id, ix.lastGiven columns id ix.jobs =
    ix.worker.grouper.keysIn columns items id
  store_eq : ix.store = ix₀.store
  layout_eq : ix.layout = ix₀.layout
  notifier_eq : ix.notifier = ix₀.notifier

/-- The steps add items that are new and different, and nobody asks for the others. -/
structure AddsNew (ix : Index) (steps : List Step) : Prop where
  gathers : ∀ s ∈ steps, s.gathers = true
  distinct : (idsOf (steps.flatMap Step.items)).Nodup
  unindexed : ∀ id ∈ idsOf (steps.flatMap Step.items), ix.store.indexes id = false

theorem gathered_of_idle (ho : ix.Orderly) (hi : ix.phase = .idle) : ix.Gathered ix [] := by
  have hnone {job : Job} (hm : job ∈ ix.jobs) : False := by
    rw [ho.jobs_eq_nil hi] at hm
    exact List.not_mem_nil hm
  refine ⟨settled_of_idle ho hi, fun _ hm => (hnone hm).elim, fun _ hm => (hnone hm).elim,
    fun _ hm => (hnone hm).elim, fun columns id => ?_, rfl, rfl, rfl⟩
  rw [ho.jobs_eq_nil hi, lastGiven_nil, Grouper.keysIn_eq_none_iff.mpr List.not_mem_nil]

/-- A move of the worker leaves the jobs with what they carry. -/
theorem Gathered.congr (h : ix₀.Gathered ix items) (hj : ix'.jobs = ix.jobs)
    (hg : ix'.worker.grouper = ix.worker.grouper) (ht : ix'.tombstones = ix.tombstones)
    (hr : ix'.resetting = ix.resetting) (hp : ix'.pendingColumns = ix.pendingColumns)
    (hs : ix'.store = ix.store) (hl : ix'.layout = ix.layout) (hn : ix'.notifier = ix.notifier) :
    ix₀.Gathered ix' items where
  settled := h.settled.congr hr hp hj (by rw [hl])
  kind_eq := hj ▸ h.kind_eq
  distinct := hj ▸ h.distinct
  unremoved := by
    rw [hj, ht]
    exact h.unremoved
  lastGiven_eq columns id := by
    rw [hj, hg, ← h.lastGiven_eq]
    exact lastGiven_congr fun job _ => given_congr hg fun _ => isTombstoned_congr (by rw [ht])
  store_eq := hs.trans h.store_eq
  layout_eq := hl.trans h.layout_eq
  notifier_eq := hn.trans h.notifier_eq

theorem Gathered.columns_eq (h : ix₀.Gathered ix items) {job : Job} (hm : job ∈ ix.jobs) :
    job.columns = ix₀.layout.keyColumns := by
  rw [h.settled.columns job hm, h.layout_eq]

/-- Additions are no rebuilds, so none is replaced. -/
theorem Gathered.awaits (h : ix₀.Gathered ix items) {job : Job} (hm : job ∈ ix.jobs) :
    ix'.awaits job = true := by
  unfold Index.awaits
  rw [h.kind_eq job hm]
  rfl

/-- Items that are handed over join those on their way. -/
theorem Gathered.dispatch (h : ix₀.Gathered ix items) (hd : (idsOf (items ++ more)).Nodup) :
    ix₀.Gathered (ix.dispatch .add more).2 (items ++ more) := by
  rw [idsOf_append] at hd
  obtain ⟨-, hmore, hdisjoint⟩ := List.nodup_append.mp hd
  refine ⟨h.settled.dispatch .add more, fun job hm => ?_, fun job hm => ?_, fun job hm id hid => ?_,
    fun columns id => ?_, h.store_eq, h.layout_eq, h.notifier_eq⟩
  · rcases ix.mem_jobs_dispatch .add more hm with hm | ⟨hk, -⟩
    · exact h.kind_eq job hm
    · exact hk
  · rcases ix.mem_jobs_dispatch .add more hm with hm | ⟨-, -, e | ⟨tail, ht, -, e⟩⟩
    · exact h.distinct job hm
    · exact e ▸ hmore
    · exact e ▸ nodup_idsOf_absorb (h.distinct tail ht)
  · rw [getElem?_tombstones_dispatch]
    split
    · rfl
    · rename_i hnot
      rcases ix.mem_jobs_dispatch .add more hm with hm | ⟨-, -, e | ⟨tail, ht, -, e⟩⟩
      · exact h.unremoved job hm id hid
      · exact absurd (e ▸ hid) hnot
      · rw [e] at hid
        exact h.unremoved tail ht id ((mem_idsOf_absorb.mp hid).resolve_right hnot)
  · rw [lastGiven_jobs_dispatch hmore fun job hm _ => h.distinct job hm, h.lastGiven_eq, grouper_dispatch,
      Grouper.keysIn_append fun hm hi => hdisjoint id hi id hm rfl]

theorem Gathered.brought (h : ix₀.Gathered ix items) (hd : (idsOf (items ++ more)).Nodup)
    (hn : ∀ id ∈ idsOf more, ix₀.store.indexes id = false) :
    ix₀.Gathered (ix.brought more) (items ++ more) := by
  have hall : ix.unindexed more = more :=
    h.settled.unindexed_eq_self fun id hm => h.store_eq ▸ hn id hm
  unfold Index.brought
  rw [hall]
  refine dispatchSome_induct (P := fun r => ix₀.Gathered r.2 (items ++ more)) (fun e => ?_) (h.dispatch hd)
  rw [e, List.append_nil]
  exact h

/-- **A step that takes no batch in adds its items to those on their way.** -/
theorem Gathered.after (h : ix₀.Gathered ix items) {s : Step} (hs : s.gathers = true)
    (hd : (idsOf (items ++ s.items)).Nodup) (hn : ∀ id ∈ idsOf s.items, ix₀.store.indexes id = false)
    (hw : (ix.after s).batchesApplied ≤ ix.batchesApplied) :
    ix₀.Gathered (ix.after s) (items ++ s.items) := by
  have hnone : items ++ [] = items := List.append_nil items
  cases s with
  | add more => exact h.brought hd hn
  | start =>
    exact hnone.symm ▸ h.congr ix.worker.jobs_start ix.worker.grouper_start rfl rfl rfl rfl rfl rfl
  | finish =>
    exact hnone.symm ▸ h.congr ix.worker.jobs_finish ix.worker.grouper_finish rfl rfl rfl rfl rfl rfl
  | deliver =>
    have hkind (job : Job) (hm : job ∈ ix.jobs) : job.kind ≠ .reset := by
      rw [h.kind_eq job hm]
      exact fun e => by cases e
    have he : ix.after .deliver = ix := delivered_eq_self hkind hw
    rw [he]
    exact hnone.symm ▸ h
  | _ => cases hs

/-- **Additions of different, new items give together what they give one by one.** -/
theorem Gathered.foldl_after (h : ix₀.Gathered ix items) {steps : List Step}
    (hs : ∀ s ∈ steps, s.gathers = true) (hd : (idsOf (items ++ steps.flatMap Step.items)).Nodup)
    (hn : ∀ id ∈ idsOf (steps.flatMap Step.items), ix₀.store.indexes id = false)
    (hw : (steps.foldl Index.after ix).batchesApplied ≤ ix.batchesApplied) :
    ix₀.Gathered (steps.foldl Index.after ix) (items ++ steps.flatMap Step.items) := by
  induction steps generalizing ix items with
  | nil =>
    rw [List.flatMap_nil, List.append_nil]
    exact h
  | cons s steps ih =>
    have hfirst : s.gathers = true := hs s List.mem_cons_self
    have hrest : ∀ s' ∈ steps, s'.gathers = true := fun s' hm => hs s' (List.mem_cons_of_mem _ hm)
    rw [List.flatMap_cons, ← List.append_assoc] at hd ⊢
    rw [List.flatMap_cons, idsOf_append] at hn
    have hd' : (idsOf (items ++ s.items)).Nodup := by
      rw [idsOf_append] at hd
      exact (List.nodup_append.mp hd).1
    -- the number of batches does not fall, so no step raises it
    have hstep : (ix.after s).batchesApplied ≤ ix.batchesApplied :=
      Nat.le_trans (batchesApplied_le_foldl_after hrest) hw
    have hsteps : (steps.foldl Index.after (ix.after s)).batchesApplied ≤ (ix.after s).batchesApplied :=
      Nat.le_trans hw (batchesApplied_le_after hfirst)
    have hnext : ix₀.Gathered (ix.after s) (items ++ s.items) :=
      h.after hfirst hd' (fun id hm => hn id (List.mem_append_left _ hm)) hstep
    exact ih hnext hrest hd (fun id hm => hn id (List.mem_append_right _ hm)) hsteps

/-- Additions to an idle index, of which no batch has been taken in yet. -/
theorem gathered_foldl_after (ho : ix.Orderly) (hi : ix.phase = .idle) {steps : List Step}
    (hs : ix.AddsNew steps) (hw : (steps.foldl Index.after ix).batchesApplied = ix.batchesApplied) :
    ix.Gathered (steps.foldl Index.after ix) (steps.flatMap Step.items) := by
  have h := (gathered_of_idle ho hi).foldl_after hs.gathers hs.distinct hs.unindexed (Nat.le_of_eq hw)
  rwa [List.nil_append] at h

/-! ## 3. The reset -/

/-- The keys of an item by its copies in a rebuild, or else by those added. -/
def restarted (g : Grouper) (columns : List Column) (rebuilt added : List Item) (id : ItemId) :
    Option KeySet :=
  (g.keysIn columns rebuilt id).or (g.keysIn columns added id)

/-- The rebuild that a reset asks for. -/
def rebuild (ix : Index) (columns : List Column) (items : List Item) : Job :=
  { ticket := ix.worker.lastTicket + 1, kind := .reset, columns := orUnclassified columns, items }

section Rebuilt

variable (hb : ix.isBare more = false)

include hb

theorem met_rebuilt (columns : List Column) : (ix.rebuilt columns more).met.store = {} ∧
    (ix.rebuilt columns more).met.layout = .ofColumns (orUnclassified columns) := by
  have hr : (ix.rebuilt columns more).resetting = true := by
    rw [rebuilt, hb]
    rfl
  have hp : (ix.rebuilt columns more).pendingColumns = some (orUnclassified columns) := by
    rw [rebuilt, hb]
    rfl
  rw [met_of_resetting hr, clear, hp]
  exact ⟨rfl, rfl⟩

/-- The rebuild gives the items it has, removed before or not. -/
theorem given_rebuild : (ix.rebuilt columns more).given (orUnclassified columns) id
    (ix.rebuild columns more) = ix.worker.grouper.keysIn (orUnclassified columns) more id := by
  by_cases hm : id ∈ idsOf more
  · have ht : (ix.rebuilt columns more).tombstones[id]? = none :=
      (getElem?_tombstones_rebuilt hb).trans (if_pos hm)
    rw [given, isTombstoned_eq_false ht, if_neg Bool.false_ne_true, grouper_rebuilt]
    rfl
  · rw [Grouper.keysIn_eq_none_iff.mpr hm]
    exact given_eq_none_iff.mpr fun h => absurd h hm

theorem awaits_rebuild : (ix.rebuilt columns more).awaits (ix.rebuild columns more) = true := by
  have hl : (ix.rebuilt columns more).latestReset = some (ix.rebuild columns more).ticket :=
    (jobs_rebuilt columns hb).2
  unfold awaits
  rw [bne_eq_false_iff_eq.mpr hl, Bool.and_false]
  rfl

/-- The additions before a reset give what they gave. -/
theorem Gathered.lastGiven_rebuilt (h : ix₀.Gathered ix items) :
    (ix.rebuilt columns more).lastGiven (orUnclassified columns) id ix.jobs =
      ix.worker.grouper.keysIn (orUnclassified columns) items id := by
  rw [← h.lastGiven_eq]
  refine lastGiven_congr fun job hm => given_congr (grouper_rebuilt columns more) fun hid => ?_
  have hold : ix.tombstones[id]? = none := h.unremoved job hm id hid
  refine isTombstoned_congr ?_
  rw [getElem?_tombstones_rebuilt hb, hold, ite_self]

/-- The additions before a reset are taken in when they were computed for its columns. -/
theorem Gathered.prompt_rebuilt (h : ix₀.Gathered ix items) : (ix.rebuilt columns more).prompt =
    ix.jobs.filter (·.columns == orUnclassified columns) ++ [ix.rebuild columns more] := by
  have hnew : (ix.rebuild columns more).columns = orUnclassified columns := rfl
  rw [prompt, (jobs_rebuilt columns hb).1, dispatchColumns_rebuilt hb, List.filter_append]
  refine congrArg₂ (· ++ ·) (List.filter_congr fun job hm => ?_) (List.filter_cons_of_pos ?_)
  · rw [h.awaits hm, Bool.true_and]
  · exact (congrArg₂ and (awaits_rebuild hb) (beq_iff_eq.mpr hnew)).trans (Bool.and_self true)

/-- They are submitted again when they were computed for others. -/
theorem Gathered.late_rebuilt (h : ix₀.Gathered ix items) : (ix.rebuilt columns more).late =
    ix.jobs.filter (·.columns != orUnclassified columns) := by
  have hnew : (ix.rebuild columns more).columns = orUnclassified columns := rfl
  rw [late, (jobs_rebuilt columns hb).1, dispatchColumns_rebuilt hb, List.filter_append]
  refine (congrArg₂ (· ++ ·) (List.filter_congr fun job hm => ?_) (List.filter_cons_of_neg ?_)).trans
    (List.append_nil _)
  · rw [h.awaits hm, Bool.true_and]
  · show ¬ (_ && (ix.rebuild columns more).columns != orUnclassified columns) = true
    rw [bne_eq_false_iff_eq.mpr hnew, Bool.and_false]
    exact Bool.false_ne_true

/-- **What the jobs promise after a reset.** Additions for the columns of the reset come before its
    rebuild, others after it; then they must not have an item in common. -/
theorem Gathered.promised_rebuilt (h : ix₀.Gathered ix items)
    (hover : orUnclassified columns = ix₀.layout.keyColumns ∨ ∀ id ∈ idsOf more, id ∉ idsOf items) :
    (ix.rebuilt columns more).promised id =
      restarted ix.worker.grouper (orUnclassified columns) more items id := by
  unfold promised restarted
  rw [dispatchColumns_rebuilt hb, h.prompt_rebuilt hb, h.late_rebuilt hb, lastGiven_append,
    lastGiven_singleton, given_rebuild hb]
  by_cases hc : orUnclassified columns = ix₀.layout.keyColumns
  · -- the additions are taken in before the rebuild
    have hsame (job : Job) (hm : job ∈ ix.jobs) : job.columns = orUnclassified columns :=
      (h.columns_eq hm).trans hc.symm
    have hall : ix.jobs.filter (·.columns == orUnclassified columns) = ix.jobs :=
      List.filter_eq_self.mpr fun job hm => beq_iff_eq.mpr (hsame job hm)
    have hnone : ix.jobs.filter (·.columns != orUnclassified columns) = [] := by
      refine List.filter_eq_nil_iff.mpr fun job hm => ?_
      rw [bne_eq_false_iff_eq.mpr (hsame job hm)]
      exact Bool.false_ne_true
    rw [hall, hnone, lastGiven_nil, Option.none_or, h.lastGiven_rebuilt hb]
  · -- the additions are computed again, and come behind the rebuild
    have hother (job : Job) (hm : job ∈ ix.jobs) : job.columns ≠ orUnclassified columns :=
      fun e => hc (e.symm.trans (h.columns_eq hm))
    have hall : ix.jobs.filter (·.columns != orUnclassified columns) = ix.jobs :=
      List.filter_eq_self.mpr fun job hm => bne_iff_ne.mpr (hother job hm)
    have hnone : ix.jobs.filter (·.columns == orUnclassified columns) = [] := by
      refine List.filter_eq_nil_iff.mpr fun job hm => ?_
      rw [beq_eq_false_iff_ne.mpr (hother job hm)]
      exact Bool.false_ne_true
    rw [hall, hnone, lastGiven_nil, Option.or_none, h.lastGiven_rebuilt hb]
    by_cases hm : id ∈ idsOf more
    · have hapart : id ∉ idsOf items := hover.resolve_left hc id hm
      rw [Grouper.keysIn_eq_none_iff.mpr hapart, Option.none_or, Option.or_none]
    · rw [Grouper.keysIn_eq_none_iff.mpr hm, Option.none_or, Option.or_none]

end Rebuilt

/-- **What a reset makes an index converge to** when additions are on their way: the items of the reset
    come first, and then those added. -/
theorem Gathered.converges_rebuilt (h : ix₀.Gathered ix items) (ho : ix.Orderly)
    (hover : orUnclassified columns = ix₀.layout.keyColumns ∨ ∀ id ∈ idsOf more, id ∉ idsOf items) :
    (ix.rebuilt columns more).Converges
      (restarted ix.worker.grouper (orUnclassified columns) more items)
      (.ofColumns (orUnclassified columns)) := by
  cases hb : ix.isBare more with
  | true =>
    have hjobs : ix.jobs = [] := ho.jobs_eq_nil_of_bare hb
    rw [rebuilt_of_bare hb]
    refine ⟨fun job hm => ?_, fun id => ?_, rfl⟩
    · have hm : job ∈ ix.jobs := hm
      rw [hjobs] at hm
      exact absurd hm List.not_mem_nil
    · have hitems : ix.worker.grouper.keysIn (orUnclassified columns) items id = none := by
        rw [← h.lastGiven_eq, hjobs, lastGiven_nil]
      have hnone : (ix.opened.adopting columns).clear.closed.jobs = [] := hjobs
      have hforecast : (ix.opened.adopting columns).clear.closed.forecast id = none :=
        forecast_of_no_jobs hnone rfl
      rw [hforecast, restarted, hitems, (isBare_iff.mp hb).1, Grouper.keysIn_eq_none_iff.mpr List.not_mem_nil]
      rfl
  | false =>
    obtain ⟨hstore, hlayout⟩ := met_rebuilt hb columns
    refine ⟨fun job hm => ?_, fun id => ?_, hlayout⟩
    · rw [(jobs_rebuilt columns hb).1] at hm
      rcases List.mem_append.mp hm with hm | hm
      · exact Or.inl (h.distinct job hm)
      · rw [List.mem_singleton.mp hm]
        exact Or.inr ⟨rfl, (dispatchColumns_rebuilt hb).symm⟩
    · rw [forecast, h.promised_rebuilt hb hover, hstore]
      exact Option.or_none

/-! ## 4. The reset before the additions, and after them -/

theorem restarted_nil {g : Grouper} : restarted g columns more [] id = g.keysIn columns more id := by
  have hnone : g.keysIn columns [] id = none := Grouper.keysIn_eq_none_iff.mpr List.not_mem_nil
  rw [restarted, hnone, Option.or_none]

theorem mem_of_restarted {g : Grouper} {keys : KeySet}
    (h : restarted g columns more items id = some keys) : id ∈ idsOf more ∨ id ∈ idsOf items := by
  rcases Option.or_eq_some_iff.mp h with hk | ⟨-, hk⟩
  · exact Or.inl (Grouper.mem_of_keysIn hk)
  · exact Or.inr (Grouper.mem_of_keysIn hk)

section Orders

variable {steps later moves : List Step}

/-- What is added to an idle index that has the items of a reset comes behind these. -/
theorem converges_brought_of_idle {g : Grouper} (ho : ix.Orderly) (hi : ix.phase = .idle)
    (hg : ix.worker.grouper = g) (hkeys : ∀ id, ix.store.keysOf[id]? = g.keysIn columns more id)
    (hlayout : ix.layout = .ofColumns columns) (hd : (idsOf items).Nodup) :
    (ix.brought items).Converges (restarted g columns more items) (.ofColumns columns) := by
  have hadd : JobKind.add ≠ .reset := fun e => by cases e
  have haims := (aims_of_idle ho hi).dispatchSome hadd
    (nodup_idsOf_filter hd fun item => !ix.store.indexes item.id)
  have hresult : (ix.shown.bring ix.worker.grouper
      (items.filter fun item => !ix.store.indexes item.id)).keys = restarted g columns more items := by
    funext id
    show (ix.worker.grouper.keysIn ix.layout.keyColumns _ id).or ix.store.keysOf[id]? = _
    rw [Grouper.keysIn_filter fun id => !ix.store.indexes id, Store.indexes_eq_isSome, hkeys, hlayout,
      hg, restarted]
    cases g.keysIn columns more id with
    | none => exact Option.or_none
    | some keys => rfl
  unfold brought
  rw [(settled_of_idle ho hi).unindexed, ← hresult, ← hlayout]
  exact haims.converges

/-- An idle index is reset, and when it is idle again items are added. -/
theorem converges_reset_add (ho : ix.Orderly) (hi : ix.phase = .idle) (columns : List Column)
    (more : List Item) (hm : ∀ s ∈ moves, s.isInternal = true)
    (hidle : ((Step.reset columns more :: moves).foldl Index.after ix).phase = .idle)
    (hd : (idsOf items).Nodup) (hl : ∀ s ∈ later, s.isInternal = true) :
    ((Step.add items :: later).foldl Index.after
        ((Step.reset columns more :: moves).foldl Index.after ix)).Converges
      (restarted ix.worker.grouper (orUnclassified columns) more items)
      (.ofColumns (orUnclassified columns)) := by
  have hreset : (ix.rebuilt columns more).Converges _ _ :=
    (gathered_of_idle ho hi).converges_rebuilt ho (Or.inr fun _ _ => List.not_mem_nil)
  have hafter := ho.foldl_after (.reset columns more :: moves)
  obtain ⟨hkeys, hlayout⟩ := (hreset.foldl_after (ho.rebuilt columns more) hm).of_idle hafter hidle
  have hg : ((Step.reset columns more :: moves).foldl Index.after ix).worker.grouper =
      ix.worker.grouper := grouper_foldl_after _
  have hfirst (id : ItemId) : ((Step.reset columns more :: moves).foldl Index.after ix).store.keysOf[id]? =
      ix.worker.grouper.keysIn (orUnclassified columns) more id := (hkeys id).trans restarted_nil
  exact (converges_brought_of_idle hafter hidle hg hfirst hlayout hd).foldl_after
    (hafter.after (.add items)) hl

/-- Additions to an idle index are overtaken by a reset. -/
theorem converges_add_reset (ho : ix.Orderly) (hi : ix.phase = .idle)
    (hs : ix.AddsNew steps) (hw : (steps.foldl Index.after ix).batchesApplied = ix.batchesApplied)
    (hover : orUnclassified columns = ix.layout.keyColumns ∨
      ∀ id ∈ idsOf more, id ∉ idsOf (steps.flatMap Step.items))
    (hl : ∀ s ∈ later, s.isInternal = true) :
    ((Step.reset columns more :: later).foldl Index.after (steps.foldl Index.after ix)).Converges
      (restarted ix.worker.grouper (orUnclassified columns) more (steps.flatMap Step.items))
      (.ofColumns (orUnclassified columns)) := by
  have hbefore := ho.foldl_after steps
  have hreset := (gathered_foldl_after ho hi hs hw).converges_rebuilt hbefore hover
  rw [grouper_foldl_after] at hreset
  exact hreset.foldl_after (hbefore.rebuilt columns more) hl

/-- Of the additions no reset is told, and one of the reset. -/
theorem hearsResets_add_reset (ho : ix.Orderly) (hi : ix.phase = .idle)
    (hs : ix.AddsNew steps) (hw : (steps.foldl Index.after ix).batchesApplied = ix.batchesApplied)
    (hl : ∀ s ∈ later, s.isInternal = true)
    (hidle : ((Step.reset columns more :: later).foldl Index.after
      (steps.foldl Index.after ix)).phase = .idle) :
    ix.HearsResets ((Step.reset columns more :: later).foldl Index.after (steps.foldl Index.after ix))
      Bracket.reset.pair := by
  have hbefore := ho.foldl_after steps
  have hadded : ix.HearsResets (steps.foldl Index.after ix) [] :=
    hearsResets_nil (gathered_foldl_after ho hi hs hw).notifier_eq
  have hasked := hearsResets_rebuilt hbefore.quiet.closed columns more
  have hdone := (hearsResets_foldl_after (hbefore.rebuilt columns more).quiet hl).1
  have hsettled := ((hbefore.rebuilt columns more).foldl_after later).resetting_eq_false hidle
  rw [hsettled] at hdone
  have htold := (hadded.trans hasked).trans hdone
  cases hr : ((steps.foldl Index.after ix).rebuilt columns more).resetting with
  | true =>
    rw [hr] at htold
    exact htold
  | false =>
    rw [hr] at htold
    exact htold

end Orders

/-- **A reset that overtakes additions comes to what it does when it is asked for first.** An index is
    idle after some run. Then new items are added in any number of requests, and before a batch of them
    is taken in a reset is asked for, which keeps the key columns or brings other items only. Once the
    index is idle, however the worker proceeds, it has the nodes and the keys of items of a new index to
    which the reset comes first and the additions after it. No other items are left, and the observers
    hear of one reset. -/
theorem reset_then_add (extractor : Extractor) (options options' : IndexOptions) {before early : List Step}
    {ix₀ ix : Index} (hb : (ofOptions extractor options).run before = .ok ix₀) (hi : ix₀.isIdle = true)
    (he : ix₀.run early = .ok ix) (hs : ix₀.AddsNew early)
    (hw : ix.batchesApplied = ix₀.batchesApplied) (columns : List Column) (items : List Item)
    (hover : orUnclassified columns = ix₀.layout.keyColumns ∨
      ∀ id ∈ idsOf items, id ∉ idsOf (early.flatMap Step.items))
    {later moves moves' : List Step} (hl : ∀ s ∈ later, s.isInternal = true)
    (hm : ∀ s ∈ moves, s.isInternal = true) (hm' : ∀ s ∈ moves', s.isInternal = true) :
    ∃ final fresh fresh', ix.run (.reset columns items :: later) = .ok final ∧
      (ofOptions extractor options').run (.reset columns items :: moves) = .ok fresh ∧
      fresh.run (.add (early.flatMap Step.items) :: moves') = .ok fresh' ∧
      (final.isIdle = true → fresh.isIdle = true → fresh'.isIdle = true →
        final.store.nodes = fresh'.store.nodes ∧ final.store.keysOf = fresh'.store.keysOf) ∧
      (final.isIdle = true →
        (∀ id, final.store.indexes id = true →
          id ∈ idsOf items ∨ id ∈ idsOf (early.flatMap Step.items)) ∧
        ix₀.HearsResets final Bracket.reset.pair) := by
  have hstart := orderly_ofOptions extractor options
  have hnew := orderly_ofOptions extractor options'
  rw [run_eq hstart.quiet] at hb
  cases hb
  have ho := hstart.foldl_after before
  have ha := (arranged_ofOptions extractor options).foldl_after hstart before
  have hg : (before.foldl Index.after (ofOptions extractor options)).worker.grouper = _ :=
    grouper_foldl_after before
  generalize before.foldl Index.after (ofOptions extractor options) = ix₀ at ho ha hi he hs hw hover hg ⊢
  have hidle : ix₀.phase = .idle := beq_iff_eq.mp hi
  rw [run_eq ho.quiet] at he
  cases he
  have hfinal := converges_add_reset ho hidle hs hw hover hl
  have hof := (ho.foldl_after early).foldl_after (.reset columns items :: later)
  have haf := (ha.foldl_after ho early).foldl_after (ho.foldl_after early) (.reset columns items :: later)
  have hos := hnew.foldl_after (.reset columns items :: moves)
  have has := (arranged_ofOptions extractor options').foldl_after hnew (.reset columns items :: moves)
  refine ⟨_, _, _, run_eq (ho.foldl_after early).quiet _, run_eq hnew.quiet _, run_eq hos.quiet _,
    fun hi₁ hi₂ hi₃ => ?_, fun hi₁ => ⟨fun id hid => ?_, ?_⟩⟩
  · have hfresh := converges_reset_add hnew rfl columns items hm (beq_iff_eq.mp hi₂) hs.distinct hm'
    rw [hg] at hfinal
    obtain ⟨hnodes, hkeys, -⟩ := hfresh.agree hfinal (hos.foldl_after _) hof (has.foldl_after hos _) haf
      (beq_iff_eq.mp hi₃) (beq_iff_eq.mp hi₁)
    exact ⟨hnodes, hkeys⟩
  · rw [Store.indexes_eq_isSome, (hfinal.of_idle hof (beq_iff_eq.mp hi₁)).1 id] at hid
    obtain ⟨keys, hkeys⟩ := Option.isSome_iff_exists.mp hid
    exact mem_of_restarted hkeys
  · exact hearsResets_add_reset ho hidle hs hw hl (beq_iff_eq.mp hi₁)

/-- An observer, and an item that is indexed over two columns. -/
def restartedBefore : List Step :=
  [.subscribe, .add [Item.withField ⟨1, ∅⟩ "artist" "A"], .start, .finish, .deliver]

/-- Three additions, the last of which joins the one before it. -/
def restartedAdditions : List Step :=
  [.add [Item.withField ⟨2, ∅⟩ "artist" "A"], .start, .add [Item.withField ⟨3, ∅⟩ "album" "X"],
    .add [Item.withField ⟨4, ∅⟩ "album" "Y"], .finish, .start]

/-- An item of the reset, which it has twice. -/
def restartedItems : List Item :=
  [Item.withField ⟨5, ∅⟩ "album" "X", Item.withField ⟨5, ∅⟩ "album" "Z"]

/-- The first addition clears the index, the others arrive before the rebuild, and all are computed
    again; some arrive behind it. -/
def restartedLater : List Step :=
  [.deliver, .finish, .deliver, .start, .finish, .deliver, .start, .finish, .deliver, .start, .finish,
    .deliver]

/-- Three additions are overtaken by a reset to another column, and one item is shown no longer. -/
theorem reset_then_add_restarted :
    let options : IndexOptions := { columns := [.ofField "artist" "Artist", .ofField "album" "Album"] }
    let start := restartedBefore.foldl after (ofOptions rawExtractor options)
    let added := restartedAdditions.foldl after start
    let reset := Step.reset [.ofField "album" "Album"] restartedItems
    start.isIdle = true ∧ start.AddsNew restartedAdditions ∧
      added.batchesApplied = start.batchesApplied ∧
      ∃ final fresh fresh', added.run (reset :: restartedLater) = .ok final ∧
        (ofOptions rawExtractor {}).run (reset :: [.start, .finish, .deliver]) = .ok fresh ∧
        fresh.run (.add (restartedAdditions.flatMap Step.items) :: [.start, .finish, .deliver]) =
          .ok fresh' ∧
        final.isIdle = true ∧ fresh.isIdle = true ∧ fresh'.isIdle = true ∧
        final.store.nodes = fresh'.store.nodes ∧ final.store.keysOf = fresh'.store.keysOf ∧
        (∀ id, final.store.indexes id = true →
          id ∈ idsOf restartedItems ∨ id ∈ idsOf (restartedAdditions.flatMap Step.items)) ∧
        start.HearsResets final Bracket.reset.pair := by
  intro options start added reset
  have hb := run_eq (quiet_ofOptions rawExtractor options) restartedBefore
  have ho : start.Orderly := (orderly_ofOptions rawExtractor options).foldl_after restartedBefore
  have ho' : added.Orderly := ho.foldl_after restartedAdditions
  have hi : start.isIdle = true := by decide +kernel
  have hnew : ((idsOf (restartedAdditions.flatMap Step.items)).all fun id => !start.store.indexes id) =
      true := by decide +kernel
  have hs : start.AddsNew restartedAdditions :=
    ⟨by decide, by decide, fun id hm => (Bool.not_eq_true' _).mp (List.all_eq_true.mp hnew id hm)⟩
  have hw : added.batchesApplied = start.batchesApplied := by decide +kernel
  have hdisjoint : ((idsOf restartedItems).all fun id =>
      !(idsOf (restartedAdditions.flatMap Step.items)).contains id) = true := by decide
  have hapart : ∀ id ∈ idsOf restartedItems, id ∉ idsOf (restartedAdditions.flatMap Step.items) :=
    fun id hid => by simpa using List.all_eq_true.mp hdisjoint id hid
  have hl : ∀ s ∈ restartedLater, s.isInternal = true := by decide
  have hm : ∀ s ∈ [Step.start, .finish, .deliver], s.isInternal = true := by decide
  obtain ⟨final, fresh, fresh', h₁, h₂, h₃, hsame, hone⟩ :=
    reset_then_add rawExtractor options {} hb hi (run_eq ho.quiet restartedAdditions) hs hw
      [.ofField "album" "Album"] restartedItems (Or.inr hapart) hl hm hm
  have e₁ := eq_foldl_after_of_run ho'.quiet h₁
  have e₂ := eq_foldl_after_of_run (quiet_ofOptions rawExtractor {}) h₂
  have hq : fresh.Quiet := e₂ ▸ ((orderly_ofOptions rawExtractor {}).foldl_after _).quiet
  have e₃ := eq_foldl_after_of_run hq h₃
  have hi₁ : final.isIdle = true := by
    rw [e₁]
    decide +kernel
  have hi₂ : fresh.isIdle = true := by
    rw [e₂]
    decide +kernel
  have hi₃ : fresh'.isIdle = true := by
    rw [e₃, e₂]
    decide +kernel
  obtain ⟨hnodes, hkeys⟩ := hsame hi₁ hi₂ hi₃
  obtain ⟨honly, hheard⟩ := hone hi₁
  exact ⟨hi, hs, hw, final, fresh, fresh', h₁, h₂, h₃, hi₁, hi₂, hi₃, hnodes, hkeys, honly, hheard⟩

end Index

end MediaIndex
