import MediaIndex.Proofs.Index.Deliveries
import MediaIndex.Proofs.Index.Forecast

/-!
# The jobs that are taken in

Of the finished jobs that are delivered, those that a newer reset has replaced are dropped, and those
computed for other columns than the ones in force are submitted again. The others are taken in, and the
last of them that brings an item gives the item its keys, by all the copies it has of it.

* `Index.landing`, `Index.landings` -- the jobs taken in by one step, and by a run;
* `Grouper.lastKeys` -- the keys that the last of some jobs to bring an item gives it;
* `tombstones_after_eq_none` -- an item that is not removed is not remembered as removed;
* `metKeys_after`, `metKeys_foldl_after` -- the keys of an item after a step, and after a run;
* `Index.Uses`, `landings_eq_filter` -- the columns in force, and the jobs that a run takes in.
-/

namespace MediaIndex

/-! ## 1. The last of some jobs -/

namespace Grouper

variable {g : Grouper} {id : ItemId} {jobs more : List FinishedJob} {job : FinishedJob}

/-- The keys that the last of some jobs to bring the item gives it. -/
def lastKeys (g : Grouper) (jobs : List FinishedJob) (id : ItemId) : Option KeySet :=
  jobs.reverse.findSome? fun job => g.keysIn job.columns job.items id

theorem lastKeys_nil : g.lastKeys [] id = none := rfl

theorem lastKeys_append : g.lastKeys (jobs ++ more) id =
    (g.lastKeys more id).or (g.lastKeys jobs id) := by
  rw [lastKeys, List.reverse_append, List.findSome?_append]
  rfl

theorem lastKeys_singleton : g.lastKeys [job] id = g.keysIn job.columns job.items id := by
  rw [lastKeys, List.reverse_singleton, List.findSome?_singleton]

/-- A job that brings the item and has no such job behind it gives the item its keys. -/
theorem lastKeys_of_last {front back : List FinishedJob} (hm : id ∈ idsOf job.items)
    (hb : ∀ other ∈ back, id ∉ idsOf other.items) :
    g.lastKeys (front ++ job :: back) id = g.keysIn job.columns job.items id := by
  have hback : g.lastKeys back id = none :=
    List.findSome?_eq_none_iff.mpr fun other ho => keysIn_eq_none_iff.mpr (hb other (List.mem_reverse.mp ho))
  have hcons : g.lastKeys ([job] ++ back) id = g.keysIn job.columns job.items id := by
    rw [lastKeys_append, lastKeys_singleton, hback, Option.none_or]
  rw [lastKeys_append]
  show (g.lastKeys ([job] ++ back) id).or _ = _
  rw [hcons, keysIn_or_of_mem hm]

end Grouper

/-- The items that a step takes out. -/
def Step.removes : Step → List ItemId
  | remove ids => ids
  | _ => []

theorem Step.mem_mentions_of_removes {s : Step} {id : ItemId} (h : id ∈ s.removes) : id ∈ s.mentions := by
  cases s with
  | remove ids => exact h
  | _ => exact absurd h List.not_mem_nil

namespace Index

variable {ix : Index} {id : ItemId} {job : FinishedJob} {rest : List FinishedJob}

/-! ## 2. Jobs that are taken in -/

/-- The finished job that a step takes in, if it takes one in. -/
def landing (ix : Index) (s : Step) : List FinishedJob :=
  (ix.delivery s).filter fun job => !ix.replaces job && job.columns == ix.met.layout.keyColumns

/-- The finished jobs that some steps take in, one after another. -/
def landings (ix : Index) : List Step → List FinishedJob
  | [] => []
  | s :: steps => ix.landing s ++ (ix.after s).landings steps

theorem landing_of_dropped (hf : ix.worker.finished = job :: rest) (hr : ix.replaces job = true) :
    ix.landing .deliver = [] := by
  rw [landing, delivery_of_finished hf, List.filter_cons_of_neg, List.filter_nil]
  simp [hr]

theorem landing_of_taken (hf : ix.worker.finished = job :: rest) (hr : ix.replaces job = false)
    (hc : job.columns = ix.met.layout.keyColumns) : ix.landing .deliver = [job] := by
  rw [landing, delivery_of_finished hf, List.filter_cons_of_pos, List.filter_nil]
  simp [hr, hc]

theorem landing_of_again (hf : ix.worker.finished = job :: rest)
    (hc : job.columns ≠ ix.met.layout.keyColumns) : ix.landing .deliver = [] := by
  rw [landing, delivery_of_finished hf, List.filter_cons_of_neg, List.filter_nil]
  simp [hc]

/-! ## 3. Items that are not removed -/

theorem tombstones_dispatchSome_eq_none (ht : ix.tombstones[id]? = none) (kind : JobKind)
    (items : List Item) : (ix.dispatchSome kind items).2.tombstones[id]? = none := by
  refine dispatchSome_induct (P := fun r => r.2.tombstones[id]? = none) (fun _ => ht) ?_
  show (ix.dispatch kind items).2.tombstones[id]? = none
  rw [getElem?_tombstones_dispatch, ht, ite_self]

theorem tombstones_refreshSummary : ix.refreshSummary.tombstones = ix.tombstones := by
  obtain ⟨summary, notifier, e⟩ := ix.refreshSummary_eq
  rw [e]

theorem tombstones_delivered_eq_none (ht : ix.tombstones[id]? = none) :
    ix.delivered.tombstones[id]? = none := by
  rcases ix.delivered_cases with ⟨-, e⟩ | ⟨job, rest, hf, -⟩
  · rw [e, ht]
  · obtain ⟨stage, summary, notifier, batchesApplied, resets, hout, e⟩ := delivered_outcome hf
    have hmet : (ix.popped rest).applying.met.tombstones[id]? = none := by
      rw [tombstones_met]
      exact ht
    have hstage : stage.tombstones[id]? = none := by
      cases hout with
      | dropped hr hs =>
        subst hs
        exact ht
      | taken hr hc hs =>
        subst hs
        exact hmet
      | again hr hc hs =>
        subst hs
        rw [resubmitted_eq]
        exact tombstones_dispatchSome_eq_none hmet .add _
    rw [e]
    show (stage.tombstones.filter _)[id]? = none
    rw [Std.ExtTreeMap.getElem?_filter', hstage]
    rfl

/-- **An item is remembered as removed only when it has been removed.** -/
theorem tombstones_after_eq_none (ht : ix.tombstones[id]? = none) {s : Step} (hn : id ∉ s.removes) :
    (ix.after s).tombstones[id]? = none := by
  have hrebuilt (columns : List Column) (items : List Item) :
      (ix.rebuilt columns items).tombstones[id]? = none := by
    cases hb : ix.isBare items with
    | true =>
      rw [rebuilt_of_bare hb]
      exact ht
    | false => rw [getElem?_tombstones_rebuilt hb, ht, ite_self]
  cases s with
  | reset columns items => exact hrebuilt columns items
  | add items => exact tombstones_dispatchSome_eq_none ht .add _
  | update items =>
    exact updated_induct (P := fun ix' => ix'.tombstones[id]? = none) ht
      fun _ kind part _ _ h => tombstones_dispatchSome_eq_none h kind part
  | fullReload items => exact hrebuilt _ items
  | remove ids =>
    have hb : ((ix.buried ids).detached ids).tombstones[id]? = none := by
      show (ix.buried ids).tombstones[id]? = none
      rw [getElem?_tombstones_buried, if_neg fun h => hn h.2, ht]
    show (ix.removed ids).tombstones[id]? = none
    unfold removed
    split
    · exact hb
    · rw [tombstones_refreshSummary]
      exact hb
  | hideColumn i =>
    show (ix.hidden i).tombstones[id]? = none
    unfold hidden
    split
    · exact ht
    · rw [tombstones_refreshSummary]
      exact ht
  | setSummaryShown shown =>
    show (ix.summarised shown).tombstones[id]? = none
    unfold summarised
    split
    · exact ht
    · exact ht
  | deliver => exact tombstones_delivered_eq_none ht
  | _ => exact ht

/-! ## 4. The keys of an item -/

/-- The keys of an item in the store that the next job meets. -/
def metKeys (ix : Index) (id : ItemId) : Option KeySet := ix.met.store.keysOf[id]?

theorem metKeys_of_not_resetting (hr : ix.resetting = false) : ix.metKeys id = ix.store.keysOf[id]? := by
  rw [metKeys, met_of_not_resetting hr]

theorem metKeys_congr {ix' : Index} (hs : ix'.store.keysOf[id]? = ix.store.keysOf[id]?)
    (hr : ix'.resetting = ix.resetting) : ix'.metKeys id = ix.metKeys id := by
  unfold metKeys
  rw [store_met, store_met, hr]
  split
  · rfl
  · exact hs

theorem metKeys_dispatchSome (kind : JobKind) (items : List Item) :
    (ix.dispatchSome kind items).2.metKeys id = ix.metKeys id :=
  congrArg (fun s : Store => s.keysOf[id]?) store_met_dispatchSome

theorem metKeys_refreshSummary : ix.refreshSummary.metKeys id = ix.metKeys id := by
  obtain ⟨summary, notifier, e⟩ := ix.refreshSummary_eq
  rw [e]
  exact metKeys_congr rfl rfl

theorem metKeys_removed (hs : ix.store.Sound) {ids : List ItemId} (hn : id ∉ ids) :
    (ix.removed ids).metKeys id = ix.metKeys id := by
  have hd : ((ix.buried ids).detached ids).metKeys id = ix.metKeys id :=
    metKeys_congr ((Store.getElem?_keysOf_detach hs).trans (if_neg hn)) rfl
  unfold removed
  split
  · exact hd
  · rw [metKeys_refreshSummary, hd]

theorem metKeys_hidden (i : Nat) : (ix.hidden i).metKeys id = ix.metKeys id := by
  unfold hidden
  split
  · rfl
  · rw [metKeys_refreshSummary]
    exact metKeys_congr rfl rfl

/-- A delivered job gives the item its keys when it is taken in and brings the item. -/
theorem metKeys_delivered (ho : ix.Coherent) (ht : ix.tombstones[id]? = none) :
    ix.delivered.metKeys id =
      (ix.worker.grouper.lastKeys (ix.landing .deliver) id).or (ix.metKeys id) := by
  rcases ix.delivered_cases with ⟨hf, e⟩ | ⟨job, rest, hf, -⟩
  · rw [e, landing, delivery_of_none hf]
    rfl
  · obtain ⟨stage, summary, notifier, batchesApplied, resets, hout, e⟩ := delivered_outcome hf
    have hstage : ix.delivered.metKeys id = stage.metKeys id := by
      rw [e]
      exact metKeys_congr rfl rfl
    have hmet : (ix.popped rest).applying.met.metKeys id = ix.metKeys id := by
      rw [metKeys_of_not_resetting resetting_met, met_applying, met_popped]
      rfl
    rw [hstage]
    cases hout with
    | dropped hr hs =>
      subst hs
      rw [landing_of_dropped hf hr, Grouper.lastKeys_nil, Option.none_or]
      exact metKeys_congr rfl rfl
    | taken hr hc hs =>
      subst hs
      have hb : job.batch = (ix.popped rest).worker.grouper.compute job.items job.columns :=
        ho.worker.batch_eq job (hf ▸ List.mem_cons_self)
      have hgiven : (ix.popped rest).given job.columns id job.toJob.unmarked =
          ix.worker.grouper.keysIn job.columns job.items id := by
        have hn : (ix.popped rest).isTombstoned id job.toJob.unmarked.ticket = false :=
          isTombstoned_eq_false ht _
        rw [given, hn, if_neg Bool.false_ne_true]
        rfl
      have hc' : job.columns = ix.met.layout.keyColumns := by
        rw [met_popped] at hc
        exact hc
      have hstore : (ix.popped rest).met.store = ix.met.store := by
        rw [met_popped]
        rfl
      rw [landing_of_taken hf hr hc', Grouper.lastKeys_singleton, ← hgiven]
      refine Eq.trans (metKeys_of_not_resetting ?_) ?_
      · exact resetting_met
      · show ((ix.popped rest).met.store.take _ _).keysOf[id]? = _
        rw [hstore, keysOf_take_wanted ho.store_met hb]
        rfl
    | again hr hc hs =>
      subst hs
      have hc' : job.columns ≠ ix.met.layout.keyColumns := by
        rw [met_popped] at hc
        exact hc
      rw [landing_of_again hf hc', Grouper.lastKeys_nil, Option.none_or, resubmitted_eq,
        metKeys_dispatchSome, hmet]

/-- **A step changes the keys of an item only by a job that it takes in**, unless it replaces the
    collection or removes the item. -/
theorem metKeys_after (ho : ix.Orderly) (ht : ix.tombstones[id]? = none) {s : Step}
    (hr : s.isReset = false) (hn : id ∉ s.removes) :
    (ix.after s).metKeys id = (ix.worker.grouper.lastKeys (ix.landing s) id).or (ix.metKeys id) := by
  cases s with
  | reset columns items => cases hr
  | fullReload items => cases hr
  | add items => exact metKeys_dispatchSome .add _
  | update items =>
    exact updated_induct (P := fun ix' => ix'.metKeys id = ix.metKeys id) rfl
      fun _ kind part _ _ h => (metKeys_dispatchSome kind part).trans h
  | remove ids => exact metKeys_removed ho.store hn
  | hideColumn i => exact metKeys_hidden i
  | setSummaryShown shown =>
    show (ix.summarised shown).metKeys id = ix.metKeys id
    unfold summarised
    split
    · rfl
    · exact metKeys_congr rfl rfl
  | deliver => exact metKeys_delivered ho.toCoherent ht
  | _ => exact metKeys_congr rfl rfl

/-- **After a run the item has the keys that the last job taken in to bring it gave it**, or those it
    had, unless a step replaces the collection or removes the item. -/
theorem metKeys_foldl_after (ho : ix.Orderly) (ht : ix.tombstones[id]? = none) {steps : List Step}
    (hr : ∀ s ∈ steps, s.isReset = false) (hn : ∀ s ∈ steps, id ∉ s.removes) :
    (steps.foldl Index.after ix).metKeys id =
      (ix.worker.grouper.lastKeys (ix.landings steps) id).or (ix.metKeys id) := by
  induction steps generalizing ix with
  | nil => rfl
  | cons s steps ih =>
    have hrs := hr s List.mem_cons_self
    have hns := hn s List.mem_cons_self
    have hrest := ih (ho.after s) (tombstones_after_eq_none ht hns)
      (fun s' hs => hr s' (List.mem_cons_of_mem _ hs)) fun s' hs => hn s' (List.mem_cons_of_mem _ hs)
    rw [List.foldl_cons, hrest, metKeys_after ho ht hrs hns, grouper_after, landings,
      Grouper.lastKeys_append, Option.or_assoc]

/-! ## 5. The columns in force -/

/-- No reset is pending, and keys are computed over the columns. -/
def Uses (ix : Index) (columns : List Column) : Prop :=
  ix.resetting = false ∧ ix.layout.keyColumns = columns

variable {columns : List Column}

theorem Uses.dispatchSome (h : ix.Uses columns) (kind : JobKind) (items : List Item) :
    (ix.dispatchSome kind items).2.Uses columns :=
  dispatchSome_induct (P := fun r => r.2.Uses columns) (fun _ => h) h

theorem Uses.refreshSummary (h : ix.Uses columns) : ix.refreshSummary.Uses columns := by
  obtain ⟨summary, notifier, e⟩ := ix.refreshSummary_eq
  rw [e]
  exact h

/-- A job that has not been replaced ends a pending reset, and its columns come in force. -/
theorem uses_delivered (hf : ix.worker.finished = job :: rest) (hr : ix.replaces job = false) :
    ix.delivered.Uses ix.met.layout.keyColumns ∧ ix.delivered.latestReset = ix.latestReset := by
  obtain ⟨stage, summary, notifier, batchesApplied, resets, hout, e⟩ := delivered_outcome hf
  have hmet : (ix.popped rest).applying.met.Uses ix.met.layout.keyColumns := by
    refine ⟨resetting_met, ?_⟩
    rw [met_applying, met_popped]
    rfl
  have hlatest : (ix.popped rest).applying.met.latestReset = ix.latestReset := latestReset_met
  rw [e]
  cases hout with
  | dropped hr' hs =>
    have hr' : ix.replaces job = true := hr'
    rw [hr] at hr'
    cases hr'
  | taken hr' hc hs =>
    subst hs
    exact ⟨hmet, hlatest⟩
  | again hr' hc hs =>
    subst hs
    rw [resubmitted_eq]
    exact dispatchSome_induct (P := fun r => r.2.Uses _ ∧ r.2.latestReset = _)
      (fun _ => ⟨hmet, hlatest⟩) ⟨hmet, hlatest⟩

/-- A rebuild that has been replaced changes nothing of this. -/
theorem uses_delivered_iff_of_replaced (hf : ix.worker.finished = job :: rest) (hr : ix.replaces job = true) :
    (∀ columns, ix.delivered.Uses columns ↔ ix.Uses columns) ∧
      ix.delivered.latestReset = ix.latestReset := by
  obtain ⟨stage, summary, notifier, batchesApplied, resets, hout, e⟩ := delivered_outcome hf
  rw [e]
  cases hout with
  | dropped hr' hs =>
    subst hs
    exact ⟨fun _ => Iff.rfl, rfl⟩
  | taken hr' hc hs =>
    have hr' : ix.replaces job = false := hr'
    rw [hr] at hr'
    cases hr'
  | again hr' hc hs =>
    have hr' : ix.replaces job = false := hr'
    rw [hr] at hr'
    cases hr'

theorem Uses.delivered (h : ix.Uses columns) : ix.delivered.Uses columns := by
  rcases ix.delivered_cases with ⟨-, e⟩ | ⟨job, rest, hf, -⟩
  · rw [e]
    exact h
  · cases hr : ix.replaces job with
    | true => exact ((uses_delivered_iff_of_replaced hf hr).1 columns).mpr h
    | false =>
      have hu := (uses_delivered hf hr).1
      rw [met_of_not_resetting h.1, h.2] at hu
      exact hu

/-- **Only a reset changes the columns that keys are computed over.** -/
theorem Uses.after (h : ix.Uses columns) {s : Step} (hr : s.isReset = false) : (ix.after s).Uses columns := by
  cases s with
  | reset columns items => cases hr
  | fullReload items => cases hr
  | add items => exact h.dispatchSome .add _
  | update items =>
    exact updated_induct (P := fun ix' => ix'.Uses columns) h
      fun _ kind part _ _ h => h.dispatchSome kind part
  | remove ids =>
    show (ix.removed ids).Uses columns
    unfold removed
    split
    · exact h
    · exact Uses.refreshSummary h
  | hideColumn i =>
    show (ix.hidden i).Uses columns
    unfold hidden
    split
    · exact h
    · exact Uses.refreshSummary h
  | setSummaryShown shown =>
    show (ix.summarised shown).Uses columns
    unfold summarised
    split
    · exact h
    · exact h
  | deliver => exact h.delivered
  | _ => exact h

theorem Uses.foldl_after (h : ix.Uses columns) {steps : List Step} (hr : ∀ s ∈ steps, s.isReset = false) :
    (steps.foldl Index.after ix).Uses columns :=
  List.foldlRecOn (motive := fun ix' : Index => ix'.Uses columns) steps Index.after h
    fun _ h s hs => h.after (hr s hs)

theorem latestReset_dispatchSome (kind : JobKind) (items : List Item) :
    (ix.dispatchSome kind items).2.latestReset = ix.latestReset :=
  dispatchSome_induct (P := fun r => r.2.latestReset = _) (fun _ => rfl) rfl

theorem latestReset_refreshSummary : ix.refreshSummary.latestReset = ix.latestReset := by
  obtain ⟨summary, notifier, e⟩ := ix.refreshSummary_eq
  rw [e]

theorem latestReset_after {s : Step} (hr : s.isReset = false) :
    (ix.after s).latestReset = ix.latestReset := by
  cases s with
  | reset columns items => cases hr
  | fullReload items => cases hr
  | add items => exact latestReset_dispatchSome .add _
  | update items =>
    exact updated_induct (P := fun ix' => ix'.latestReset = ix.latestReset) rfl
      fun _ kind part _ _ h => (latestReset_dispatchSome kind part).trans h
  | remove ids =>
    show (ix.removed ids).latestReset = _
    unfold removed
    split
    · rfl
    · exact latestReset_refreshSummary
  | hideColumn i =>
    show (ix.hidden i).latestReset = _
    unfold hidden
    split
    · rfl
    · exact latestReset_refreshSummary
  | setSummaryShown shown =>
    show (ix.summarised shown).latestReset = _
    unfold summarised
    split <;> rfl
  | deliver =>
    show ix.delivered.latestReset = _
    rcases ix.delivered_cases with ⟨-, e⟩ | ⟨job, rest, hf, -⟩
    · rw [e]
    · cases hr : ix.replaces job with
      | true => exact (uses_delivered_iff_of_replaced hf hr).2
      | false => exact (uses_delivered hf hr).2
  | _ => rfl

theorem latestReset_foldl_after {steps : List Step} (hr : ∀ s ∈ steps, s.isReset = false) :
    (steps.foldl after ix).latestReset = ix.latestReset :=
  List.foldlRecOn (motive := fun ix' : Index => ix'.latestReset = ix.latestReset) steps after rfl
    fun _ h s hs => (latestReset_after (hr s hs)).trans h

/-- **The columns that a job meets are in force from then on**, unless it is a replaced rebuild. -/
theorem keyColumns_of_delivery {s : Step} {steps : List Step} (hr : ∀ s ∈ steps, s.isReset = false)
    (hm : job ∈ ix.delivery s) (hrep : ix.replaces job = false) :
    (steps.foldl after (ix.after s)).layout.keyColumns = ix.met.layout.keyColumns := by
  obtain ⟨rfl, rest, hf⟩ := mem_delivery hm
  exact ((uses_delivered hf hrep).1.foldl_after hr).2

/-- **A run without a reset takes in the delivered jobs that have not been replaced and were computed
    for the columns in force in the end.** -/
theorem landings_eq_filter {steps : List Step} (hr : ∀ s ∈ steps, s.isReset = false) :
    ix.landings steps = (ix.deliveries steps).filter fun job =>
      !ix.replaces job && job.columns == (steps.foldl after ix).layout.keyColumns := by
  induction steps generalizing ix with
  | nil => rfl
  | cons s steps ih =>
    have hs := hr s List.mem_cons_self
    have hsteps : ∀ s ∈ steps, s.isReset = false := fun s' hm => hr s' (List.mem_cons_of_mem _ hm)
    have hreplaces : (ix.after s).replaces = ix.replaces := by
      funext job
      rw [replaces, latestReset_after hs, replaces]
    rw [landings, deliveries, List.filter_append, ih hsteps, hreplaces, List.foldl_cons, landing]
    refine congrArg (· ++ _) (List.filter_congr fun job hm => ?_)
    cases hrep : ix.replaces job with
    | true => rfl
    | false => rw [keyColumns_of_delivery hsteps hm hrep]

end Index

end MediaIndex
