import MediaIndex.Proofs.Convergence

/-!
# Runs that differ in the worker's schedule

Requests that change a collection step by step have an outcome of their own: what the index shows once
it is idle does not depend on how the worker proceeded meanwhile, on when finished jobs were delivered,
or on which requests joined one job.

* `Target`, `Step.act` -- what is shown in the end, and what a request changes of it;
* `Index.Settled` -- no reset is pending and every job was computed for the columns in force;
* `Index.Aims`, `Aims.after` -- the index comes to a target, and a step changes the target as it should;
* `Incremental` -- requests without a reset, of which additions bring new items only;
* `schedules_agree` -- two runs of the same requests show the same in the end.
-/

namespace MediaIndex

/-! ## 1. What is shown in the end -/

/-- What an index shows when nothing is outstanding, but for the order of the rows. -/
structure Target where
  keys : ItemId → Option KeySet
  layout : Layout
  showSummary : Bool

namespace Target

/-- The items get the keys of their copies. -/
def bring (t : Target) (g : Grouper) (items : List Item) : Target :=
  { t with keys := fun id => (g.keysIn t.layout.keyColumns items id).or (t.keys id) }

/-- The items lose their keys. -/
def remove (t : Target) (ids : List ItemId) : Target :=
  { t with keys := fun id => if id ∈ ids then none else t.keys id }

/-- A column is no longer shown, if there is one at this place. -/
def hideColumn (t : Target) (i : Nat) : Target :=
  match t.layout.columns[i]? with
  | none => t
  | some _ => { t with layout := t.layout.hide i }

end Target

/-- What a step that replaces no collection changes of what is shown in the end. Items that are added
    are new, and so are treated as if they had changed. -/
def Step.act (g : Grouper) (t : Target) : Step → Target
  | .add items | .update items => t.bring g items
  | .remove ids => t.remove ids
  | .hideColumn i => t.hideColumn i
  | .setSummaryShown shown => { t with showSummary := shown }
  | _ => t

/-- The items that a step adds. -/
def Step.added : Step → List Item
  | .add items => items
  | _ => []

/-- What is asked for among some steps. -/
def requestsOf (steps : List Step) : List Step := steps.filter (!·.isInternal)

/-- Requests that change a collection step by step, given the keys that items have before: none replaces
    the collection or brings an item twice, and items that are added have no keys before and are named
    by no earlier request. -/
structure Incremental (keys : ItemId → Option KeySet) (requests : List Step) : Prop where
  not_reset : ∀ s ∈ requests, s.isReset = false
  distinct : ∀ s ∈ requests, (idsOf s.items).Nodup
  unknown : ∀ s ∈ requests, ∀ id ∈ idsOf s.added, keys id = none
  unnamed : requests.Pairwise fun s later => ∀ id ∈ idsOf later.added, id ∉ s.mentions

section Act

variable {g : Grouper} {t : Target} {s : Step} {id : ItemId} {steps : List Step}

theorem Step.act_of_isInternal (h : s.isInternal = true) : s.act g t = t := by
  cases s with
  | start => rfl
  | finish => rfl
  | deliver => rfl
  | _ => cases h

theorem Step.mentions_of_isInternal (h : s.isInternal = true) : s.mentions = [] := by
  cases s with
  | start => rfl
  | finish => rfl
  | deliver => rfl
  | _ => cases h

theorem Step.items_of_isInternal (h : s.isInternal = true) : s.items = [] := by
  cases s with
  | start => rfl
  | finish => rfl
  | deliver => rfl
  | _ => cases h

/-- What is added is named. -/
theorem Step.mem_mentions_of_added (h : id ∈ idsOf s.added) : id ∈ s.mentions := by
  cases s with
  | add items => exact h
  | _ => exact absurd h List.not_mem_nil

theorem Target.keys_bring {items : List Item} (h : id ∉ idsOf items) :
    (t.bring g items).keys id = t.keys id := by
  show (g.keysIn t.layout.keyColumns items id).or (t.keys id) = t.keys id
  rw [Grouper.keysIn_eq_none_iff.mpr h, Option.none_or]

/-- Bringing the items of some sort and then the others comes to bringing them all. -/
theorem Target.bring_filter (p : ItemId → Bool) (items : List Item) :
    (t.bring g (items.filter fun item => p item.id)).bring g (items.filter fun item => !p item.id) =
      t.bring g items := by
  unfold bring
  refine congrArg (Target.mk · t.layout t.showSummary) (funext fun id => ?_)
  show (g.keysIn t.layout.keyColumns _ id).or ((g.keysIn t.layout.keyColumns _ id).or (t.keys id)) = _
  rw [Grouper.keysIn_filter p, Grouper.keysIn_filter fun id => !p id]
  cases p id with
  | true => rw [Bool.not_true, if_neg Bool.false_ne_true, if_pos rfl, Option.none_or]
  | false => rw [Bool.not_false, if_pos rfl, if_neg Bool.false_ne_true, Option.none_or]

theorem Target.keys_hideColumn (i : Nat) : (t.hideColumn i).keys = t.keys := by
  unfold hideColumn
  split <;> rfl

/-- Only the items that a step names get other keys by it. -/
theorem Step.keys_act (h : id ∉ s.mentions) : (s.act g t).keys id = t.keys id := by
  cases s with
  | add items => exact Target.keys_bring h
  | update items => exact Target.keys_bring h
  | remove ids => exact if_neg h
  | hideColumn i => exact congrFun (Target.keys_hideColumn i) id
  | _ => rfl

/-- What nobody asks for changes nothing of what is shown in the end. -/
theorem foldl_act_requestsOf (steps : List Step) :
    (requestsOf steps).foldl (Step.act g) t = steps.foldl (Step.act g) t := by
  induction steps generalizing t with
  | nil => rfl
  | cons s steps ih =>
    unfold requestsOf at ih ⊢
    cases hs : s.isInternal with
    | true =>
      rw [List.filter_cons_of_neg (by rw [hs]; exact Bool.false_ne_true), ih, List.foldl_cons,
        Step.act_of_isInternal hs]
    | false => rw [List.filter_cons_of_pos (by rw [hs]; rfl), List.foldl_cons, ih, List.foldl_cons]

/-- After a request the others still change the collection step by step. -/
theorem Incremental.tail (h : Incremental t.keys (s :: steps)) : Incremental (s.act g t).keys steps where
  not_reset s' hs := h.not_reset s' (List.mem_cons_of_mem _ hs)
  distinct s' hs := h.distinct s' (List.mem_cons_of_mem _ hs)
  unknown s' hs id hid := by
    rw [Step.keys_act ((List.pairwise_cons.mp h.unnamed).1 s' hs id hid)]
    exact h.unknown s' (List.mem_cons_of_mem _ hs) id hid
  unnamed := (List.pairwise_cons.mp h.unnamed).2

/-- So do the steps of which they are the requests. -/
theorem Incremental.of_requestsOf {keys : ItemId → Option KeySet}
    (h : Incremental keys (requestsOf steps)) : Incremental keys steps := by
  have hmem {s : Step} (hs : s ∈ steps) (hm : ∃ id, id ∈ s.mentions) : s ∈ requestsOf steps := by
    obtain ⟨id, hid⟩ := hm
    refine List.mem_filter.mpr ⟨hs, ?_⟩
    cases hi : s.isInternal with
    | true =>
      rw [Step.mentions_of_isInternal hi] at hid
      exact absurd hid List.not_mem_nil
    | false => rfl
  refine ⟨fun s hs => ?_, fun s hs => ?_, fun s hs id hid => ?_, ?_⟩
  · cases hi : s.isInternal with
    | true => cases s with | start => rfl | finish => rfl | deliver => rfl | _ => cases hi
    | false => exact h.not_reset s (List.mem_filter.mpr ⟨hs, by rw [hi]; rfl⟩)
  · by_cases hm : ∃ id, id ∈ idsOf s.items
    · obtain ⟨id, hid⟩ := hm
      obtain ⟨item, hi, rfl⟩ := mem_idsOf.mp hid
      exact h.distinct s (hmem hs ⟨_, Step.mem_mentions hi⟩)
    · rw [List.eq_nil_iff_forall_not_mem.mpr fun id hid => hm ⟨id, hid⟩]
      exact List.nodup_nil
  · exact h.unknown s (hmem hs ⟨id, Step.mem_mentions_of_added hid⟩) id hid
  · refine (List.pairwise_filter.mp h.unnamed).imp_of_mem fun {s later} hs hl hp id hid hm => ?_
    exact hp (List.mem_filter.mp (hmem hs ⟨id, hm⟩)).2
      (List.mem_filter.mp (hmem hl ⟨id, Step.mem_mentions_of_added hid⟩)).2 id hid hm

end Act

namespace Index

variable {ix ix' : Index} {t : Target} {kind : JobKind} {items : List Item}

/-! ## 2. Without a reset -/

/-- No reset is pending, and all jobs were computed for the columns in force. -/
structure Settled (ix : Index) : Prop where
  resetting : ix.resetting = false
  pending : ix.pendingColumns = none
  columns : ∀ job ∈ ix.jobs, job.columns = ix.layout.keyColumns

theorem Settled.congr (h : ix.Settled) (hr : ix'.resetting = ix.resetting)
    (hp : ix'.pendingColumns = ix.pendingColumns) (hj : ix'.jobs = ix.jobs)
    (hk : ix'.layout.keyColumns = ix.layout.keyColumns) : ix'.Settled where
  resetting := hr.trans h.resetting
  pending := hp.trans h.pending
  columns := by
    rw [hj, hk]
    exact h.columns

theorem Settled.dispatchColumns (h : ix.Settled) : ix.dispatchColumns = ix.layout.keyColumns := by
  rw [Index.dispatchColumns, h.pending, Option.getD_none]

theorem Settled.met (h : ix.Settled) : ix.met = ix := met_of_not_resetting h.resetting

/-- No job will be submitted again. -/
theorem Settled.late (h : ix.Settled) : ix.late = [] := by
  refine List.filter_eq_nil_iff.mpr fun job hm => ?_
  rw [h.dispatchColumns, bne_eq_false_iff_eq.mpr (h.columns job hm), Bool.and_false]
  exact Bool.false_ne_true

theorem settled_of_idle (ho : ix.Orderly) (hi : ix.phase = .idle) : ix.Settled where
  resetting := ho.resetting_eq_false hi
  pending := ho.pendingColumns_eq_none (ho.resetting_eq_false hi)
  columns job hm := by
    rw [ho.jobs_eq_nil hi] at hm
    exact absurd hm List.not_mem_nil

theorem Settled.unindexed (h : ix.Settled) :
    ix.unindexed items = items.filter fun item => !ix.store.indexes item.id := by
  rw [Index.unindexed, h.resetting, if_neg Bool.false_ne_true]

/-- Items that are new are handed over as they are. -/
theorem Settled.unindexed_eq_self (h : ix.Settled)
    (hn : ∀ id ∈ idsOf items, ix.store.indexes id = false) : ix.unindexed items = items := by
  rw [h.unindexed, List.filter_eq_self]
  intro item hm
  rw [hn item.id (mem_idsOf_of_mem hm)]
  rfl

theorem Settled.dispatch (h : ix.Settled) (kind : JobKind) (items : List Item) :
    (ix.dispatch kind items).2.Settled := by
  refine ⟨h.resetting, h.pending, fun job hm => ?_⟩
  rcases ix.mem_jobs_dispatch kind items hm with hm | ⟨-, hcolumns, -⟩
  · exact h.columns job hm
  · exact hcolumns.trans h.dispatchColumns

theorem Settled.dispatchSome (h : ix.Settled) (kind : JobKind) (items : List Item) :
    (ix.dispatchSome kind items).2.Settled :=
  dispatchSome_induct (P := fun r => r.2.Settled) (fun _ => h) (h.dispatch kind items)

section Delivery

variable {job : FinishedJob} {rest : List FinishedJob}

theorem Settled.outcome (h : ix.Settled) (hf : ix.worker.finished = job :: rest) {stage : Index}
    (hout : (ix.popped rest).Outcome job stage) :
    stage.Settled ∧ stage.showSummary = ix.showSummary := by
  have hpopped : (ix.popped rest).applying.Settled :=
    ⟨h.resetting, h.pending, fun other hm => h.columns other (mem_jobs_of_popped hf hm)⟩
  have hmet : (ix.popped rest).met = ix.popped rest := met_of_not_resetting h.resetting
  cases hout with
  | dropped hr hs =>
    subst hs
    exact ⟨hpopped, rfl⟩
  | taken hr hc hs =>
    subst hs
    rw [hpopped.met]
    exact ⟨hpopped.congr rfl rfl rfl rfl, rfl⟩
  | again hr hc hs =>
    -- every job was computed for the columns in force
    rw [hmet] at hc
    exact absurd (h.columns job.toJob.unmarked (mem_jobs_of_finished hf)) hc

theorem Settled.delivered (h : ix.Settled) :
    ix.delivered.Settled ∧ ix.delivered.showSummary = ix.showSummary := by
  rcases ix.delivered_cases with ⟨-, e⟩ | ⟨job, rest, hf, -⟩
  · rw [e]
    exact ⟨h, rfl⟩
  · obtain ⟨stage, summary, notifier, batchesApplied, resets, hout, e⟩ := delivered_outcome hf
    obtain ⟨hs, hshow⟩ := h.outcome hf hout
    rw [e]
    exact ⟨hs.congr rfl rfl rfl rfl, hshow⟩

end Delivery

/-! ## 3. Requests -/

/-- The index comes to a target, without a reset. -/
structure Aims (ix : Index) (t : Target) : Prop where
  settled : ix.Settled
  converges : ix.Converges t.keys t.layout
  showSummary : ix.showSummary = t.showSummary

theorem Aims.layout (h : ix.Aims t) : ix.layout = t.layout := by
  rw [← h.converges.layout_eq, h.settled.met]

/-- An item that is not to be shown in the end is not shown now. -/
theorem Aims.not_indexes (h : ix.Aims t) {id : ItemId} (hn : t.keys id = none) :
    ix.store.indexes id = false := by
  rw [← h.converges.forecast_eq, forecast, Option.or_eq_none_iff, h.settled.met] at hn
  rw [Store.indexes_eq_isSome, hn.2]
  rfl

/-- The parts that a target is about. -/
theorem Aims.congr (h : ix.Aims t) (hj : ix'.jobs = ix.jobs) (hg : ix'.worker.grouper = ix.worker.grouper)
    (ht : ix'.tombstones = ix.tombstones) (hs : ix'.store = ix.store)
    (hr : ix'.resetting = ix.resetting) (hp : ix'.pendingColumns = ix.pendingColumns)
    (hlayout : ix'.layout = ix.layout) (hl : ix'.latestReset = ix.latestReset)
    (hshow : ix'.showSummary = ix.showSummary) : ix'.Aims t where
  settled := h.settled.congr hr hp hj (by rw [hlayout])
  converges := h.converges.congr hj
    (fun id job _ => given_congr hg fun _ => isTombstoned_congr (by rw [ht])) hs hr hp hlayout hl
  showSummary := hshow.trans h.showSummary

theorem Aims.refreshSummary (h : ix.Aims t) : ix.refreshSummary.Aims t := by
  obtain ⟨summary, notifier, e⟩ := ix.refreshSummary_eq
  rw [e]
  exact h.congr rfl rfl rfl rfl rfl rfl rfl rfl rfl

/-- Items that are handed over get the keys of their copies. -/
theorem Aims.dispatchSome (h : ix.Aims t) (hk : kind ≠ .reset) (hi : (idsOf items).Nodup) :
    (ix.dispatchSome kind items).2.Aims (t.bring ix.worker.grouper items) where
  settled := h.settled.dispatchSome kind items
  converges := by
    refine ⟨h.converges.firm.dispatchSome hk hi, fun id => ?_, ?_⟩
    · rw [forecast_dispatchSome hk hi (h.converges.firm.nodup hk) h.settled.late,
        h.settled.dispatchColumns, h.layout, h.converges.forecast_eq]
      rfl
    · rw [(h.settled.dispatchSome kind items).met]
      exact dispatchSome_induct (P := fun r => r.2.layout = _) (fun _ => h.layout) h.layout
  showSummary :=
    dispatchSome_induct (P := fun r => r.2.showSummary = _) (fun _ => h.showSummary) h.showSummary

theorem Aims.brought (h : ix.Aims t) (hi : (idsOf items).Nodup)
    (hn : ∀ id ∈ idsOf items, t.keys id = none) :
    (ix.brought items).Aims (t.bring ix.worker.grouper items) := by
  unfold Index.brought
  rw [h.settled.unindexed_eq_self fun id hm => h.not_indexes (hn id hm)]
  exact h.dispatchSome (fun e => by cases e) hi

/-- Of changed items, those that are shown and those that are not are handed over one after the other. -/
theorem Aims.updated (h : ix.Aims t) (hi : (idsOf items).Nodup) :
    (ix.updated items).Aims (t.bring ix.worker.grouper items) := by
  have hupdate : JobKind.update ≠ .reset := fun e => by cases e
  have hadd : JobKind.add ≠ .reset := fun e => by cases e
  have hknown := h.dispatchSome hupdate (nodup_idsOf_filter hi fun item => ix.store.indexes item.id)
  have hboth := hknown.dispatchSome hadd (nodup_idsOf_filter hi fun item => !ix.store.indexes item.id)
  rw [grouper_dispatchSome, Target.bring_filter ix.store.indexes] at hboth
  unfold Index.updated
  rw [h.settled.resetting, if_neg Bool.false_ne_true]
  exact hboth

/-- Of an item that is removed no job gives anything any more. -/
theorem forecast_detached_buried (ho : ix.Orderly) (hs : ix.Settled) (ids : List ItemId) (id : ItemId) :
    ((ix.buried ids).detached ids).forecast id = if id ∈ ids then none else ix.forecast id := by
  have hmet : ((ix.buried ids).detached ids).met = (ix.buried ids).detached ids :=
    met_of_not_resetting hs.resetting
  have hstore : ((ix.buried ids).detached ids).met.store.keysOf[id]? =
      if id ∈ ids then none else ix.met.store.keysOf[id]? := by
    rw [hmet, hs.met]
    exact Store.getElem?_keysOf_detach ho.store
  have htomb : ((ix.buried ids).detached ids).tombstones[id]? =
      if ix.outstanding ≠ 0 ∧ id ∈ ids then some ix.worker.lastTicket else ix.tombstones[id]? :=
    getElem?_tombstones_buried
  unfold forecast
  rw [hstore]
  by_cases hm : id ∈ ids
  · have hnone : ∀ job ∈ ix.jobs, ((ix.buried ids).detached ids).given ix.dispatchColumns id job = none := by
      intro job hj
      have hout : ix.outstanding ≠ 0 := by
        rw [ho.outstanding_eq]
        exact fun e => List.ne_nil_of_mem hj (List.length_eq_zero_iff.mp e)
      refine given_eq_none_iff.mpr fun _ => ?_
      rw [isTombstoned, htomb, if_pos ⟨hout, hm⟩]
      exact decide_eq_true (ho.worker.ticket_le job hj)
    rw [if_pos hm, if_pos hm, Option.or_none]
    exact promised_eq_none hnone
  · have hsame : ((ix.buried ids).detached ids).promised id = ix.promised id := by
      refine promised_congr rfl rfl rfl fun job _ => given_congr rfl fun _ => isTombstoned_congr ?_
      rw [htomb, if_neg fun hx => hm hx.2]
    rw [if_neg hm, if_neg hm, hsame]

theorem Aims.removed (h : ix.Aims t) (ho : ix.Orderly) (ids : List ItemId) :
    (ix.removed ids).Aims (t.remove ids) := by
  have hsettled : ((ix.buried ids).detached ids).Settled := h.settled.congr rfl rfl rfl rfl
  have hd : ((ix.buried ids).detached ids).Aims (t.remove ids) := by
    refine ⟨hsettled, ⟨h.converges.firm, fun id => ?_, ?_⟩, h.showSummary⟩
    · rw [forecast_detached_buried ho h.settled, h.converges.forecast_eq]
      rfl
    · rw [hsettled.met]
      exact h.layout
  unfold Index.removed
  split
  · exact hd
  · exact hd.refreshSummary

theorem Aims.hidden (h : ix.Aims t) (i : Nat) :
    (ix.hidden i).Aims (t.hideColumn i) := by
  unfold Index.hidden Target.hideColumn
  rw [← h.layout]
  cases hc : ix.layout.columns[i]? with
  | none => exact h
  | some column =>
    have hpending : (ix.narrowed i column).pendingColumns = ix.pendingColumns := by
      show hidePending ix.pendingColumns column = _
      rw [h.settled.pending]
      rfl
    have hsettled : (ix.narrowed i column).Settled := h.settled.congr rfl hpending rfl rfl
    have hcolumns : (ix.narrowed i column).dispatchColumns = ix.dispatchColumns := by
      rw [hsettled.dispatchColumns, h.settled.dispatchColumns]
      rfl
    have hforecast (id : ItemId) : (ix.narrowed i column).forecast id = ix.forecast id := by
      have hpromised : (ix.narrowed i column).promised id = ix.promised id :=
        promised_congr rfl hcolumns rfl fun _ _ => rfl
      rw [forecast, hpromised, hsettled.met, forecast, h.settled.met]
      rfl
    have hn : (ix.narrowed i column).Aims { t with layout := ix.layout.hide i } := by
      refine ⟨hsettled, ⟨h.converges.firm.congr (fun job hm => hm) hcolumns, fun id => ?_, ?_⟩,
        h.showSummary⟩
      · rw [hforecast, h.converges.forecast_eq]
      · rw [hsettled.met]
        rfl
    exact hn.refreshSummary

theorem Aims.summarised (h : ix.Aims t) (shown : Bool) :
    (ix.summarised shown).Aims { t with showSummary := shown } := by
  unfold Index.summarised
  split
  · rename_i hshow
    exact ⟨h.settled, h.converges, hshow⟩
  · refine ⟨h.settled.congr rfl rfl rfl rfl, ?_, rfl⟩
    exact h.converges.congr rfl (fun _ _ _ => rfl) rfl rfl rfl rfl rfl

/-- **A step changes the target as it should, whenever it comes.** -/
theorem Aims.after (h : ix.Aims t) (ho : ix.Orderly) {s : Step} (hr : s.isReset = false)
    (hd : (idsOf s.items).Nodup) (hn : ∀ id ∈ idsOf s.added, t.keys id = none) :
    (ix.after s).Aims (s.act ix.worker.grouper t) := by
  cases s with
  | reset columns items => cases hr
  | fullReload items => cases hr
  | add items => exact h.brought hd hn
  | update items => exact h.updated hd
  | remove ids => exact h.removed ho ids
  | hideColumn i => exact h.hidden i
  | setSummaryShown shown => exact h.summarised shown
  | decorationReady id => exact h.congr rfl rfl rfl rfl rfl rfl rfl rfl rfl
  | subscribe => exact h.congr rfl rfl rfl rfl rfl rfl rfl rfl rfl
  | start => exact h.congr ix.worker.jobs_start ix.worker.grouper_start rfl rfl rfl rfl rfl rfl rfl
  | finish => exact h.congr ix.worker.jobs_finish ix.worker.grouper_finish rfl rfl rfl rfl rfl rfl rfl
  | deliver =>
    obtain ⟨hs, hshow⟩ := h.settled.delivered
    exact ⟨hs, h.converges.delivered ho.toCoherent, hshow.trans h.showSummary⟩

/-! ## 4. Runs -/

/-- **A run comes to the target that its requests lead to**, wherever the worker's moves and the
    deliveries stand between them. -/
theorem Aims.foldl_after {g : Grouper} (h : ix.Aims t) (ho : ix.Orderly) (hg : ix.worker.grouper = g)
    {steps : List Step} (hs : Incremental t.keys steps) :
    (steps.foldl Index.after ix).Aims (steps.foldl (Step.act g) t) := by
  induction steps generalizing ix t with
  | nil => exact h
  | cons s steps ih =>
    have hnext : (ix.after s).Aims (s.act g t) := by
      rw [← hg]
      exact h.after ho (hs.not_reset s List.mem_cons_self) (hs.distinct s List.mem_cons_self)
        (hs.unknown s List.mem_cons_self)
    exact ih hnext (ho.after s) ((grouper_after s).trans hg) hs.tail

/-- What an idle index shows. -/
def shown (ix : Index) : Target where
  keys := ix.keysOf?
  layout := ix.layout
  showSummary := ix.showSummary

theorem aims_of_idle (ho : ix.Orderly) (hi : ix.phase = .idle) : ix.Aims ix.shown where
  settled := settled_of_idle ho hi
  converges := by
    refine ⟨fun job hm => ?_, forecast_of_idle ho hi, ?_⟩
    · rw [ho.jobs_eq_nil hi] at hm
      exact absurd hm List.not_mem_nil
    · rw [(settled_of_idle ho hi).met]
      rfl
  showSummary := rfl

/-- **Idle indexes with the same target show the same**, but for the order of their rows. -/
theorem Aims.agree (h : ix.Aims t) (h' : ix'.Aims t) (ho : ix.Orderly) (ho' : ix'.Orderly)
    (ha : ix.Arranged) (ha' : ix'.Arranged) (hi : ix.phase = .idle) (hi' : ix'.phase = .idle) :
    ix'.store.nodes = ix.store.nodes ∧ ix'.store.keysOf = ix.store.keysOf ∧ ix'.layout = ix.layout ∧
      ix'.summary = ix.summary := by
  obtain ⟨hn, hk, hl⟩ := h.converges.agree h'.converges ho ho' ha ha' hi hi'
  have hsummary : ix'.currentSummary = ix.currentSummary := by
    unfold currentSummary
    rw [hl]
    exact Store.ofNodes_nodesInOrder ho.store ho'.store hn ix.layout.columns
  refine ⟨hn, hk, hl, ?_⟩
  rw [ha.summed, ha'.summed, hsummary, h.showSummary, h'.showSummary]

/-- The index with requests joining waiting jobs, or not. -/
def coalescing (ix : Index) (coalesce : Bool) : Index :=
  { ix with worker := { ix.worker with coalesce } }

theorem Orderly.coalescing (h : ix.Orderly) (coalesce : Bool) : (ix.coalescing coalesce).Orderly where
  worker := ⟨h.worker.increasing, h.worker.ticket_le, h.worker.batch_eq⟩
  outstanding_eq := h.outstanding_eq
  resetting_iff := h.resetting_iff
  awaited := h.awaited
  store := h.store
  quiet := ⟨h.quiet.closed, h.quiet.phase_ne⟩
  idle_iff := h.idle_iff

/-- **What is shown in the end does not depend on the schedule.** An index is idle after some run. Then
    requests are made that change the collection step by step, in two ways: the worker may proceed
    differently and finished jobs be delivered at other moments, and requests may join waiting jobs or
    not. Once both are idle they have the same nodes, keys of items, layout and summary. -/
theorem schedules_agree (extractor : Extractor) (options : IndexOptions) {before : List Step}
    {ix : Index} (hb : (ofOptions extractor options).run before = .ok ix) (hi : ix.isIdle = true)
    {steps₁ steps₂ : List Step} (hsame : requestsOf steps₁ = requestsOf steps₂)
    (hs : Incremental ix.keysOf? (requestsOf steps₁)) (coalesce₁ coalesce₂ : Bool) :
    ∃ ix₁ ix₂, (ix.coalescing coalesce₁).run steps₁ = .ok ix₁ ∧
      (ix.coalescing coalesce₂).run steps₂ = .ok ix₂ ∧
      (ix₁.isIdle = true → ix₂.isIdle = true → ix₁.store.nodes = ix₂.store.nodes ∧
        ix₁.store.keysOf = ix₂.store.keysOf ∧ ix₁.layout = ix₂.layout ∧ ix₁.summary = ix₂.summary) := by
  have hstart := orderly_ofOptions extractor options
  rw [run_eq hstart.quiet] at hb
  cases hb
  have ho := hstart.foldl_after before
  have ha := (arranged_ofOptions extractor options).foldl_after hstart before
  have haims := aims_of_idle ho (beq_iff_eq.mp hi)
  generalize before.foldl Index.after (ofOptions extractor options) = ix at ho ha haims hs ⊢
  have hrun (coalesce : Bool) {steps : List Step} (h : Incremental ix.keysOf? (requestsOf steps)) :
      (steps.foldl Index.after (ix.coalescing coalesce)).Orderly ∧
        (steps.foldl Index.after (ix.coalescing coalesce)).Arranged ∧
        (steps.foldl Index.after (ix.coalescing coalesce)).Aims
          ((requestsOf steps).foldl (Step.act ix.worker.grouper) ix.shown) := by
    have hoc := ho.coalescing coalesce
    have hac : (ix.coalescing coalesce).Arranged := ha.congr rfl rfl rfl rfl
    have haimsc : (ix.coalescing coalesce).Aims ix.shown :=
      haims.congr rfl rfl rfl rfl rfl rfl rfl rfl rfl
    refine ⟨hoc.foldl_after steps, hac.foldl_after hoc steps, ?_⟩
    rw [foldl_act_requestsOf]
    exact haimsc.foldl_after hoc rfl h.of_requestsOf
  obtain ⟨ho₁, ha₁, haims₁⟩ := hrun coalesce₁ hs
  obtain ⟨ho₂, ha₂, haims₂⟩ := hrun coalesce₂ (hsame ▸ hs)
  rw [hsame] at haims₁
  refine ⟨_, _, run_eq (ho.coalescing coalesce₁).quiet steps₁, run_eq (ho.coalescing coalesce₂).quiet steps₂,
    fun hi₁ hi₂ => ?_⟩
  exact haims₂.agree haims₁ ho₂ ho₁ ha₂ ha₁ (beq_iff_eq.mp hi₂) (beq_iff_eq.mp hi₁)

/-- Two items are indexed over two columns. -/
def scheduledBefore : List Step :=
  [.add [Item.withField ⟨1, ∅⟩ "artist" "A", Item.withField ⟨2, ∅⟩ "artist" "A"], .start, .finish, .deliver]

/-- An item is changed, one is added, one removed and brought back, and each job is delivered soon. -/
def scheduledSoon : List Step :=
  [.update [Item.withField ⟨1, ∅⟩ "artist" "B"], .start, .finish, .deliver,
    .add [Item.withField ⟨3, ∅⟩ "artist" "A"], .start, .finish, .remove [2], .deliver, .hideColumn 1,
    .update [Item.withField ⟨3, ∅⟩ "artist" "B", Item.withField ⟨2, ∅⟩ "artist" "C"],
    .start, .finish, .deliver, .start, .finish, .deliver, .setSummaryShown false]

/-- The same requests, the last of them joining a job that waits, and all jobs delivered at the end. -/
def scheduledLate : List Step :=
  [.update [Item.withField ⟨1, ∅⟩ "artist" "B"], .add [Item.withField ⟨3, ∅⟩ "artist" "A"], .start,
    .remove [2], .hideColumn 1,
    .update [Item.withField ⟨3, ∅⟩ "artist" "B", Item.withField ⟨2, ∅⟩ "artist" "C"],
    .setSummaryShown false, .finish, .start, .finish, .deliver, .deliver]

/-- Both schedules lead to an idle index, and to the same one but for the order of its rows. -/
theorem schedules_agree_soon_late :
    let start := scheduledBefore.foldl after (ofOptions rawExtractor { columns :=
      [.ofField "artist" "Artist", .ofField "album" "Album"] })
    start.isIdle = true ∧ requestsOf scheduledSoon = requestsOf scheduledLate ∧
      Incremental start.keysOf? (requestsOf scheduledSoon) ∧
      ∃ ix₁ ix₂, (start.coalescing false).run scheduledSoon = .ok ix₁ ∧
        (start.coalescing true).run scheduledLate = .ok ix₂ ∧ ix₁.isIdle = true ∧ ix₂.isIdle = true ∧
        ix₁.store.nodes = ix₂.store.nodes ∧ ix₁.store.keysOf = ix₂.store.keysOf ∧
        ix₁.layout = ix₂.layout ∧ ix₁.summary = ix₂.summary := by
  intro start
  have hb := run_eq (quiet_ofOptions rawExtractor { columns :=
    [.ofField "artist" "Artist", .ofField "album" "Album"] }) scheduledBefore
  have ho : start.Orderly := (orderly_ofOptions _ _).foldl_after scheduledBefore
  have hi : start.isIdle = true := by decide +kernel
  have hsame : requestsOf scheduledSoon = requestsOf scheduledLate := rfl
  -- decided over the items that are named, for there are too many numbers to go through
  have hunknown : ((requestsOf scheduledSoon).all fun s =>
      (idsOf s.added).all fun id => (start.keysOf? id).isNone) = true := by decide +kernel
  have hunnamed : (requestsOf scheduledSoon).Pairwise fun s later =>
      ((idsOf later.added).all fun id => !s.mentions.contains id) = true := by decide
  have hs : Incremental start.keysOf? (requestsOf scheduledSoon) := by
    refine ⟨by decide, by decide, fun s hm id hid => ?_, hunnamed.imp fun h id hid => ?_⟩
    · exact Option.isNone_iff_eq_none.mp (List.all_eq_true.mp (List.all_eq_true.mp hunknown s hm) id hid)
    · simpa using List.all_eq_true.mp h id hid
  obtain ⟨ix₁, ix₂, h₁, h₂, hagree⟩ := schedules_agree rawExtractor _ hb hi hsame hs false true
  have hi₁ : ix₁.isIdle = true := by
    rw [eq_foldl_after_of_run (ho.coalescing false).quiet h₁]
    decide +kernel
  have hi₂ : ix₂.isIdle = true := by
    rw [eq_foldl_after_of_run (ho.coalescing true).quiet h₂]
    decide +kernel
  exact ⟨hi, hsame, hs, ix₁, ix₂, h₁, h₂, hi₁, hi₂, hagree hi₁ hi₂⟩

end Index

end MediaIndex
