import MediaIndex.Proofs.Index.Forecast
import MediaIndex.Proofs.Representation

/-!
# What an index converges to

The moves of the worker and the deliveries, in any order, lead to the keys that were forecast and to the
layout that was pending. So two indexes with the same forecast and the same layout show the same once
both are idle, but for the order of their rows.

* `Index.Converges` -- the index comes to some keys and some layout when nothing is outstanding any more;
* `Converges.after`, `Converges.foldl_after` -- the moves that nobody asks for leave this as it is;
* `Converges.of_idle` -- an idle index is what it converges to;
* `Converges.agree` -- idle indexes that converge to the same have the same nodes.
-/

namespace MediaIndex.Index

variable {ix ix' : Index} {keys : ItemId → Option KeySet} {layout : Layout}

/-- The keys of every item and the layout, once nothing is outstanding any more. -/
structure Converges (ix : Index) (keys : ItemId → Option KeySet) (layout : Layout) : Prop where
  firm : ix.Firm
  forecast_eq : ∀ id, ix.forecast id = keys id
  layout_eq : ix.met.layout = layout

/-! ## 1. Moves that nobody asks for -/

theorem layout_met_congr (hr : ix'.resetting = ix.resetting)
    (hp : ix'.pendingColumns = ix.pendingColumns) (hl : ix'.layout = ix.layout) :
    ix'.met.layout = ix.met.layout := by
  cases hres : ix.resetting with
  | true =>
    rw [met_of_resetting hres, met_of_resetting (hr.trans hres), clear, clear, hp, hl]
  | false => rw [met_of_not_resetting hres, met_of_not_resetting (hr.trans hres), hl]

/-- The parts that convergence is about, but for the jobs, and the removals that concern the jobs. -/
theorem Converges.congr (h : ix.Converges keys layout) (hj : ix'.jobs = ix.jobs)
    (hg : ∀ id, ∀ job ∈ ix.jobs, ix'.given ix.dispatchColumns id job = ix.given ix.dispatchColumns id job)
    (hs : ix'.store = ix.store) (hr : ix'.resetting = ix.resetting)
    (hp : ix'.pendingColumns = ix.pendingColumns) (hlayout : ix'.layout = ix.layout)
    (hl : ix'.latestReset = ix.latestReset) : ix'.Converges keys layout := by
  have hc : ix'.dispatchColumns = ix.dispatchColumns := by rw [dispatchColumns, hp, hlayout, dispatchColumns]
  refine ⟨h.firm.congr (fun job hm => hj ▸ hm) hc, fun id => ?_, ?_⟩
  · rw [← h.forecast_eq id]
    unfold forecast
    rw [promised_congr hj hc hl (hg id), store_met, store_met, hr, hs]
  · rw [← h.layout_eq]
    exact layout_met_congr hr hp hlayout

section Delivery

variable {job : FinishedJob} {rest : List FinishedJob}

/-- Whatever becomes of a job, the layout is the one that was pending. -/
theorem layout_met_outcome {stage : Index} (hout : (ix.popped rest).Outcome job stage) :
    stage.met.layout = ix.met.layout := by
  have hmet : (ix.popped rest).applying.met.layout = ix.met.layout := by
    rw [met_applying, met_popped]
    rfl
  have hstay : (ix.popped rest).applying.met.met.layout = ix.met.layout := by
    rw [met_of_not_resetting resetting_met, hmet]
  cases hout with
  | dropped hr hs =>
    subst hs
    exact hmet
  | taken hr hc hs =>
    subst hs
    rw [← hstay]
    exact layout_met_congr rfl rfl rfl
  | again hr hc hs =>
    subst hs
    rw [← hstay, resubmitted]
    split
    · rfl
    · exact layout_met_congr rfl rfl rfl

theorem Converges.delivered (h : ix.Converges keys layout) (ho : ix.Coherent) :
    ix.delivered.Converges keys layout := by
  rcases ix.delivered_cases with ⟨-, e⟩ | ⟨job, rest, hf, -⟩
  · rw [e]
    exact h
  · obtain ⟨stage, summary, notifier, batchesApplied, resets, hout, e⟩ := delivered_outcome hf
    have hstage : stage.Converges keys layout := by
      refine ⟨h.firm.outcome ho hf hout, fun id => ?_, ?_⟩
      · rw [forecast_outcome ho h.firm hf hout, h.forecast_eq]
      · rw [layout_met_outcome hout, h.layout_eq]
    rw [e]
    -- what is forgotten of removals does not matter for the jobs behind the delivered one
    refine hstage.congr rfl (fun id other hm => given_congr rfl fun hid => ?_) rfl rfl rfl rfl rfl
    exact isTombstoned_booked (lt_of_brings_outcome ho.worker hf hout ⟨other, hm, hid, rfl, rfl⟩)

end Delivery

/-- **The moves of the worker and deliveries leave an index converging to the same.** -/
theorem Converges.after (h : ix.Converges keys layout) (ho : ix.Orderly) {s : Step}
    (hs : s.isInternal = true) : (ix.after s).Converges keys layout := by
  cases s with
  | start =>
    refine h.congr ix.worker.jobs_start (fun id job _ => ?_) rfl rfl rfl rfl rfl
    exact given_congr ix.worker.grouper_start fun _ => rfl
  | finish =>
    refine h.congr ix.worker.jobs_finish (fun id job _ => ?_) rfl rfl rfl rfl rfl
    exact given_congr ix.worker.grouper_finish fun _ => rfl
  | deliver => exact h.delivered ho.toCoherent
  | _ => cases hs

theorem Converges.foldl_after (h : ix.Converges keys layout) (ho : ix.Orderly) {steps : List Step}
    (hs : ∀ s ∈ steps, s.isInternal = true) : (steps.foldl Index.after ix).Converges keys layout := by
  induction steps generalizing ix with
  | nil => exact h
  | cons s steps ih =>
    have hnext : (ix.after s).Converges keys layout := h.after ho (hs s List.mem_cons_self)
    exact ih hnext (ho.after s) fun s' hm => hs s' (List.mem_cons_of_mem _ hm)

/-! ## 2. Idle indexes -/

/-- An idle index has come to its forecast. -/
theorem forecast_of_idle (ho : ix.Orderly) (hi : ix.phase = .idle) (id : ItemId) :
    ix.forecast id = ix.store.keysOf[id]? :=
  forecast_of_no_jobs (ho.jobs_eq_nil hi) (ho.resetting_eq_false hi)

/-- **An idle index is what it converges to.** -/
theorem Converges.of_idle (h : ix.Converges keys layout) (ho : ix.Orderly) (hi : ix.phase = .idle) :
    (∀ id, ix.store.keysOf[id]? = keys id) ∧ ix.layout = layout := by
  refine ⟨fun id => ?_, ?_⟩
  · rw [← h.forecast_eq, forecast_of_idle ho hi]
  · rw [← h.layout_eq, met_of_not_resetting (ho.resetting_eq_false hi)]

/-- **Idle indexes that converge to the same have the same nodes**, keys and layout. -/
theorem Converges.agree (h : ix.Converges keys layout) (h' : ix'.Converges keys layout)
    (ho : ix.Orderly) (ho' : ix'.Orderly) (ha : ix.Arranged) (ha' : ix'.Arranged)
    (hi : ix.phase = .idle) (hi' : ix'.phase = .idle) :
    ix'.store.nodes = ix.store.nodes ∧ ix'.store.keysOf = ix.store.keysOf ∧ ix'.layout = ix.layout := by
  obtain ⟨hkeys, hl⟩ := h.of_idle ho hi
  obtain ⟨hkeys', hl'⟩ := h'.of_idle ho' hi'
  have hk : ix'.store.keysOf = ix.store.keysOf := by
    refine Std.ExtTreeMap.ext_getElem? fun id => ?_
    rw [hkeys, hkeys']
  have hlayout : ix'.layout = ix.layout := hl'.trans hl.symm
  refine ⟨?_, hk, hlayout⟩
  have hd' := ha'.displays
  rw [hlayout] at hd'
  exact ha.displays.nodes_eq hd' ho.store ho'.store hk

end MediaIndex.Index
