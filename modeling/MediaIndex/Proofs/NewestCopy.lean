import MediaIndex.Index.Lookup
import MediaIndex.Proofs.Index.Forecast

/-!
# Which copy of an item is shown in the end

Jobs are delivered in the order in which they were submitted, so of the copies of an item the one
submitted last is shown once the index is idle. A job that was computed for other columns is submitted
again when it is delivered, after all requests made meanwhile; an older copy may so come to be the last.

* `Carrier` -- the last of some jobs that brings an item, with the copy it brings;
* `Index.Latest` -- the copy that will be shown is on its way, or shown already;
* `Index.Underway` -- a copy handed to the worker, which is the last of its item;
* `Latest.after` -- every step keeps this, up to copies that it submits again;
* `Latest.keysOf_of_idle` -- an idle index shows the copy that was submitted last;
* `lastSubmitted_of_no_older` -- which is the one requested when no older copy was on its way.
-/

namespace MediaIndex

/-! ## 1. The last job that brings an item -/

/-- The job brings the copy, and no later one brings another copy of the item. -/
def Carrier (jobs : List Job) (c : Item) (job : Job) : Prop :=
  ∃ front back, jobs = front ++ job :: back ∧ c ∈ job.items ∧ ∀ other ∈ back, c.id ∉ idsOf other.items

section Carrier

variable {jobs more : List Job} {c : Item} {job new tail : Job} {items : List Item}

theorem Carrier.append (h : Carrier jobs c job) (hn : c.id ∉ idsOf new.items) :
    Carrier (jobs ++ [new]) c job := by
  obtain ⟨front, back, rfl, hc, hb⟩ := h
  refine ⟨front, back ++ [new], by simp, hc, fun other ho => ?_⟩
  rcases List.mem_append.mp ho with ho | ho
  · exact hb other ho
  · rw [List.mem_singleton.mp ho]
    exact hn

theorem carrier_append (jobs : List Job) (hc : c ∈ job.items) : Carrier (jobs ++ [job]) c job :=
  ⟨jobs, [], rfl, hc, fun _ ho => absurd ho List.not_mem_nil⟩

/-- When the last job takes in copies of other items, the last job that brings the item is the same,
    but for the items taken in. -/
theorem Carrier.absorb {front : List Job} (h : Carrier (front ++ [tail]) c job)
    (hn : c.id ∉ idsOf items) :
    ∃ job', Carrier (front ++ [tail.absorb items]) c job' ∧ job'.kind = job.kind ∧
      job'.ticket = job.ticket := by
  obtain ⟨first, back, e, hc, hb⟩ := h
  rcases List.eq_nil_or_concat' back with rfl | ⟨back', last, rfl⟩
  · obtain ⟨rfl, el⟩ := List.append_inj' e rfl
    cases el
    exact ⟨_, carrier_append _ ((mem_absorb_of_not_mem hn).mpr hc), rfl, rfl⟩
  · rw [← List.cons_append, ← List.append_assoc] at e
    obtain ⟨rfl, el⟩ := List.append_inj' e rfl
    cases el
    have hback : Carrier (first ++ job :: back') c job :=
      ⟨first, back', rfl, hc, fun other ho => hb other (List.mem_append_left _ ho)⟩
    have htail : c.id ∉ idsOf tail.items := hb tail (List.mem_append_right _ (List.mem_singleton_self _))
    refine ⟨job, hback.append fun hm => ?_, rfl, rfl⟩
    exact (mem_idsOf_absorb.mp hm).elim htail hn

/-- The last job that brings the item is the first of all, or the last of the others. -/
theorem Carrier.of_cons {first : Job} (h : Carrier (first :: jobs) c job) :
    (job = first ∧ c ∈ first.items ∧ ∀ other ∈ jobs, c.id ∉ idsOf other.items) ∨
      Carrier jobs c job := by
  obtain ⟨front, back, e, hc, hb⟩ := h
  cases front with
  | nil =>
    cases e
    exact Or.inl ⟨rfl, hc, hb⟩
  | cons f front =>
    cases e
    exact Or.inr ⟨front, back, rfl, hc, hb⟩

/-- When the jobs behind do not bring the item, the last one that does is one of those before. -/
theorem Carrier.of_append (h : Carrier (jobs ++ more) c job)
    (hn : ∀ other ∈ more, c.id ∉ idsOf other.items) : Carrier jobs c job := by
  obtain ⟨front, back, e, hc, hb⟩ := h
  have hmore : job ∉ more := fun hm => hn job hm (mem_idsOf_of_mem hc)
  rcases List.append_eq_append_iff.mp e with ⟨mid, -, rfl⟩ | ⟨mid, rfl, he⟩
  · exact absurd (List.mem_append_right _ List.mem_cons_self) hmore
  · rcases List.cons_eq_append_iff.mp he with ⟨-, rfl⟩ | ⟨back', rfl, rfl⟩
    · exact absurd List.mem_cons_self hmore
    · exact ⟨front, back', rfl, hc, fun other ho => hb other (List.mem_append_left _ ho)⟩

end Carrier

/-! ## 2. The copy that will be shown -/

namespace Index

/-- The job is a rebuild that a newer reset has replaced. -/
def Replaced (ix : Index) (job : Job) : Prop := job.kind = .reset ∧ ix.latestReset ≠ some job.ticket

/-- Where the copy is: in the last job that brings the item, or in the store. -/
inductive Latest (ix : Index) (c : Item) : Prop
  | waiting (job : Job) (hc : Carrier ix.jobs c job) (hr : ¬ ix.Replaced job)
      (ht : ix.tombstones[c.id]? = none)
  | shown (hj : ∀ job ∈ ix.jobs, c.id ∉ idsOf job.items) (hr : ix.resetting = false)
      (hk : ix.keysOf? c.id = some (ix.worker.grouper.keySet ix.layout.keyColumns c))
      (ht : ix.tombstones[c.id]? = none)

variable {ix ix' : Index} {c : Item}

theorem Latest.not_removed (h : ix.Latest c) : ix.tombstones[c.id]? = none := by
  cases h with
  | waiting job hc hr ht => exact ht
  | shown hj hr hk ht => exact ht

theorem Latest.of_parts_eq (h : ix.Latest c) (hj : ix'.jobs = ix.jobs)
    (hl : ix'.latestReset = ix.latestReset) (hr : ix'.resetting = ix.resetting)
    (ht : ix'.tombstones[c.id]? = ix.tombstones[c.id]?)
    (hk : ix'.keysOf? c.id = ix.keysOf? c.id) (hg : ix'.worker.grouper = ix.worker.grouper)
    (hc : ix'.layout.keyColumns = ix.layout.keyColumns) : ix'.Latest c := by
  cases h with
  | waiting job hcar hrep htomb =>
    refine .waiting job (hj ▸ hcar) (fun hrep' => hrep ?_) (ht.trans htomb)
    exact ⟨hrep'.1, hl ▸ hrep'.2⟩
  | shown hjobs hres hkeys htomb =>
    refine .shown (hj ▸ hjobs) (hr.trans hres) ?_ (ht.trans htomb)
    rw [hk, hkeys, hg, hc]

/-! ## 3. Handing items to the worker -/

/-- The last job that brings the item is no rebuild and brings the copy, and the item has not been
    removed since. -/
structure Underway (ix : Index) (c : Item) : Prop where
  carried : ∃ job, Carrier ix.jobs c job ∧ job.kind ≠ .reset
  not_removed : ix.tombstones[c.id]? = none

theorem Underway.latest (h : ix.Underway c) : ix.Latest c := by
  obtain ⟨job, hc, hk⟩ := h.carried
  exact .waiting job hc (fun hr => hk hr.1) h.not_removed

section Dispatch

variable {kind : JobKind} {items : List Item}

/-- The copies handed over are the last of their items. -/
theorem underway_dispatch (hi : (idsOf items).Nodup) (hc : c ∈ items) (hk : kind ≠ .reset) :
    (ix.dispatch kind items).2.Underway c := by
  refine ⟨?_, ?_⟩
  · unfold jobs
    rcases ix.submitted_dispatch kind items with
      ⟨-, hjobs, -⟩ | ⟨front, tail, -, -, hjobs, -, -, hkind, -⟩
    · rw [hjobs]
      exact ⟨_, carrier_append _ hc, hk⟩
    · rw [hjobs]
      exact ⟨_, carrier_append _ (mem_absorb_of_mem hi hc), fun e => hk (hkind.symm.trans e)⟩
  · rw [getElem?_tombstones_dispatch, if_pos (mem_idsOf_of_mem hc)]

/-- Handing over copies of other items leaves the last job that brings the item where it is, behind any
    jobs. -/
theorem Carrier.dispatch (before : List Job) {job : Job} (h : Carrier (before ++ ix.jobs) c job)
    (hn : c.id ∉ idsOf items) (kind : JobKind) :
    ∃ job', Carrier (before ++ (ix.dispatch kind items).2.jobs) c job' ∧ job'.kind = job.kind ∧
      job'.ticket = job.ticket := by
  unfold jobs at h ⊢
  rcases ix.submitted_dispatch kind items with ⟨-, hjobs, -⟩ | ⟨front, tail, -, hold, hjobs, -⟩
  · rw [hjobs, ← List.append_assoc]
    exact ⟨job, h.append hn, rfl, rfl⟩
  · rw [hold, ← List.append_assoc] at h
    rw [hjobs, ← List.append_assoc]
    exact h.absorb hn

/-- Handing over copies of other items changes nothing for the item. -/
theorem Latest.dispatch (h : ix.Latest c) (hn : c.id ∉ idsOf items) (kind : JobKind) :
    (ix.dispatch kind items).2.Latest c := by
  have ht : (ix.dispatch kind items).2.tombstones[c.id]? = none := by
    rw [getElem?_tombstones_dispatch, if_neg hn, h.not_removed]
  cases h with
  | waiting job hc hr _ =>
    obtain ⟨job', hc', hkind, hticket⟩ := Carrier.dispatch [] hc hn kind
    exact .waiting job' hc' (fun hr' => hr ⟨hkind ▸ hr'.1, hticket ▸ hr'.2⟩) ht
  | shown hj hr hk _ =>
    refine .shown (fun job hm => ?_) hr ?_ ht
    · unfold jobs at hm hj
      rcases ix.submitted_dispatch kind items with ⟨-, hjobs, -⟩ | ⟨front, tail, -, hold, hjobs, -⟩
      · rw [hjobs] at hm
        rcases List.mem_append.mp hm with hm | hm
        · exact hj job hm
        · rw [List.mem_singleton.mp hm]
          exact hn
      · rw [hold] at hj
        rw [hjobs] at hm
        rcases List.mem_append.mp hm with hm | hm
        · exact hj job (List.mem_append_left _ hm)
        · rw [List.mem_singleton.mp hm]
          intro hid
          exact (mem_idsOf_absorb.mp hid).elim
            (hj tail (List.mem_append_right _ (List.mem_singleton_self _))) hn
    · have hg : (ix.dispatch kind items).2.worker.grouper = ix.worker.grouper :=
        ix.worker.grouper_submit kind ix.dispatchColumns items
      rw [hg]
      exact hk

theorem Latest.dispatchSome (h : ix.Latest c) (hn : c.id ∉ idsOf items) (kind : JobKind) :
    (ix.dispatchSome kind items).2.Latest c :=
  dispatchSome_induct (P := fun r => r.2.Latest c) (fun _ => h) (h.dispatch hn kind)

theorem underway_dispatchSome (hi : (idsOf items).Nodup) (hc : c ∈ items) (hk : kind ≠ .reset) :
    (ix.dispatchSome kind items).2.Underway c :=
  dispatchSome_induct (P := fun r => r.2.Underway c) (fun e => absurd e (List.ne_nil_of_mem hc))
    (underway_dispatch hi hc hk)

theorem Underway.dispatchSome (h : ix.Underway c) (hn : c.id ∉ idsOf items) (kind : JobKind) :
    (ix.dispatchSome kind items).2.Underway c := by
  refine dispatchSome_induct (P := fun r => r.2.Underway c) (fun _ => h) ?_
  obtain ⟨job, hc, hk⟩ := h.carried
  obtain ⟨job', hc', hkind, -⟩ := Carrier.dispatch [] hc hn kind
  refine ⟨⟨job', hc', fun e => hk (hkind.symm.trans e)⟩, ?_⟩
  show (ix.dispatch kind items).2.tombstones[c.id]? = none
  rw [getElem?_tombstones_dispatch, if_neg hn, h.not_removed]

end Dispatch

/-! ## 4. Applying a job -/

/-- The copy that is submitted last, if the step submits one again. -/
def renewed (ix : Index) (c : Item) (s : Step) : Item := (copyOf (ix.again s) c.id).getD c

section Delivery

variable {job : FinishedJob} {rest : List FinishedJob}

theorem replaced_iff : ix.replaces job = true ↔ ix.Replaced job.toJob.unmarked := by
  unfold replaces Replaced Job.unmarked
  rw [Bool.and_eq_true, beq_iff_eq, bne_iff_ne]

theorem renewed_of_again_eq_nil {s : Step} (h : ix.again s = []) : ix.renewed c s = c := by
  rw [renewed, h]
  rfl

/-- Dropping a replaced rebuild changes nothing for the item. -/
theorem Latest.dropped (h : ix.Latest c) (hf : ix.worker.finished = job :: rest)
    (hr : ix.replaces job = true) : (ix.popped rest).applying.Latest c := by
  have hj := jobs_popped hf
  cases h with
  | waiting carrier hc hrep ht =>
    rw [hj] at hc
    rcases hc.of_cons with ⟨rfl, -⟩ | hc
    · exact absurd (replaced_iff.mp hr) hrep
    · exact .waiting carrier hc hrep ht
  | shown hjobs hres hk ht =>
    exact .shown (fun other hm => hjobs other (hj ▸ List.mem_cons_of_mem _ hm)) hres hk ht

/-- What waits for the item keeps waiting, whatever becomes of the store. -/
theorem latest_met_of_carrier {carrier : Job} (hc : Carrier (ix.popped rest).jobs c carrier)
    (hr : ¬ ix.Replaced carrier) (ht : ix.tombstones[c.id]? = none) (s : Store) :
    Latest { (ix.popped rest).applying.met with store := s } c := by
  refine .waiting carrier ?_ (fun hrep => hr ⟨hrep.1, ?_⟩) ?_
  · show Carrier (ix.popped rest).applying.met.jobs c carrier
    rw [jobs_met]
    exact hc
  · have hl : (ix.popped rest).applying.met.latestReset ≠ some carrier.ticket := hrep.2
    rw [latestReset_met] at hl
    exact hl
  · show (ix.popped rest).applying.met.tombstones[c.id]? = none
    rw [tombstones_met]
    exact ht

/-- A batch shows the copy it brings, if that is the last one. -/
theorem Latest.taken (h : ix.Latest c) (ho : ix.Coherent) (hd : ix.Distinct)
    (hf : ix.worker.finished = job :: rest)
    (hc : job.columns = (ix.popped rest).met.layout.keyColumns) :
    Latest { (ix.popped rest).applying.met with
      store := (ix.popped rest).met.store.take (ix.popped rest).met.layout.visible ((ix.popped rest).wanted job) } c := by
  have hj := jobs_popped hf
  have hmem : job.toJob.unmarked ∈ ix.jobs := hj ▸ List.mem_cons_self
  have hb : job.batch = (ix.popped rest).worker.grouper.compute job.items job.columns :=
    ho.worker.batch_eq job (hf ▸ List.mem_cons_self)
  have hstore : (ix.popped rest).met.store.Sound := by
    rw [met_popped]
    exact ho.store_met
  cases h with
  | waiting carrier hcar hrep ht =>
    rw [hj] at hcar
    rcases hcar.of_cons with ⟨rfl, hcopy, hothers⟩ | hcar
    · have hi : (idsOf job.items).count c.id ≤ 1 :=
        List.nodup_iff_count_le_one.mp (hd.distinct job.toJob.unmarked hmem) c.id
      have hgiven : (ix.popped rest).given job.columns c.id job.toJob.unmarked =
          some ((ix.popped rest).worker.grouper.keySet job.columns c) :=
        given_eq_some_iff.mpr
          ⟨isTombstoned_eq_false ht job.ticket, Grouper.keysIn_of_count_le_one hcopy hi⟩
      refine .shown ?_ resetting_met ?_ ?_
      · show ∀ other ∈ (ix.popped rest).applying.met.jobs, c.id ∉ idsOf other.items
        rw [jobs_met]
        exact hothers
      · rw [met_applying]
        show (Store.take _ _ _).keysOf[c.id]? =
          some ((ix.popped rest).met.worker.grouper.keySet (ix.popped rest).met.layout.keyColumns c)
        rw [worker_met, keysOf_take_wanted hstore hb, hgiven, Option.some_or, hc]
      · show (ix.popped rest).applying.met.tombstones[c.id]? = none
        rw [tombstones_met]
        exact ht
    · exact latest_met_of_carrier hcar hrep ht _
  | shown hjobs hres hk ht =>
    have hgiven : (ix.popped rest).given job.columns c.id job.toJob.unmarked = none :=
      given_eq_none_iff.mpr fun hm => absurd hm (hjobs _ hmem)
    have hmet : (ix.popped rest).met = ix.popped rest := met_of_not_resetting hres
    have hmet' : (ix.popped rest).applying.met = (ix.popped rest).applying := met_of_not_resetting hres
    rw [hmet] at hstore ⊢
    rw [hmet']
    refine .shown (fun other hm => hjobs other (hj ▸ List.mem_cons_of_mem _ hm)) hres ?_ ht
    refine Eq.trans ?_ hk
    show (Store.take _ _ _).keysOf[c.id]? = (ix.popped rest).store.keysOf[c.id]?
    rw [keysOf_take_wanted hstore hb, hgiven, Option.none_or]

/-- Of the copies handed over again and the one on its way, the last one is the one handed over. -/
theorem latest_resubmitted (hi : (idsOf job.items).Nodup) (h : ix.Latest c ∨ c ∈ ix.kept job) :
    (ix.resubmitted job).Latest ((copyOf (ix.kept job) c.id).getD c) := by
  have hk : (idsOf (ix.kept job)).Nodup := nodup_idsOf_filter hi _
  rw [resubmitted_eq]
  by_cases hm : c.id ∈ idsOf (ix.kept job)
  · obtain ⟨u, hu, hid⟩ := mem_idsOf.mp hm
    rw [(copyOf_eq_some_iff hk).mpr ⟨hu, hid⟩]
    exact (underway_dispatchSome hk hu fun e => by cases e).latest
  · have hnone : copyOf (ix.kept job) c.id = none := by
      refine Option.eq_none_iff_forall_ne_some.mpr fun u e => ?_
      obtain ⟨hu, hid⟩ := (copyOf_eq_some_iff hk).mp e
      exact hm (mem_idsOf.mpr ⟨u, hu, hid⟩)
    have hl : ix.Latest c := h.resolve_right fun hc => hm (mem_idsOf_of_mem hc)
    rw [hnone]
    exact hl.dispatchSome hm .add

/-- A job that is submitted again may make an older copy the last one. -/
theorem Latest.again (h : ix.Latest c) (hd : ix.Distinct) (hf : ix.worker.finished = job :: rest) :
    ((ix.popped rest).applying.met.resubmitted job).Latest ((copyOf (ix.kept job) c.id).getD c) := by
  have hj := jobs_popped hf
  have hi : (idsOf job.items).Nodup := hd.distinct job.toJob.unmarked (hj ▸ List.mem_cons_self)
  have hkept : (ix.popped rest).applying.met.kept job = ix.kept job := kept_met
  rw [← hkept]
  refine latest_resubmitted hi ?_
  cases h with
  | waiting carrier hc hrep ht =>
    rw [hj] at hc
    rcases hc.of_cons with ⟨rfl, hcitem, -⟩ | hc
    · refine Or.inr (hkept ▸ List.mem_filter.mpr ⟨hcitem, ?_⟩)
      rw [isTombstoned_eq_false ht]
      rfl
    · exact Or.inl (latest_met_of_carrier hc hrep ht (ix.popped rest).applying.met.store)
  | shown hjobs hres hk ht =>
    have hmet : (ix.popped rest).applying.met = (ix.popped rest).applying := met_of_not_resetting hres
    rw [hmet]
    exact Or.inl (.shown (fun other hm => hjobs other (hj ▸ List.mem_cons_of_mem _ hm)) hres hk ht)

/-- **After a delivery the last copy is on its way or shown**, the last one being the one submitted
    again, if there is one. -/
theorem Latest.delivered (h : ix.Latest c) (ho : ix.Coherent) (hd : ix.Distinct) :
    ix.delivered.Latest (ix.renewed c .deliver) := by
  rcases ix.delivered_cases with ⟨hf, e⟩ | ⟨job, rest, hf, -⟩
  · rw [e, renewed_of_again_eq_nil (again_of_none hf)]
    exact h
  · obtain ⟨stage, summary, notifier, batchesApplied, resets, hout, e⟩ := delivered_outcome hf
    suffices hs : stage.Latest (ix.renewed c .deliver) by
      rw [e]
      refine hs.of_parts_eq rfl rfl rfl ?_ rfl rfl rfl
      show (stage.tombstones.filter _)[(ix.renewed c .deliver).id]? = _
      rw [Std.ExtTreeMap.getElem?_filter', hs.not_removed]
      rfl
    cases hout with
    | dropped hr hs =>
      subst hs
      rw [renewed_of_again_eq_nil (again_of_taken hf (Or.inl hr))]
      exact h.dropped hf hr
    | taken hr hc hs =>
      subst hs
      have hc' : job.columns = ix.met.layout.keyColumns := by
        rw [hc, met_popped]
        rfl
      rw [renewed_of_again_eq_nil (again_of_taken hf (Or.inr hc'))]
      exact h.taken ho hd hf hc
    | again hr hc hs =>
      subst hs
      have hc' : job.columns ≠ ix.met.layout.keyColumns := by
        rw [met_popped] at hc
        exact hc
      rw [renewed, again_of_stale hf hr hc']
      exact h.again hd hf

end Delivery

/-! ## 5. Steps -/

/-- The items that a step hands to the worker as they were brought. -/
def handed (ix : Index) : Step → List Item
  | .reset _ items | .fullReload items | .update items => items
  | .add items => ix.unindexed items
  | _ => []

theorem latest_rebuilt {columns : List Column} {items : List Item} (hc : c ∈ items) :
    (ix.rebuilt columns items).Latest c := by
  have hne : items.isEmpty = false := List.isEmpty_eq_false_iff.mpr (List.ne_nil_of_mem hc)
  have hb : ix.isBare items = false := by rw [isBare, hne, Bool.false_and, Bool.false_and]
  obtain ⟨hjobs, hlatest⟩ := ix.jobs_rebuilt columns hb
  refine .waiting _ (hjobs ▸ carrier_append ix.jobs hc) (fun hr => hr.2 hlatest) ?_
  unfold rebuilt
  rw [hb, if_neg Bool.false_ne_true]
  dsimp only
  rw [getElem?_tombstones_dispatch, if_pos (mem_idsOf_of_mem hc)]

/-- An update hands its items over in two parts, that have no item in common. -/
theorem underway_updated {items : List Item} (hi : (idsOf items).Nodup) (hc : c ∈ items) :
    (ix.updated items).Underway c := by
  unfold updated
  split
  · exact underway_dispatchSome hi hc fun e => by cases e
  · cases hx : ix.store.indexes c.id with
    | true =>
      have hknown : (ix.dispatchSome .update
          (items.filter fun item => ix.store.indexes item.id)).2.Underway c :=
        underway_dispatchSome (nodup_idsOf_filter hi _) (List.mem_filter.mpr ⟨hc, hx⟩)
          fun e => by cases e
      refine hknown.dispatchSome (fun hm => ?_) .add
      have hn := ((mem_idsOf_filter fun id => !ix.store.indexes id).mp hm).2
      rw [hx] at hn
      cases hn
    | false =>
      refine underway_dispatchSome (nodup_idsOf_filter hi _) (List.mem_filter.mpr ⟨hc, ?_⟩)
        fun e => by cases e
      rw [hx]
      rfl

/-- **A copy that a step hands to the worker is the last of its item.** -/
theorem latest_after {s : Step} (hs : (idsOf s.items).Nodup) (hc : c ∈ ix.handed s) :
    (ix.after s).Latest c := by
  cases s with
  | reset columns items => exact latest_rebuilt hc
  | fullReload items => exact latest_rebuilt hc
  | add items =>
    have hi : (idsOf (ix.unindexed items)).Nodup := hs.sublist ((ix.unindexed_sublist items).map _)
    exact (underway_dispatchSome hi hc fun e => by cases e).latest
  | update items => exact (underway_updated hs hc).latest
  | _ => exact absurd hc List.not_mem_nil

theorem Latest.refreshSummary (h : ix.Latest c) : ix.refreshSummary.Latest c := by
  obtain ⟨summary, notifier, e⟩ := ix.refreshSummary_eq
  rw [e]
  exact h.of_parts_eq rfl rfl rfl rfl rfl rfl rfl

theorem Latest.removed (h : ix.Latest c) (hs : ix.store.Sound) {ids : List ItemId} (hn : c.id ∉ ids) :
    (ix.removed ids).Latest c := by
  have ht : (ix.buried ids).tombstones[c.id]? = ix.tombstones[c.id]? := by
    rw [getElem?_tombstones_buried, if_neg fun hm => hn hm.2]
  have hd : ((ix.buried ids).detached ids).Latest c := by
    refine h.of_parts_eq rfl rfl rfl ht ?_ rfl rfl
    exact (Store.getElem?_keysOf_detach hs).trans (if_neg hn)
  unfold Index.removed
  split
  · exact hd
  · exact hd.refreshSummary

theorem Latest.hidden (h : ix.Latest c) (i : Nat) : (ix.hidden i).Latest c := by
  unfold Index.hidden
  split
  · exact h
  · exact Latest.refreshSummary (h.of_parts_eq rfl rfl rfl rfl rfl rfl rfl)

/-- **A step that does not name the item keeps the last copy last**, up to copies submitted again. -/
theorem Latest.after (h : ix.Latest c) (ho : ix.Orderly) (hd : ix.Distinct) {s : Step}
    (hs : (idsOf s.items).Nodup) (hr : s.isReset = false) (hm : c.id ∉ s.mentions) :
    (ix.after s).Latest (ix.renewed c s) := by
  cases s with
  | reset columns items => cases hr
  | fullReload items => cases hr
  | add items => exact h.dispatchSome (not_mem_idsOf_sublist hm (ix.unindexed_sublist items)) .add
  | update items =>
    exact updated_induct (P := fun ix' => ix'.Latest c) h
      fun _ kind _ _ hp h => h.dispatchSome (not_mem_idsOf_sublist hm hp) kind
  | remove ids => exact h.removed ho.store hm
  | hideColumn i => exact h.hidden i
  | setSummaryShown shown =>
    show (ix.summarised shown).Latest c
    unfold summarised
    split
    · exact h
    · exact h.of_parts_eq rfl rfl rfl rfl rfl rfl rfl
  | decorationReady id => exact h.of_parts_eq rfl rfl rfl rfl rfl rfl rfl
  | subscribe => exact h.of_parts_eq rfl rfl rfl rfl rfl rfl rfl
  | start => exact h.of_parts_eq ix.worker.jobs_start rfl rfl rfl rfl ix.worker.grouper_start rfl
  | finish => exact h.of_parts_eq ix.worker.jobs_finish rfl rfl rfl rfl ix.worker.grouper_finish rfl
  | deliver => exact h.delivered ho.toCoherent hd

/-! ## 6. Runs -/

theorem id_renewed (ix : Index) (c : Item) (s : Step) : (ix.renewed c s).id = c.id := by
  unfold renewed
  cases hu : copyOf (ix.again s) c.id with
  | none => rfl
  | some u => exact id_of_copyOf hu

/-- The copy of an item that is submitted last, over some steps that do not name it. -/
def lastSubmitted (ix : Index) (c : Item) : List Step → Item
  | [] => c
  | s :: steps => (ix.after s).lastSubmitted (ix.renewed c s) steps

theorem id_lastSubmitted (steps : List Step) : (ix.lastSubmitted c steps).id = c.id := by
  induction steps generalizing ix c with
  | nil => rfl
  | cons s steps ih => exact ih.trans (id_renewed ix c s)

/-- The steps bring no item twice, replace no collection and do not name the item. -/
structure Spares (steps : List Step) (id : ItemId) : Prop where
  distinct : ∀ s ∈ steps, (idsOf s.items).Nodup
  not_reset : ∀ s ∈ steps, s.isReset = false
  unnamed : ∀ s ∈ steps, id ∉ s.mentions

theorem Spares.tail {s : Step} {steps : List Step} {id : ItemId} (h : Spares (s :: steps) id) :
    Spares steps id where
  distinct s' hs := h.distinct s' (List.mem_cons_of_mem _ hs)
  not_reset s' hs := h.not_reset s' (List.mem_cons_of_mem _ hs)
  unnamed s' hs := h.unnamed s' (List.mem_cons_of_mem _ hs)

/-- Over steps that do not name the item, the copy submitted last stays the last. -/
theorem Latest.foldl_after (h : ix.Latest c) (ho : ix.Orderly) (hd : ix.Distinct) {steps : List Step}
    (hs : Spares steps c.id) : (steps.foldl Index.after ix).Latest (ix.lastSubmitted c steps) := by
  induction steps generalizing ix c with
  | nil => exact h
  | cons s steps ih =>
    have hds := hs.distinct s List.mem_cons_self
    refine ih (h.after ho hd hds (hs.not_reset s List.mem_cons_self) (hs.unnamed s List.mem_cons_self))
      (ho.after s) (Distinct.after hd hds) ?_
    rw [id_renewed]
    exact hs.tail

/-- **An idle index shows the copy that was submitted last.** -/
theorem Latest.keysOf_of_idle (h : ix.Latest c) (ho : ix.Orderly) (hi : ix.phase = .idle) :
    ix.keysOf? c.id = some (ix.worker.grouper.keySet ix.layout.keyColumns c) := by
  cases h with
  | waiting job hc hr ht =>
    obtain ⟨front, back, e, -⟩ := hc
    rw [ho.jobs_eq_nil hi] at e
    exact absurd e.symm (List.append_ne_nil_of_right_ne_nil _ (List.cons_ne_nil _ _))
  | shown hj hr hk ht => exact hk

/-! ## 7. Requests -/

/-- While all copies on their way are the one requested, it is the one submitted last. -/
theorem lastSubmitted_eq (hc : ix.Carries fun item => item.id = c.id → item = c) {steps : List Step}
    (hs : Spares steps c.id) : ix.lastSubmitted c steps = c := by
  induction steps generalizing ix with
  | nil => rfl
  | cons s steps ih =>
    have hrenewed : ix.renewed c s = c := by
      unfold renewed
      cases hu : copyOf (ix.again s) c.id with
      | none => rfl
      | some u =>
        obtain ⟨job, hj, hm⟩ := mem_items_of_again (List.mem_of_find?_eq_some hu)
        exact hc.requested job hj u hm (id_of_copyOf hu)
    rw [lastSubmitted, hrenewed]
    refine ih (hc.after (hs.distinct s List.mem_cons_self) fun item hm hid => ?_) hs.tail
    exact absurd (hid ▸ Step.mem_mentions hm) (hs.unnamed s List.mem_cons_self)

theorem mem_items_of_handed {s : Step} (h : c ∈ ix.handed s) : c ∈ s.items := by
  cases s with
  | add items => exact (ix.unindexed_sublist items).subset h
  | _ => exact h

/-- **When no older copy is on its way, the copy requested is the one submitted last.** -/
theorem lastSubmitted_of_no_older {s : Step} {steps : List Step} (hd : ix.Distinct)
    (hs : (idsOf s.items).Nodup) (hc : c ∈ ix.handed s) (hn : ∀ job ∈ ix.jobs, c.id ∉ idsOf job.items)
    (hsteps : Spares steps c.id) : (ix.after s).lastSubmitted c steps = c := by
  have h₀ : ix.Carries fun item => item.id = c.id → item = c :=
    ⟨hd.distinct, fun job hj item hm hid => absurd (mem_idsOf.mpr ⟨item, hm, hid⟩) (hn job hj)⟩
  have hcar : (ix.after s).Carries fun item => item.id = c.id → item = c :=
    h₀.after hs fun item hm hid => eq_of_id_eq hs hm (mem_items_of_handed hc) hid
  exact lastSubmitted_eq hcar hsteps

/-- **Which copy of an item is shown in the end.** A request hands a copy to the worker, and no later
    step resets the index or names the item. Once the index is idle, the item has the keys of the copy
    that was submitted last, which is the one requested unless a job computed for other columns has
    brought another copy since. So the copy requested is the one shown exactly when the copy submitted
    last has the same keys, and in particular when no older copy was on its way at the request. -/
theorem newest_request_wins_iff (extractor : Extractor) (options : IndexOptions)
    {before later : List Step} {request : Step} {c : Item}
    (hb : ∀ s ∈ before, (idsOf s.items).Nodup) (hr : (idsOf request.items).Nodup)
    (hl : Spares later c.id) :
    ∃ ix₀ ix₁ ix, (ofOptions extractor options).run before = .ok ix₀ ∧ ix₀.step request = .ok ix₁ ∧
      ix₁.run later = .ok ix ∧ (c ∈ ix₀.handed request → ix.isIdle = true →
        ix.keysOf? c.id = some (Grouper.keySet { extractor } ix.layout.keyColumns (ix₁.lastSubmitted c later)) ∧
        (ix.keysOf? c.id = some (Grouper.keySet { extractor } ix.layout.keyColumns c) ↔
          Grouper.keySet { extractor } ix.layout.keyColumns (ix₁.lastSubmitted c later) =
            Grouper.keySet { extractor } ix.layout.keyColumns c) ∧
        ((∀ job ∈ ix₀.jobs, c.id ∉ idsOf job.items) →
          ix.keysOf? c.id = some (Grouper.keySet { extractor } ix.layout.keyColumns c))) := by
  have ho₀ := (orderly_ofOptions extractor options).foldl_after before
  have ho₁ := ho₀.after request
  refine ⟨_, _, _, run_eq (quiet_ofOptions extractor options) before, step_eq ho₀.quiet request,
    run_eq ho₁.quiet later, fun hc hi => ?_⟩
  have hd₀ : (before.foldl Index.after (ofOptions extractor options)).Distinct :=
    Distinct.foldl_after (carries_of_no_jobs rfl) hb
  have hlatest := (latest_after hr hc).foldl_after ho₁ (Distinct.after hd₀ hr) hl
  have hkeys := hlatest.keysOf_of_idle (ho₁.foldl_after later) (beq_iff_eq.mp hi)
  rw [id_lastSubmitted, grouper_foldl_after, grouper_after, grouper_foldl_after] at hkeys
  refine ⟨hkeys, ?_, fun hn => ?_⟩
  · rw [hkeys]
    exact Option.some_inj
  · rw [lastSubmitted_of_no_older hd₀ hr hc hn hl] at hkeys
    exact hkeys

/-- Two copies of one item, an older and a newer one. -/
def olderCopy : Item := Item.withField ⟨1, ∅⟩ "genre" "Old"

def newerCopy : Item := Item.withField ⟨1, ∅⟩ "genre" "New"

/-- The older copy is brought, and a reset follows that replaces the columns it is computed for. -/
def overtakenBefore : List Step :=
  [.add [olderCopy], .start, .finish, .reset [.ofField "genre" "Genre"] [], .start, .finish]

/-- The newer copy has been brought, and the worker and the deliveries run to the end. -/
def overtakenLater : List Step :=
  [.start, .finish, .deliver, .start, .finish, .deliver, .deliver, .deliver]

/-- The older copy is shown. -/
def caughtUp : List Step := [.add [olderCopy], .start, .finish, .deliver]

/-- The older copy comes to be the last that is submitted, so the item ends with its keys and not with
    those of the newer one. When the older copy has been taken in before, the newer one is shown. -/
theorem newest_request_wins_iff_overtaken :
    ((∀ s ∈ overtakenBefore, (idsOf s.items).Nodup) ∧ (idsOf (Step.items (.add [newerCopy]))).Nodup ∧
      Spares overtakenLater newerCopy.id ∧
      ∃ ix₀ ix₁ ix, (ofOptions (fieldExtractor "") { columns := [.ofField "artist" "Artist"] }).run
          overtakenBefore = .ok ix₀ ∧ ix₀.step (.add [newerCopy]) = .ok ix₁ ∧
            ix₁.run overtakenLater = .ok ix ∧
        newerCopy ∈ ix₀.handed (.add [newerCopy]) ∧ ix.isIdle = true ∧
        ix.keysOf? 1 = some (Grouper.keySet { extractor := fieldExtractor "" } ix.layout.keyColumns
          (ix₁.lastSubmitted newerCopy overtakenLater)) ∧
        (ix.keysOf? 1 =
            some (Grouper.keySet { extractor := fieldExtractor "" } ix.layout.keyColumns newerCopy) ↔
          Grouper.keySet { extractor := fieldExtractor "" } ix.layout.keyColumns
              (ix₁.lastSubmitted newerCopy overtakenLater) =
            Grouper.keySet { extractor := fieldExtractor "" } ix.layout.keyColumns newerCopy) ∧
        ix₁.lastSubmitted newerCopy overtakenLater = olderCopy ∧
        ix.keysOf? 1 ≠
          some (Grouper.keySet { extractor := fieldExtractor "" } ix.layout.keyColumns newerCopy) ∧
        ∃ job ∈ ix₀.jobs, 1 ∈ idsOf job.items) ∧
    (∀ s ∈ caughtUp, (idsOf s.items).Nodup) ∧ (idsOf (Step.items (.update [newerCopy]))).Nodup ∧
      Spares [.start, .finish, .deliver] newerCopy.id ∧
      ∃ ix₀ ix₁ ix, (ofOptions (fieldExtractor "") { columns := [.ofField "genre" "Genre"] }).run
          caughtUp = .ok ix₀ ∧ ix₀.step (.update [newerCopy]) = .ok ix₁ ∧
            ix₁.run [.start, .finish, .deliver] = .ok ix ∧
        newerCopy ∈ ix₀.handed (.update [newerCopy]) ∧ ix.isIdle = true ∧
        (∀ job ∈ ix₀.jobs, 1 ∉ idsOf job.items) ∧
        ix.keysOf? 1 =
          some (Grouper.keySet { extractor := fieldExtractor "" } ix.layout.keyColumns newerCopy) := by
  constructor
  · have hb : ∀ s ∈ overtakenBefore, (idsOf s.items).Nodup := by decide
    have hr : (idsOf (Step.items (.add [newerCopy]))).Nodup := by decide
    have hl : Spares overtakenLater newerCopy.id := ⟨by decide, by decide, by decide⟩
    obtain ⟨ix₀, ix₁, ix, h₀, h₁, h, hk⟩ :=
      newest_request_wins_iff (fieldExtractor "") { columns := [.ofField "artist" "Artist"] } hb hr hl
    have ho := orderly_ofOptions (fieldExtractor "") { columns := [.ofField "artist" "Artist"] }
    have ho₀ := ho.foldl_after overtakenBefore
    have e₀ := eq_foldl_after_of_run ho.quiet h₀
    have hc : newerCopy ∈ ix₀.handed (.add [newerCopy]) := by
      rw [e₀]
      decide +kernel
    subst e₀
    obtain rfl := eq_after_of_step ho₀.quiet h₁
    have e := eq_foldl_after_of_run (ho₀.after _).quiet h
    have hi : ix.isIdle = true := by
      rw [e]
      decide +kernel
    subst e
    obtain ⟨hkeys, hiff, -⟩ := hk hc hi
    exact ⟨hb, hr, hl, _, _, _, h₀, h₁, h, hc, hi, hkeys, hiff, by decide +kernel⟩
  · have hb : ∀ s ∈ caughtUp, (idsOf s.items).Nodup := by decide
    have hr : (idsOf (Step.items (.update [newerCopy]))).Nodup := by decide
    have hl : Spares [.start, .finish, .deliver] newerCopy.id := ⟨by decide, by decide, by decide⟩
    obtain ⟨ix₀, ix₁, ix, h₀, h₁, h, hk⟩ :=
      newest_request_wins_iff (fieldExtractor "") { columns := [.ofField "genre" "Genre"] } hb hr hl
    have ho := orderly_ofOptions (fieldExtractor "") { columns := [.ofField "genre" "Genre"] }
    have ho₀ := ho.foldl_after caughtUp
    have e₀ := eq_foldl_after_of_run ho.quiet h₀
    have hc : newerCopy ∈ ix₀.handed (.update [newerCopy]) := by
      rw [e₀]
      decide +kernel
    have hn : ∀ job ∈ ix₀.jobs, newerCopy.id ∉ idsOf job.items := by
      rw [e₀]
      decide +kernel
    subst e₀
    obtain rfl := eq_after_of_step ho₀.quiet h₁
    have e := eq_foldl_after_of_run (ho₀.after _).quiet h
    have hi : ix.isIdle = true := by
      rw [e]
      decide +kernel
    exact ⟨hb, hr, hl, _, _, _, h₀, h₁, h, hc, hi, hn, (hk hc hi).2.2 hn⟩

/-- **A newer request can lose to an older copy that is submitted again after it.** -/
theorem newer_request_can_lose : ¬ ∀ (extractor : Extractor) (options : IndexOptions)
    (before later : List Step) (request : Step) (c : Item) (ix₀ ix₁ ix : Index),
    (∀ s ∈ before, (idsOf s.items).Nodup) → (idsOf request.items).Nodup → Spares later c.id →
    (ofOptions extractor options).run before = .ok ix₀ → ix₀.step request = .ok ix₁ →
    ix₁.run later = .ok ix → c ∈ ix₀.handed request → ix.isIdle = true →
    ix.keysOf? c.id = some (Grouper.keySet { extractor } ix.layout.keyColumns c) := by
  intro h
  have ho₀ := (orderly_ofOptions (fieldExtractor "")
    { columns := [.ofField "artist" "Artist"] }).foldl_after
    overtakenBefore
  have hkeys := h (fieldExtractor "") { columns := [.ofField "artist" "Artist"] } overtakenBefore
    overtakenLater (.add [newerCopy]) newerCopy _ _ _ (by decide) (by decide)
    ⟨by decide, by decide, by decide⟩
    (run_eq (quiet_ofOptions _ _) overtakenBefore) (step_eq ho₀.quiet _)
    (run_eq (ho₀.after _).quiet overtakenLater) (by decide +kernel) (by decide +kernel)
  exact absurd hkeys (by decide +kernel)

end Index

end MediaIndex
