import MediaIndex.Index.Lookup
import MediaIndex.Proofs.Index.Bringing

/-!
# What a reset leaves of the requests before it

A reset replaces the collection, and a rebuild that was asked for before it is dropped when it arrives.
A rebuild computed for other columns, however, goes back to the worker as an addition, and additions
outlive a reset. If the next reset comes meanwhile, it leaves the items of the rebuild it replaces.

* `Index.Due` -- the item is indexed, or a job that still counts brings it;
* `due_after`, `due_rebuilt` -- what a step makes of this, and what a reset does;
* `Index.onTheWay` -- the requests for an item whose copy has not been taken in;
* `Index.LeftBehind` -- what a reset leaves of the reset it replaces;
* `reset_accounts_iff` -- the items of an idle index that no request accounts for are those left behind.
-/

namespace MediaIndex

namespace Index

variable {ix ix' : Index} {id : ItemId} {kind : JobKind} {items : List Item}

/-! ## 1. Items that are due -/

/-- A job brings the item and still counts for it: it is no rebuild that has been replaced, and the
    item was not removed since. -/
def Pending (ix : Index) (id : ItemId) : Prop :=
  ∃ kind ticket, ix.Brings id kind ticket ∧ (kind = .reset → ix.latestReset = some ticket) ∧
    ix.isTombstoned id ticket = false

/-- The item is indexed and will not be cleared, or a job brings it that still counts. -/
def Due (ix : Index) (id : ItemId) : Prop :=
  ix.Pending id ∨ (ix.resetting = false ∧ ix.store.indexes id = true)

theorem pending_congr (hj : ix'.jobs = ix.jobs) (hl : ix'.latestReset = ix.latestReset)
    (ht : ix'.tombstones[id]? = ix.tombstones[id]?) : ix'.Pending id ↔ ix.Pending id := by
  unfold Pending
  simp only [brings_congr hj, hl, isTombstoned_congr ht]

theorem due_congr (hj : ix'.jobs = ix.jobs) (hl : ix'.latestReset = ix.latestReset)
    (ht : ix'.tombstones[id]? = ix.tombstones[id]?) (hr : ix'.resetting = ix.resetting)
    (hi : ix'.store.indexes id = ix.store.indexes id) : ix'.Due id ↔ ix.Due id := by
  rw [Due, pending_congr hj hl ht, hr, hi, Due]

/-- An idle index has the items that are due. -/
theorem due_iff_of_idle (ho : ix.Orderly) (hi : ix.phase = .idle) :
    ix.Due id ↔ ix.store.indexes id = true := by
  have hn : ¬ ix.Pending id := by
    intro h
    obtain ⟨kind, ticket, ⟨job, hj, -⟩, -⟩ := h
    rw [ho.jobs_eq_nil hi] at hj
    exact absurd hj List.not_mem_nil
  rw [Due, or_iff_right hn, ho.resetting_eq_false hi]
  exact and_iff_right rfl

/-! ## 2. Requests -/

/-- **Items that are handed to the worker are pending, the others as before.** -/
theorem pending_dispatch (hk : kind ≠ .reset) :
    (ix.dispatch kind items).2.Pending id ↔ ix.Pending id ∨ id ∈ idsOf items := by
  have hl : (ix.dispatch kind items).2.latestReset = ix.latestReset := rfl
  by_cases hm : id ∈ idsOf items
  · refine iff_of_true
      ⟨kind, _, brings_dispatch.mpr (Or.inr ⟨hm, rfl, rfl⟩), fun e => absurd e hk, ?_⟩ (Or.inr hm)
    refine isTombstoned_eq_false ?_ _
    rw [getElem?_tombstones_dispatch, if_pos hm]
  · have ht : (ix.dispatch kind items).2.tombstones[id]? = ix.tombstones[id]? := by
      rw [getElem?_tombstones_dispatch, if_neg hm]
    unfold Pending
    simp only [brings_dispatch, hl, isTombstoned_congr ht, hm, false_and, or_false]

theorem pending_dispatchSome (hk : kind ≠ .reset) :
    (ix.dispatchSome kind items).2.Pending id ↔ ix.Pending id ∨ id ∈ idsOf items := by
  refine dispatchSome_induct (P := fun r => r.2.Pending id ↔ _) (fun e => ?_) (pending_dispatch hk)
  rw [e]
  exact (or_iff_left List.not_mem_nil).symm

/-- Handing items over touches neither the store nor a pending reset. -/
theorem parts_dispatchSome (ix : Index) (kind : JobKind) (items : List Item) :
    (ix.dispatchSome kind items).2.resetting = ix.resetting ∧
      (ix.dispatchSome kind items).2.store = ix.store :=
  dispatchSome_induct (P := fun r => r.2.resetting = _ ∧ r.2.store = _) (fun _ => ⟨rfl, rfl⟩) ⟨rfl, rfl⟩

theorem due_dispatchSome (hk : kind ≠ .reset) (hn : id ∉ idsOf items) :
    (ix.dispatchSome kind items).2.Due id ↔ ix.Due id := by
  obtain ⟨hr, hs⟩ := ix.parts_dispatchSome kind items
  rw [Due, pending_dispatchSome hk, or_iff_left hn, hr, hs, Due]

theorem due_updated (hn : id ∉ idsOf items) : (ix.updated items).Due id ↔ ix.Due id :=
  updated_induct (P := fun ix' => ix'.Due id ↔ ix.Due id) Iff.rfl
    fun _ _ _ hk hp h => (due_dispatchSome hk (not_mem_idsOf_sublist hn hp)).trans h

theorem due_brought (hn : id ∉ idsOf items) : (ix.brought items).Due id ↔ ix.Due id :=
  due_dispatchSome (fun e => by cases e) (not_mem_idsOf_sublist hn (ix.unindexed_sublist items))

theorem due_refreshSummary : ix.refreshSummary.Due id ↔ ix.Due id := by
  obtain ⟨summary, notifier, e⟩ := ix.refreshSummary_eq
  rw [e]
  exact due_congr rfl rfl rfl rfl rfl

/-- Removing items leaves the others due as they were, and none of its own. -/
theorem due_removed (ho : ix.Orderly) {ids : List ItemId} :
    (ix.removed ids).Due id ↔ ix.Due id ∧ id ∉ ids := by
  suffices hd : ((ix.buried ids).detached ids).Due id ↔ ix.Due id ∧ id ∉ ids by
    unfold removed
    split
    · exact hd
    · exact due_refreshSummary.trans hd
  have hstore : ((ix.buried ids).detached ids).store.indexes id =
    (ix.store.detach ids).store.indexes id := rfl
  by_cases hm : id ∈ ids
  · refine iff_of_false (fun h => ?_) fun h => h.2 hm
    rcases h with ⟨kind, ticket, hb, -, ht⟩ | ⟨-, hi⟩
    · -- every outstanding job has a ticket that the removal covers
      have hb' : ix.Brings id kind ticket := (brings_congr rfl).mp hb
      have hne : ix.outstanding ≠ 0 := by
        obtain ⟨job, hj, -⟩ := hb'
        rw [ho.outstanding_eq]
        exact fun e => List.ne_nil_of_mem hj (List.length_eq_zero_iff.mp e)
      have hburied : ((ix.buried ids).detached ids).tombstones[id]? = some ix.worker.lastTicket := by
        show (ix.buried ids).tombstones[id]? = _
        rw [getElem?_tombstones_buried, if_pos ⟨hne, hm⟩]
      rw [isTombstoned, hburied] at ht
      exact of_decide_eq_false ht (hb'.ticket_le ho.worker)
    · rw [hstore, Store.indexes_eq_isSome, Store.getElem?_keysOf_detach ho.store, if_pos hm] at hi
      cases hi
  · rw [and_iff_left hm]
    refine due_congr rfl rfl ?_ rfl ?_
    · show (ix.buried ids).tombstones[id]? = _
      rw [getElem?_tombstones_buried, if_neg fun h => hm h.2]
    · rw [hstore, Store.indexes_eq_isSome, Store.getElem?_keysOf_detach ho.store, if_neg hm,
        Store.indexes_eq_isSome]

theorem due_hidden {i : Nat} : (ix.hidden i).Due id ↔ ix.Due id := by
  unfold hidden
  split
  · exact Iff.rfl
  · rw [due_refreshSummary]
    exact due_congr rfl rfl rfl rfl rfl

/-! ## 3. Deliveries -/

theorem indexes_met :
    ix.met.store.indexes id = true ↔ ix.resetting = false ∧ ix.store.indexes id = true := by
  rw [store_met]
  cases ix.resetting with
  | true => exact iff_of_false (fun h => by cases h) fun h => by cases h.1
  | false => exact (and_iff_right rfl).symm

section Delivery

variable {job : FinishedJob} {rest : List FinishedJob}

theorem replaces_eq_false_iff :
    ix.replaces job = false ↔ (job.kind = .reset → ix.latestReset = some job.ticket) := by
  unfold replaces
  rw [Bool.and_eq_false_imp, beq_iff_eq, bne_eq_false_iff_eq]

/-- The first job counts for its items, if it is no replaced rebuild; so do the jobs behind it. -/
theorem pending_popped (hf : ix.worker.finished = job :: rest) : ix.Pending id ↔
    (ix.replaces job = false ∧ id ∈ idsOf (ix.kept job)) ∨ (ix.popped rest).Pending id := by
  rw [mem_idsOf_kept, replaces_eq_false_iff]
  unfold Pending
  simp only [brings_popped hf, or_and_right, exists_or]
  refine or_congr_left ⟨?_, ?_⟩
  · intro h
    obtain ⟨kind, ticket, ⟨hm, rfl, rfl⟩, hl, ht⟩ := h
    exact ⟨hl, hm, ht⟩
  · intro h
    obtain ⟨hl, hm, ht⟩ := h
    exact ⟨_, _, ⟨hm, rfl, rfl⟩, hl, ht⟩

/-- What is due does not depend on what is forgotten at the end of a delivery. -/
theorem due_delivered_iff (ho : ix.Coherent) (hf : ix.worker.finished = job :: rest) :
    ∃ stage, (ix.popped rest).Outcome job stage ∧ (ix.delivered.Due id ↔ stage.Due id) := by
  obtain ⟨stage, summary, notifier, batchesApplied, resets, hout, e⟩ := delivered_outcome hf
  refine ⟨stage, hout, ?_⟩
  have hb (kind : JobKind) (ticket : Ticket) : ix.delivered.Brings id kind ticket ↔
      stage.Brings id kind ticket := by
    rw [e]
    exact brings_congr rfl
  have ht {kind : JobKind} {ticket : Ticket} (h : stage.Brings id kind ticket) :
      ix.delivered.isTombstoned id ticket = stage.isTombstoned id ticket := by
    rw [e]
    exact isTombstoned_booked (lt_of_brings_outcome ho.worker hf hout h)
  have hl : ix.delivered.latestReset = stage.latestReset := by rw [e]; rfl
  have hr : ix.delivered.resetting = stage.resetting := by rw [e]; rfl
  have hs : ix.delivered.store = stage.store := by rw [e]; rfl
  rw [Due, Due, hr, hs]
  refine or_congr_left ?_
  unfold Pending
  constructor
  · intro hx
    obtain ⟨kind, ticket, h, hlatest, hn⟩ := hx
    have h' := (hb kind ticket).mp h
    exact ⟨kind, ticket, h', hl ▸ hlatest, ht h' ▸ hn⟩
  · intro hx
    obtain ⟨kind, ticket, h, hlatest, hn⟩ := hx
    exact ⟨kind, ticket, (hb kind ticket).mpr h, hl.symm ▸ hlatest, (ht h).trans hn⟩

theorem pending_met : (ix.popped rest).applying.met.Pending id ↔ (ix.popped rest).Pending id := by
  refine pending_congr jobs_met ?_ ?_
  · rw [latestReset_met]
    rfl
  · rw [tombstones_met]
    rfl

/-- **A delivery leaves every item due as it was.** -/
theorem due_delivered (ho : ix.Coherent) : ix.delivered.Due id ↔ ix.Due id := by
  rcases ix.delivered_cases with ⟨-, e⟩ | ⟨job, rest, hf, -⟩
  · rw [e]
  obtain ⟨stage, hout, hd⟩ : ∃ stage, (ix.popped rest).Outcome job stage ∧
      (ix.delivered.Due id ↔ stage.Due id) := due_delivered_iff ho hf
  have hb : job.batch = (ix.popped rest).worker.grouper.compute job.items job.columns :=
    ho.worker.batch_eq job (hf ▸ List.mem_cons_self)
  have hmet : (ix.popped rest).met.store.indexes id = true ↔
      ix.resetting = false ∧ ix.store.indexes id = true := indexes_met
  rw [hd, Due, Due, pending_popped hf, ← hmet]
  cases hout with
  | dropped hr hs =>
    subst hs
    have hr' : ix.replaces job = true := hr
    rw [hr', hmet]
    refine or_congr_left ?_
    rw [or_iff_right fun h => by cases h.1]
    exact pending_congr rfl rfl rfl
  | taken hr hc hs =>
    subst hs
    have hr' : ix.replaces job = false := hr
    have hstore : (ix.popped rest).met.store.Sound := by
      rw [met_popped]
      exact ho.store_met
    have hp : Pending { (ix.popped rest).applying.met with
        store := (ix.popped rest).met.store.take (ix.popped rest).met.layout.visible
          ((ix.popped rest).wanted job) } id ↔ (ix.popped rest).Pending id :=
      Iff.trans (pending_congr rfl rfl rfl) pending_met
    have hres : (ix.popped rest).applying.met.resetting = false := resetting_met
    rw [hp, hr', and_iff_right rfl]
    show _ ∨ (_ = false ∧ Store.indexes (Store.take _ _ _) id = true) ↔ _
    rw [hres, and_iff_right rfl, Store.indexes_take hstore (sound_wanted _ hb), exists_puts_wanted hb,
      mem_requested_wanted_iff hb]
    have hkept : (ix.popped rest).kept job = ix.kept job := rfl
    rw [hkept]
    tauto
  | again hr hc hs =>
    subst hs
    have hr' : ix.replaces job = false := hr
    obtain ⟨hres, hstore⟩ := (ix.popped rest).applying.met.parts_dispatchSome .add (ix.kept job)
    have hmet : (ix.popped rest).applying.met.store = (ix.popped rest).met.store := by rw [met_applying]
    rw [resubmitted_eq, kept_met, pending_dispatchSome (fun e => by cases e), pending_met, hres, hstore,
      resetting_met, hmet, hr', and_iff_right rfl, and_iff_right rfl,
      or_comm (a := (ix.popped rest).Pending id)]

end Delivery

/-! ## 4. Steps -/

/-- **A step that brings no copy of an item leaves it due unless it removes it.** -/
theorem due_after (ho : ix.Orderly) {s : Step} (hr : s.isReset = false) (hn : id ∉ idsOf s.items) :
    (ix.after s).Due id ↔ ix.Due id ∧ id ∉ s.mentions := by
  cases s with
  | reset columns items => cases hr
  | fullReload items => cases hr
  | remove ids => exact due_removed ho
  | add items => exact (due_brought hn).trans (and_iff_left hn).symm
  | update items => exact (due_updated hn).trans (and_iff_left hn).symm
  | hideColumn i => exact due_hidden.trans (and_iff_left hn).symm
  | setSummaryShown shown =>
    refine Iff.trans ?_ (and_iff_left hn).symm
    show (ix.summarised shown).Due id ↔ _
    unfold summarised
    split
    · exact Iff.rfl
    · exact due_congr rfl rfl rfl rfl rfl
  | decorationReady other => exact (due_congr rfl rfl rfl rfl rfl).trans (and_iff_left hn).symm
  | subscribe => exact (due_congr rfl rfl rfl rfl rfl).trans (and_iff_left hn).symm
  | start =>
    have hj : (ix.after .start).jobs = ix.jobs := ix.worker.jobs_start
    exact (due_congr hj rfl rfl rfl rfl).trans (and_iff_left hn).symm
  | finish =>
    have hj : (ix.after .finish).jobs = ix.jobs := ix.worker.jobs_finish
    exact (due_congr hj rfl rfl rfl rfl).trans (and_iff_left hn).symm
  | deliver => exact (due_delivered ho.toCoherent).trans (and_iff_left hn).symm

theorem due_foldl_after (ho : ix.Orderly) {steps : List Step} (hr : ∀ s ∈ steps, s.isReset = false)
    (hn : ∀ s ∈ steps, id ∉ idsOf s.items) :
    (steps.foldl Index.after ix).Due id ↔ ix.Due id ∧ ∀ s ∈ steps, id ∉ s.mentions := by
  induction steps generalizing ix with
  | nil => exact (and_iff_left fun _ h => absurd h List.not_mem_nil).symm
  | cons s steps ih =>
    rw [List.foldl_cons, ih (ho.after s) (fun s' h => hr s' (List.mem_cons_of_mem _ h))
      (fun s' h => hn s' (List.mem_cons_of_mem _ h)),
      due_after ho (hr s List.mem_cons_self) (hn s List.mem_cons_self), List.forall_mem_cons, and_assoc]

/-- **After a reset its own items are due, and those that jobs other than rebuilds bring.** -/
theorem due_rebuilt (ho : ix.Orderly) {columns : List Column} : (ix.rebuilt columns items).Due id ↔
    id ∈ idsOf items ∨
      ∃ kind ticket, ix.Brings id kind ticket ∧ kind ≠ .reset ∧ ix.isTombstoned id ticket = false := by
  cases hb : ix.isBare items with
  | true =>
    have hjobs : ix.jobs = [] := ho.jobs_eq_nil_of_bare hb
    have hnone {kind : JobKind} {ticket : Ticket} : ¬ ix.Brings id kind ticket := by
      intro hx
      obtain ⟨job, hj, -⟩ := hx
      rw [hjobs] at hj
      exact absurd hj List.not_mem_nil
    refine iff_of_false ?_ ?_
    · rw [rebuilt_of_bare hb]
      intro hx
      rcases hx with ⟨kind, ticket, h, -⟩ | ⟨-, hi⟩
      · exact hnone ((brings_congr rfl).mp h)
      · cases hi
    · rw [(isBare_iff.mp hb).1]
      intro hx
      rcases hx with hm | ⟨kind, ticket, h, -⟩
      · exact absurd hm List.not_mem_nil
      · exact hnone h
  | false =>
    obtain ⟨-, hlatest⟩ := ix.jobs_rebuilt columns hb
    have hres : (ix.rebuilt columns items).resetting = true := by
      rw [rebuilt, hb, if_neg Bool.false_ne_true]
      rfl
    have htomb : (ix.rebuilt columns items).tombstones[id]? =
        if id ∈ idsOf items then none else ix.tombstones[id]? := by
      unfold rebuilt
      rw [hb, if_neg Bool.false_ne_true]
      dsimp only
      rw [getElem?_tombstones_dispatch]
      rfl
    rw [Due, hres, or_iff_left fun h => by cases h.1]
    by_cases hm : id ∈ idsOf items
    · refine iff_of_true
        ⟨.reset, _, brings_rebuilt.mpr (Or.inr ⟨hm, rfl, hlatest⟩), fun _ => hlatest, ?_⟩
        (Or.inl hm)
      exact isTombstoned_eq_false (htomb.trans (if_pos hm)) _
    · rw [if_neg hm] at htomb
      unfold Pending
      simp only [brings_rebuilt, hm, false_and, or_false, isTombstoned_congr htomb, false_or, hlatest]
      refine exists_congr fun kind => exists_congr fun ticket => and_congr_right fun h =>
        and_congr_left fun _ => ?_
      refine ⟨fun hr e => ?_, fun hk e => absurd e hk⟩
      -- the newest rebuild has a ticket that no job had before
      have he := Option.some.inj (hr e)
      exact Nat.not_succ_le_self _ (he ▸ h.ticket_le ho.worker)

/-! ## 5. Requests on their way -/

/-- The ticket of the job in which a request hands a copy of the item to the worker. -/
def asked (ix : Index) (id : ItemId) : Step → Option Ticket
  | .reset columns items => if id ∈ idsOf items then (ix.rebuilt columns items).latestReset else none
  | .fullReload items =>
    if id ∈ idsOf items then
      (ix.rebuilt (ix.pendingColumns.getD ix.layout.columns) items).latestReset
    else none
  | .add items =>
    if id ∈ idsOf (ix.unindexed items) then (ix.dispatchSome .add (ix.unindexed items)).1 else none
  | .update items =>
    if id ∈ idsOf items then
      if ix.resetting then (ix.dispatchSome .add items).1
      else
        let known := ix.dispatchSome .update (items.filter fun item => ix.store.indexes item.id)
        if ix.store.indexes id then known.1
        else (known.2.dispatchSome .add (items.filter fun item => !ix.store.indexes item.id)).1
    else none
  | _ => none

/-- The ticket of the job that brings a copy after the step, where one with the ticket did before. No
    job does when the copy has been taken in or dropped. -/
def forwarded (ix : Index) (id : ItemId) (ticket : Ticket) : Step → Option Ticket
  | .deliver =>
    match ix.worker.finished with
    | [] => some ticket
    | job :: _ =>
      if job.ticket ≠ ticket then some ticket
      else if id ∈ idsOf (ix.again .deliver) then ix.ticketAgain else none
  | _ => some ticket

/-- The requests for an item whose copy is on its way after the step, each with the ticket of its job,
    from those before it. -/
def onTheWay (ix : Index) (id : ItemId) (requests : List (Step × Ticket)) (s : Step) :
    List (Step × Ticket) :=
  (requests.filterMap fun (request, ticket) => (ix.forwarded id ticket s).map (request, ·)) ++
    ((ix.asked id s).map (s, ·)).toList

/-- The same after some steps. -/
def requestsOnTheWay (ix : Index) (id : ItemId) :
    List Step → List (Step × Ticket) → List (Step × Ticket)
  | [], requests => requests
  | s :: steps, requests => (ix.after s).requestsOnTheWay id steps (ix.onTheWay id requests s)

theorem mem_onTheWay {requests : List (Step × Ticket)} {s request : Step} {ticket : Ticket} :
    (request, ticket) ∈ ix.onTheWay id requests s ↔
      (∃ t, (request, t) ∈ requests ∧ ix.forwarded id t s = some ticket) ∨
        (request = s ∧ ix.asked id s = some ticket) := by
  unfold onTheWay
  rw [List.mem_append, List.mem_filterMap, Option.mem_toList, Option.map_eq_some_iff]
  refine or_congr ⟨?_, ?_⟩ ⟨?_, ?_⟩
  · intro h
    obtain ⟨⟨r, t⟩, hm, e⟩ := h
    obtain ⟨t', hf, e'⟩ := Option.map_eq_some_iff.mp e
    cases e'
    exact ⟨t, hm, hf⟩
  · intro h
    obtain ⟨t, hm, hf⟩ := h
    exact ⟨(request, t), hm, Option.map_eq_some_iff.mpr ⟨ticket, hf, rfl⟩⟩
  · intro h
    obtain ⟨t, ha, e⟩ := h
    cases e
    exact ⟨rfl, ha⟩
  · intro h
    obtain ⟨rfl, ha⟩ := h
    exact ⟨ticket, ha, rfl⟩

theorem mem_idsOf_of_asked {s : Step} {ticket : Ticket} (h : ix.asked id s = some ticket) :
    id ∈ idsOf s.items := by
  cases s with
  | add items =>
    have hm : id ∈ idsOf (ix.unindexed items) := (Option.ite_none_right_eq_some.mp h).1
    exact ((ix.unindexed_sublist items).map _).subset hm
  | reset columns items => exact (Option.ite_none_right_eq_some.mp h).1
  | fullReload items => exact (Option.ite_none_right_eq_some.mp h).1
  | update items => exact (Option.ite_none_right_eq_some.mp h).1
  | _ => cases h

/-- A request on its way is one of the steps, and brings the item. -/
theorem mem_of_mem_requestsOnTheWay {steps : List Step} {requests : List (Step × Ticket)}
    {request : Step} {ticket : Ticket} (h : (request, ticket) ∈ ix.requestsOnTheWay id steps requests) :
    (∃ t, (request, t) ∈ requests) ∨ (request ∈ steps ∧ id ∈ idsOf request.items) := by
  induction steps generalizing ix requests with
  | nil => exact Or.inl ⟨ticket, h⟩
  | cons s steps ih =>
    rcases ih h with ⟨t, hm⟩ | ⟨hm, hid⟩
    · rcases mem_onTheWay.mp hm with ⟨t', hm, -⟩ | ⟨rfl, ha⟩
      · exact Or.inl ⟨t', hm⟩
      · exact Or.inr ⟨List.mem_cons_self, mem_idsOf_of_asked ha⟩
    · exact Or.inr ⟨List.mem_cons_of_mem _ hm, hid⟩

/-- An outstanding job with the ticket brings the item. -/
def Rides (ix : Index) (id : ItemId) (ticket : Ticket) : Prop := ∃ kind, ix.Brings id kind ticket

section Rides

variable {ticket : Ticket}

theorem rides_congr (h : ix'.jobs = ix.jobs) : ix'.Rides id ticket ↔ ix.Rides id ticket :=
  exists_congr fun _ => brings_congr h

theorem rides_dispatchSome : (ix.dispatchSome kind items).2.Rides id ticket ↔ ix.Rides id ticket ∨
    (id ∈ idsOf items ∧ (ix.dispatchSome kind items).1 = some ticket) := by
  unfold Rides
  simp only [brings_dispatchSome, exists_or]
  refine or_congr_right ⟨?_, ?_⟩
  · intro h
    obtain ⟨k, hm, -, ht⟩ := h
    exact ⟨hm, ht⟩
  · intro h
    obtain ⟨hm, ht⟩ := h
    exact ⟨kind, hm, rfl, ht⟩

theorem rides_rebuilt {columns : List Column} : (ix.rebuilt columns items).Rides id ticket ↔
    ix.Rides id ticket ∨ (id ∈ idsOf items ∧ (ix.rebuilt columns items).latestReset = some ticket) := by
  unfold Rides
  simp only [brings_rebuilt, exists_or]
  refine or_congr_right ⟨?_, ?_⟩
  · intro h
    obtain ⟨k, hm, -, ht⟩ := h
    exact ⟨hm, ht⟩
  · intro h
    obtain ⟨hm, ht⟩ := h
    exact ⟨.reset, hm, rfl, ht⟩

theorem rides_updated : (ix.updated items).Rides id ticket ↔
    ix.Rides id ticket ∨ ix.asked id (.update items) = some ticket := by
  show _ ↔ _ ∨ (if id ∈ idsOf items then _ else none) = some ticket
  rw [Option.ite_none_right_eq_some]
  unfold updated
  cases ix.resetting with
  | true => exact rides_dispatchSome
  | false =>
    rw [if_neg Bool.false_ne_true, if_neg Bool.false_ne_true, rides_dispatchSome, rides_dispatchSome,
      mem_idsOf_filter (fun id => ix.store.indexes id),
      mem_idsOf_filter (fun id => !ix.store.indexes id),
      or_assoc]
    refine or_congr_right ?_
    cases hx : ix.store.indexes id with
    | true => simp
    | false => simp

/-- What a delivery makes of the copies that jobs bring. -/
theorem rides_delivered (ho : ix.worker.Orderly) : ix.delivered.Rides id ticket ↔
    ∃ t, ix.Rides id t ∧ ix.forwarded id t .deliver = some ticket := by
  unfold forwarded
  rcases ix.delivered_cases with ⟨hf, e⟩ | ⟨job, rest, hf, -⟩
  · rw [e, hf]
    exact ⟨fun h => ⟨ticket, h, rfl⟩, fun ⟨t, h, ht⟩ => Option.some.inj ht ▸ h⟩
  · have hagain (h : id ∈ idsOf (ix.again .deliver)) : id ∈ idsOf job.items := by
      unfold again at h
      rw [hf] at h
      dsimp only at h
      split at h
      · exact absurd h List.not_mem_nil
      · exact (mem_idsOf_kept.mp h).1
    rw [hf]
    dsimp only
    constructor
    · intro hx
      obtain ⟨kind, h⟩ := hx
      rcases (brings_delivered hf).mp h with h | ⟨hm, -, ht⟩
      · refine ⟨ticket, ⟨kind, (brings_popped hf).mpr (Or.inr h)⟩, if_pos ?_⟩
        exact Nat.ne_of_lt (lt_of_brings_popped ho hf h)
      · refine ⟨job.ticket, ⟨job.kind, (brings_popped hf).mpr (Or.inl ⟨hagain hm, rfl, rfl⟩)⟩, ?_⟩
        rw [if_neg fun hne => hne rfl, if_pos hm]
        exact ht
    · intro hx
      obtain ⟨t, ⟨kind, h⟩, ht⟩ := hx
      by_cases he : job.ticket = t
      · rw [if_neg fun hne => hne he, Option.ite_none_right_eq_some] at ht
        exact ⟨.add, (brings_delivered hf).mpr (Or.inr ⟨ht.1, rfl, ht.2⟩)⟩
      · rw [if_pos he] at ht
        cases ht
        refine ⟨kind, (brings_delivered hf).mpr (Or.inl ?_)⟩
        exact ((brings_popped hf).mp h).resolve_left fun h => he h.2.2

/-- **After a step jobs bring what they brought before and what the step hands to the worker.** -/
theorem rides_after (ho : ix.worker.Orderly) (s : Step) : (ix.after s).Rides id ticket ↔
    (∃ t, ix.Rides id t ∧ ix.forwarded id t s = some ticket) ∨ ix.asked id s = some ticket := by
  have same {p : Prop} (h : p ↔ ix.Rides id ticket ∨ ix.asked id s = some ticket)
      (hf : ∀ t, ix.forwarded id t s = some t) : p ↔
      (∃ t, ix.Rides id t ∧ ix.forwarded id t s = some ticket) ∨ ix.asked id s = some ticket := by
    rw [h]
    simp only [hf, Option.some_inj, exists_eq_right]
  have still {ix' : Index} (h : ix'.jobs = ix.jobs) (ha : ix.asked id s = none) :
      ix'.Rides id ticket ↔ ix.Rides id ticket ∨ ix.asked id s = some ticket := by
    rw [rides_congr h, ha]
    exact (or_iff_left fun e => by cases e).symm
  cases s with
  | reset columns items =>
    refine same (rides_rebuilt.trans (or_congr_right ?_)) fun _ => rfl
    exact Option.ite_none_right_eq_some.symm
  | fullReload items =>
    refine same (rides_rebuilt.trans (or_congr_right ?_)) fun _ => rfl
    exact Option.ite_none_right_eq_some.symm
  | add items =>
    refine same (rides_dispatchSome.trans (or_congr_right ?_)) fun _ => rfl
    exact Option.ite_none_right_eq_some.symm
  | update items => exact same rides_updated fun _ => rfl
  | remove ids => exact same (still (jobs_removed ids) rfl) fun _ => rfl
  | hideColumn i => exact same (still (jobs_hidden i) rfl) fun _ => rfl
  | setSummaryShown shown => exact same (still (jobs_summarised shown) rfl) fun _ => rfl
  | decorationReady other => exact same (still rfl rfl) fun _ => rfl
  | subscribe => exact same (still rfl rfl) fun _ => rfl
  | start => exact same (still ix.worker.jobs_start rfl) fun _ => rfl
  | finish => exact same (still ix.worker.jobs_finish rfl) fun _ => rfl
  | deliver => exact (rides_delivered ho).trans (or_iff_left fun e => by cases e).symm

end Rides

/-- The requests are those whose copies of the item outstanding jobs bring. -/
def Accounted (ix : Index) (id : ItemId) (requests : List (Step × Ticket)) : Prop :=
  ∀ ticket, ix.Rides id ticket ↔ ∃ request, (request, ticket) ∈ requests

/-- **A step keeps account of the requests on their way.** -/
theorem Accounted.after {requests : List (Step × Ticket)} (h : ix.Accounted id requests)
    (ho : ix.worker.Orderly) (s : Step) : (ix.after s).Accounted id (ix.onTheWay id requests s) := by
  intro ticket
  rw [rides_after ho]
  simp only [mem_onTheWay, h _]
  constructor
  · intro hx
    rcases hx with ⟨t, ⟨request, hm⟩, hf⟩ | ha
    · exact ⟨request, Or.inl ⟨t, hm, hf⟩⟩
    · exact ⟨s, Or.inr ⟨rfl, ha⟩⟩
  · intro hx
    obtain ⟨request, ⟨t, hm, hf⟩ | ⟨-, ha⟩⟩ := hx
    · exact Or.inl ⟨t, ⟨request, hm⟩, hf⟩
    · exact Or.inr ha

theorem Accounted.foldl_after {requests : List (Step × Ticket)} (h : ix.Accounted id requests)
    (ho : ix.Orderly) (steps : List Step) :
    (steps.foldl Index.after ix).Accounted id (ix.requestsOnTheWay id steps requests) := by
  induction steps generalizing ix requests with
  | nil => exact h
  | cons s steps ih => exact ih (h.after ho.worker s) (ho.after s)

/-! ## 6. What a reset leaves -/

/-- A reset leaves the item although it does not bring it: the copy that an earlier reset brought is on
    its way in a job that is no rebuild, and all requests whose copies are on their way were resets. -/
structure LeftBehind (ix : Index) (id : ItemId) (requests : List (Step × Ticket)) : Prop where
  recomputed : ∃ request ticket kind, (request, ticket) ∈ requests ∧ request.isReset = true ∧
    ix.Brings id kind ticket ∧ kind ≠ .reset ∧ ix.isTombstoned id ticket = false
  only_resets : ∀ entry ∈ requests, entry.1.isReset = true

/-- After a reset of either kind its items are due, and those that jobs other than rebuilds bring. -/
theorem due_of_isReset (ho : ix.Orderly) {s : Step} (hr : s.isReset = true) : (ix.after s).Due id ↔
    id ∈ idsOf s.items ∨
      ∃ kind ticket, ix.Brings id kind ticket ∧ kind ≠ .reset ∧ ix.isTombstoned id ticket = false := by
  cases s with
  | reset columns items => exact due_rebuilt ho
  | fullReload items => exact due_rebuilt ho
  | _ => cases hr

/-- Nothing is due of an index that has just been made, and no request is on its way. -/
theorem not_due_ofOptions (extractor : Extractor) (options : IndexOptions) (id : ItemId) :
    ¬ (ofOptions extractor options).Due id := by
  intro h
  rcases h with ⟨kind, ticket, ⟨job, hj, -⟩, -⟩ | ⟨-, hi⟩
  · exact absurd hj List.not_mem_nil
  · cases hi

theorem accounted_ofOptions (extractor : Extractor) (options : IndexOptions) (id : ItemId) :
    (ofOptions extractor options).Accounted id [] := by
  intro ticket
  refine iff_of_false (fun h => ?_) fun h => ?_
  · obtain ⟨kind, job, hj, -⟩ := h
    exact absurd hj List.not_mem_nil
  · obtain ⟨request, hm⟩ := h
    exact absurd hm List.not_mem_nil

/-- **The items of an idle index come from requests**, while there was no reset. -/
theorem exists_request_of_indexed {steps : List Step} (ho : ix.Orderly) (hn : ¬ ix.Due id)
    (hr : ∀ s ∈ steps, s.isReset = false) (hi : (steps.foldl Index.after ix).phase = .idle)
    (hx : (steps.foldl Index.after ix).store.indexes id = true) : ∃ s ∈ steps, id ∈ idsOf s.items := by
  refine Classical.byContradiction fun hnone => ?_
  have hd := (due_iff_of_idle (ho.foldl_after steps) hi).mpr hx
  exact hn ((due_foldl_after ho hr fun s hs hm => hnone ⟨s, hs, hm⟩).mp hd).1

section Reset

variable {reset : Step} {later : List Step} {requests : List (Step × Ticket)}

/-- An item that a reset leaves behind is due as long as no later step names it. -/
theorem LeftBehind.due (h : ix.LeftBehind id requests) (ho : ix.Orderly) (hr : reset.isReset = true)
    (hl : ∀ s ∈ later, s.isReset = false) (hn : ∀ s ∈ later, id ∉ s.mentions) :
    (later.foldl Index.after (ix.after reset)).Due id := by
  obtain ⟨request, ticket, kind, -, -, hcarried⟩ := h.recomputed
  have hdue : (ix.after reset).Due id := (due_of_isReset ho hr).mpr (Or.inr ⟨kind, ticket, hcarried⟩)
  refine (due_foldl_after (ho.after reset) hl fun s hs hm => ?_).mpr ⟨hdue, hn⟩
  obtain ⟨item, hi, rfl⟩ := mem_idsOf.mp hm
  exact hn s hs (Step.mem_mentions hi)

/-- An item that is due, though neither the reset nor a later step brings it, was left behind, or a
    request for it that was no reset is on its way at the reset. -/
theorem leftBehind_of_due (ho : ix.Orderly) (ha : ix.Accounted id requests) (hr : reset.isReset = true)
    (hn : id ∉ idsOf reset.items) (hd : (ix.after reset).Due id) :
    ix.LeftBehind id requests ∨ ∃ entry ∈ requests, entry.1.isReset = false := by
  by_cases hall : ∀ entry ∈ requests, entry.1.isReset = true
  · obtain ⟨kind, ticket, hb, hcarried⟩ := ((due_of_isReset ho hr).mp hd).resolve_left hn
    obtain ⟨request, hm⟩ := (ha ticket).mp ⟨kind, hb⟩
    exact Or.inl ⟨⟨request, ticket, kind, hm, hall _ hm, hb, hcarried⟩, hall⟩
  · simp only [not_forall] at hall
    obtain ⟨entry, hm, hne⟩ := hall
    exact Or.inr ⟨entry, hm, eq_false_of_ne_true hne⟩

end Reset

/-- **What a reset leaves of the requests before it.** An item of an idle index is accounted for when
    the latest reset brought it, or a later request did, or an addition or update whose copy was on its
    way at the reset. It is not accounted for exactly when the reset left it behind: no later step named
    it, and the copy of an earlier reset was on its way as an addition. Without a reset every item comes
    from an addition or update. -/
theorem reset_accounts_iff (extractor : Extractor) (options : IndexOptions) :
    (∀ steps : List Step, (∀ s ∈ steps, s.isReset = false) →
      ∃ ix, (ofOptions extractor options).run steps = .ok ix ∧ (ix.isIdle = true → ∀ id,
        ix.store.indexes id = true → ∃ s ∈ steps, id ∈ idsOf s.items)) ∧
    ∀ (before later : List Step) (reset : Step), reset.isReset = true →
      (∀ s ∈ later, s.isReset = false) →
      ∃ ix₀ ix, (ofOptions extractor options).run before = .ok ix₀ ∧ ix₀.run (reset :: later) = .ok ix ∧
        (ix.isIdle = true → ∀ id,
          let requests := (ofOptions extractor options).requestsOnTheWay id before []
          (ix.store.indexes id = true → id ∈ idsOf reset.items ∨ (∃ s ∈ later, id ∈ idsOf s.items) ∨
            ∃ request ∈ before, request.isReset = false ∧ id ∈ idsOf request.items ∧
              ∃ ticket, (request, ticket) ∈ requests) ↔
          ¬ (ix₀.LeftBehind id requests ∧ id ∉ idsOf reset.items ∧ ∀ s ∈ later, id ∉ s.mentions)) := by
  have ho := orderly_ofOptions extractor options
  refine ⟨fun steps hr => ⟨_, run_eq ho.quiet steps, fun hi id hx => ?_⟩,
    fun before later reset hr hl => ?_⟩
  · exact exists_request_of_indexed ho (not_due_ofOptions extractor options id) hr (beq_iff_eq.mp hi) hx
  have ho₀ := ho.foldl_after before
  refine ⟨_, _, run_eq ho.quiet before, run_eq ho₀.quiet (reset :: later), fun hi id => ?_⟩
  intro requests
  have haccount := (accounted_ofOptions extractor options id).foldl_after ho before
  rw [← due_iff_of_idle (ho₀.foldl_after (reset :: later)) (beq_iff_eq.mp hi), List.foldl_cons]
  constructor
  · intro hclaim hnot
    obtain ⟨hleft, hreset, hlater⟩ := hnot
    rcases hclaim (hleft.due ho₀ hr hl hlater) with hm | ⟨s, hs, hm⟩ | ⟨request, -, hr', -, ticket, hm⟩
    · exact hreset hm
    · obtain ⟨item, hitem, rfl⟩ := mem_idsOf.mp hm
      exact hlater s hs (Step.mem_mentions hitem)
    · have hreq := hleft.only_resets _ hm
      rw [hr'] at hreq
      cases hreq
  · intro hnot hdue
    by_cases hnamed : ∃ s ∈ later, id ∈ idsOf s.items
    · exact Or.inr (Or.inl hnamed)
    obtain ⟨hdue, hlater⟩ := (due_foldl_after (ho₀.after reset) hl fun s hs hm =>
      hnamed ⟨s, hs, hm⟩).mp hdue
    by_cases hreset : id ∈ idsOf reset.items
    · exact Or.inl hreset
    rcases leftBehind_of_due ho₀ haccount hr hreset hdue with hleft | ⟨⟨request, ticket⟩, hm, hr'⟩
    · exact absurd ⟨hleft, hreset, hlater⟩ hnot
    rcases mem_of_mem_requestsOnTheWay hm with ⟨t, hm'⟩ | ⟨hmem, hid⟩
    · exact absurd hm' List.not_mem_nil
    · exact Or.inr (Or.inr ⟨request, hmem, hr', hid, ticket, hm⟩)

/-- An index with two columns. -/
def twoColumns : IndexOptions := { columns := [.ofField "artist" "Artist", .ofField "genre" "Genre"] }

/-- The item of a reset, which is computed again since one of the columns is hidden meanwhile. -/
def recomputedBefore : List Step :=
  [.reset twoColumns.columns [Item.withField ⟨1, ∅⟩ "genre" "Rock"], .start, .finish,
    .hideColumn 0, .deliver]

/-- The reset that replaces it, with another item. -/
def replacingReset : Step := .reset [.ofField "genre" "Genre"] [Item.withField ⟨2, ∅⟩ "genre" "Jazz"]

/-- The worker and the deliveries run to the end. -/
def recomputedLater : List Step := [.start, .finish, .deliver, .start, .finish, .deliver]

/-- An item is added to an index that is never reset. -/
def additionRun : List Step := [.add [Item.withField ⟨1, ∅⟩ "genre" "Rock"], .start, .finish, .deliver]

/-- Both items are indexed in the end. The reset accounts for the second one, and has left the first one
    behind. Without a reset an addition accounts for the item. -/
theorem reset_accounts_recomputed :
    (replacingReset.isReset = true ∧ (∀ s ∈ recomputedLater, s.isReset = false) ∧
      ∃ ix₀ ix, (ofOptions (fieldExtractor "") twoColumns).run recomputedBefore = .ok ix₀ ∧
        ix₀.run (replacingReset :: recomputedLater) = .ok ix ∧ ix.isIdle = true ∧
        (∀ id, let requests :=
            (ofOptions (fieldExtractor "") twoColumns).requestsOnTheWay id recomputedBefore []
          (ix.store.indexes id = true → id ∈ idsOf replacingReset.items ∨
            (∃ s ∈ recomputedLater, id ∈ idsOf s.items) ∨
            ∃ request ∈ recomputedBefore, request.isReset = false ∧ id ∈ idsOf request.items ∧
              ∃ ticket, (request, ticket) ∈ requests) ↔
          ¬ (ix₀.LeftBehind id requests ∧ id ∉ idsOf replacingReset.items ∧
            ∀ s ∈ recomputedLater, id ∉ s.mentions)) ∧
        ix.store.indexes 1 = true ∧
        ix₀.LeftBehind 1
          ((ofOptions (fieldExtractor "") twoColumns).requestsOnTheWay 1 recomputedBefore []) ∧
        ix.store.indexes 2 = true ∧ 2 ∈ idsOf replacingReset.items) ∧
    (∀ s ∈ additionRun, s.isReset = false) ∧
      ∃ ix, (ofOptions (fieldExtractor "") twoColumns).run additionRun = .ok ix ∧ ix.isIdle = true ∧
        ix.store.indexes 1 = true ∧ ∃ s ∈ additionRun, 1 ∈ idsOf s.items := by
  have ho := orderly_ofOptions (fieldExtractor "") twoColumns
  constructor
  · have hr : replacingReset.isReset = true := rfl
    have hl : ∀ s ∈ recomputedLater, s.isReset = false := by decide
    obtain ⟨ix₀, ix, h₀, h, haccounts⟩ := (reset_accounts_iff (fieldExtractor "") twoColumns).2
      recomputedBefore recomputedLater replacingReset hr hl
    obtain rfl := eq_foldl_after_of_run ho.quiet h₀
    obtain rfl := eq_foldl_after_of_run (ho.foldl_after recomputedBefore).quiet h
    have hiff := haccounts (by decide +kernel)
    refine ⟨hr, hl, _, _, h₀, h, by decide +kernel, hiff, by decide +kernel, ?_, by decide +kernel, by decide⟩
    -- no request but the first reset brings item 1, so it is indexed only if it was left behind
    by_contra hnot
    have hnone : ∀ request ∈ recomputedBefore, request.isReset = false → 1 ∉ idsOf request.items := by
      decide
    rcases (hiff 1).mpr (fun hleft => hnot hleft.1) (by decide +kernel) with
      hm | hm | ⟨request, hm, hr, hid, -⟩
    · exact absurd hm (by decide)
    · exact absurd hm (by decide)
    · exact hnone request hm hr hid
  · have hr : ∀ s ∈ additionRun, s.isReset = false := by decide
    obtain ⟨ix, h, hexists⟩ := (reset_accounts_iff (fieldExtractor "") twoColumns).1 additionRun hr
    obtain rfl := eq_foldl_after_of_run ho.quiet h
    exact ⟨hr, _, h, by decide +kernel, by decide +kernel,
      hexists (by decide +kernel) 1 (by decide +kernel)⟩

/-- **A replaced rebuild can leave its items behind.** -/
theorem replaced_rebuild_can_stay : ¬ ∀ (extractor : Extractor) (options : IndexOptions)
    (before later : List Step) (reset : Step) (ix₀ ix : Index) (id : ItemId), reset.isReset = true →
    (∀ s ∈ later, s.isReset = false) → (ofOptions extractor options).run before = .ok ix₀ →
    ix₀.run (reset :: later) = .ok ix → ix.isIdle = true → ix.store.indexes id = true →
    id ∈ idsOf reset.items ∨ (∃ s ∈ later, id ∈ idsOf s.items) ∨
      ∃ request ∈ before, request.isReset = false ∧ id ∈ idsOf request.items ∧
        ∃ ticket, (request, ticket) ∈ (ofOptions extractor options).requestsOnTheWay id before [] := by
  intro h
  have ho₀ := (orderly_ofOptions (fieldExtractor "") twoColumns).foldl_after recomputedBefore
  have hclaim := h (fieldExtractor "") twoColumns recomputedBefore recomputedLater replacingReset _ _ 1 rfl
    (by decide) (run_eq (quiet_ofOptions _ _) recomputedBefore)
    (run_eq ho₀.quiet (replacingReset :: recomputedLater)) (by decide +kernel) (by decide +kernel)
  have hnone : ∀ request ∈ recomputedBefore, request.isReset = false →
    1 ∉ idsOf request.items := by decide
  rcases hclaim with hm | hm | ⟨request, hm, hr, hid, -⟩
  · exact absurd hm (by decide)
  · exact absurd hm (by decide)
  · exact hnone request hm hr hid

end Index

end MediaIndex
