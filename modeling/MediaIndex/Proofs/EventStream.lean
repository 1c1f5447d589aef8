import MediaIndex.Proofs.Index.Deliveries
import MediaIndex.Proofs.Representation
import MediaIndex.Proofs.View.Pairs

/-!
# The stream of events

One who listens from the start hears of every change by the event that begins it and, at once, the
event that ends it. Of the jobs that are applied such a listener hears by their tickets `1, 2, …`, of
each after everything else that its batch has changed. And no operation refuses its work.

* `Index.Speaks` -- what is heard of one step: pairs, and the applied job at the end;
* `speaks_after` -- every step from a quiet index speaks so;
* `heard_foldl_after` -- what is heard of a run;
* `stream_well_bracketed` -- the stream of every run, and of every step from there.
-/

namespace MediaIndex

/-- A stream in which every change is told by two events, the second right after the first. -/
structure WellBracketed (events : List Event) : Prop where
  begins : ∀ (i : Nat) (b : Bracket), events[i]? = some (.begins b) → events[i + 1]? = some (.ends b)
  ends : ∀ (i : Nat) (b : Bracket), events[i]? = some (.ends b) →
    ∃ j, i = j + 1 ∧ events[j]? = some (.begins b)

theorem Paired.wellBracketed {events : List Event} (h : Paired events) : WellBracketed events :=
  ⟨fun _ _ => h.ends_of_begins, fun _ _ => h.begins_of_ends⟩

namespace Index

variable {ix : Index} {s : Step} {events : List Event}

/-! ## 1. What is heard of a step -/

/-- What is told of the jobs that a step applies. -/
def batchEvents (ix : Index) (s : Step) : List Event := (ix.delivery s).map fun job => .batchApplied job.ticket

/-- The events of a step are pairs and changes in place, and end with the job it applies, if any. -/
structure Speaks (ix : Index) (s : Step) (events : List Event) : Prop where
  paired : Paired events
  closes : ∃ own, events = own ++ ix.batchEvents s ∧ ∀ e ∈ own, e.ticket? = none

/-- A step that tells of rows only speaks so. -/
theorem speaks_of_tellsRows (hq : ix.notifier.current = none) (h : ix.TellsRows (ix.after s))
    (hd : ix.delivery s = []) : ∃ events, ix.Hears (ix.after s) events ∧ ix.Speaks s events := by
  obtain ⟨events, hn, ht⟩ := h
  refine ⟨events, hears_of_tell hq hn, ht.paired, events, ?_, ht.ticket?_eq⟩
  rw [batchEvents, hd]
  exact (List.append_nil events).symm

/-- A reset that is asked for is told at once or not at all. -/
theorem speaks_of_rebuilt (hq : ix.notifier.current = none) {columns : List Column} {items : List Item}
    (hs : ix.after s = ix.rebuilt columns items) (hd : ix.delivery s = []) :
    ∃ events, ix.Hears (ix.after s) events ∧ ix.Speaks s events := by
  cases hb : ix.isBare items with
  | true =>
    have hn : (ix.after s).notifier = ix.notifier.deliver Bracket.reset.pair :=
      hs ▸ notifier_rebuilt_of_bare hq hb
    refine ⟨_, hears_of_deliver hn, .pair .reset .nil, Bracket.reset.pair, ?_, ?_⟩
    · rw [batchEvents, hd]
      rfl
    · exact List.forall_mem_cons.mpr ⟨rfl, List.forall_mem_singleton.mpr rfl⟩
  | false =>
    refine speaks_of_tellsRows hq (tellsRows_of_eq ?_) hd
    rw [hs, rebuilt, hb]
    rfl

theorem speaks_delivered (hq : ix.notifier.current = none) :
    ∃ events, ix.Hears ix.delivered events ∧ ix.Speaks .deliver events := by
  rcases ix.delivered_cases with ⟨hf, e⟩ | ⟨job, rest, hf, e⟩
  · have hn : (ix.after .deliver).notifier = ix.notifier := congrArg notifier e
    exact speaks_of_tellsRows hq (tellsRows_of_eq hn) (delivery_of_none hf)
  · have hqp : (ix.popped rest).notifier.current = none := hq
    have htold : ix.batchEvents .deliver = [.batchApplied job.ticket] := by
      rw [batchEvents, delivery_of_finished hf]
      rfl
    obtain ⟨own, hn, hown⟩ := notifier_applied hqp job
    have hpaired : Paired own ∧ ∀ e ∈ own, e.ticket? = none := by
      rcases hown with ⟨-, -, rfl⟩ | ⟨-, ht⟩
      · exact ⟨.pair .reset .nil, List.forall_mem_cons.mpr ⟨rfl, List.forall_mem_singleton.mpr rfl⟩⟩
      · exact ⟨ht.paired, ht.ticket?_eq⟩
    rw [e]
    exact ⟨_, hears_of_deliver hn, hpaired.1.append (.batchApplied job.ticket .nil), own,
      by rw [htold], hpaired.2⟩

/-- **Every step from a quiet index is told in pairs, and the job it applies at the end.** -/
theorem speaks_after (hq : ix.Quiet) (s : Step) :
    ∃ events, ix.Hears (ix.after s) events ∧ ix.Speaks s events := by
  have hc := hq.closed
  have silent (h : (ix.after s).notifier = ix.notifier) (hd : ix.delivery s = []) :
      ∃ events, ix.Hears (ix.after s) events ∧ ix.Speaks s events :=
    speaks_of_tellsRows hc (tellsRows_of_eq h) hd
  cases s with
  | reset columns items => exact speaks_of_rebuilt hc rfl rfl
  | fullReload items => exact speaks_of_rebuilt hc rfl rfl
  | add items => exact silent (ix.alike_dispatchSome .add _).2 rfl
  | update items =>
    exact silent (updated_induct (P := fun ix' => ix'.notifier = ix.notifier) rfl
      fun ix' kind part _ _ h => (ix'.alike_dispatchSome kind part).2.trans h) rfl
  | remove ids => exact speaks_of_tellsRows hc (ix.tellsRows_removed ids) rfl
  | hideColumn i => exact speaks_of_tellsRows hc (ix.tellsRows_hidden i) rfl
  | setSummaryShown shown => exact speaks_of_tellsRows hc (ix.tellsRows_summarised shown) rfl
  | decorationReady id => exact speaks_of_tellsRows hc (ix.tellsRows_decorationReady id) rfl
  | subscribe =>
    refine ⟨[], fun k inbox hi => ?_, .nil, [], rfl, fun _ he => absurd he List.not_mem_nil⟩
    obtain ⟨hlt, -⟩ := List.getElem?_eq_some_iff.mp hi
    show (ix.notifier.inboxes ++ [[]])[k]? = some (inbox ++ [])
    rw [List.getElem?_append_left hlt, hi, List.append_nil]
  | start => exact silent rfl rfl
  | finish => exact silent rfl rfl
  | deliver => exact speaks_delivered hc

/-! ## 2. What is heard of a run -/

/-- The tickets that are heard of in a step are those of the jobs it applies. -/
theorem Speaks.tickets_eq (h : ix.Speaks s events) :
    events.filterMap Event.ticket? = (ix.delivery s).map (·.ticket) := by
  obtain ⟨own, rfl, hown⟩ := h.closes
  have hnone : own.filterMap Event.ticket? = [] := List.filterMap_eq_nil_iff.mpr hown
  rw [List.filterMap_append, hnone, List.nil_append, batchEvents, List.filterMap_map]
  show (ix.delivery s).filterMap (some ∘ fun job => job.ticket) = _
  rw [List.filterMap_eq_map]

/-- **What is heard of a run are pairs, changes in place and the jobs it applies, in their order.** -/
theorem heard_foldl_after (hq : ix.Quiet) (steps : List Step) :
    ∃ events, ix.Hears (steps.foldl after ix) events ∧ Paired events ∧
      events.filterMap Event.ticket? = (ix.deliveries steps).map (·.ticket) := by
  induction steps generalizing ix with
  | nil => exact ⟨[], hears_nil rfl, .nil, rfl⟩
  | cons s steps ih =>
    obtain ⟨events, hh, hs⟩ := speaks_after hq s
    obtain ⟨more, hh', hp, ht⟩ := ih (hq.after s)
    refine ⟨events ++ more, hh.trans hh', hs.paired.append hp, ?_⟩
    rw [List.filterMap_append, hs.tickets_eq, ht, deliveries, List.map_append]

/-- **The stream of events is well bracketed, and no operation refuses its work.** Whatever is asked of
    the index and however jobs are delivered, no step of a run faults and the check of the parts finds
    nothing wrong. What one who listens from the start has heard is well bracketed, so that nothing is
    told between the two events of a reset, and names the applied jobs by the tickets `1, 2, …`. Any
    further step is heard as events that end with the job it applies, and name no job before. -/
theorem stream_well_bracketed (extractor : Extractor) (options : IndexOptions) (steps : List Step) :
    ∃ ix heard, (ofOptions extractor options).subscribe.run steps = .ok ix ∧ ix.problem? = none ∧
      ix.notifier.inboxes[0]? = some heard ∧ WellBracketed heard ∧
      heard.filterMap Event.ticket? =
        List.range' 1 ((ofOptions extractor options).subscribe.deliveries steps).length ∧
      ∀ s, ∃ ix' own, ix.step s = .ok ix' ∧ ix'.notifier.inboxes[0]? = some (heard ++ (own ++ ix.batchEvents s)) ∧
        ∀ ticket, .batchApplied ticket ∉ own := by
  have ho : (ofOptions extractor options).subscribe.Orderly :=
    (orderly_ofOptions extractor options).after .subscribe
  have ha : (ofOptions extractor options).subscribe.Arranged :=
    (arranged_ofOptions extractor options).congr rfl rfl rfl rfl
  have hnum : (ofOptions extractor options).subscribe.Numbered [] := numbered_ofOptions extractor options
  have ho' := ho.foldl_after steps
  obtain ⟨heard, hh, hp, ht⟩ := heard_foldl_after ho.quiet steps
  have hnow := hh 0 [] rfl
  have hd := (hnum.foldl_after steps).delivered_eq
  rw [List.length_map, List.nil_append] at hd
  refine ⟨_, heard, run_eq ho.quiet steps,
    ((ha.foldl_after ho steps).consistent ho'.store).problem?_eq_none, hnow, hp.wellBracketed,
    ht.trans hd, fun s => ?_⟩
  obtain ⟨events, hs, hspeaks⟩ := speaks_after ho'.quiet s
  obtain ⟨own, rfl, hown⟩ := hspeaks.closes
  refine ⟨_, own, step_eq ho'.quiet s, hs 0 heard hnow, fun ticket hm => ?_⟩
  cases hown _ hm

end Index

end MediaIndex
