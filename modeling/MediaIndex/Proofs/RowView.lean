import MediaIndex.Proofs.View.Moves

/-!
# Row events keep a view in step with the index

A view that knows the rows and columns of the index and follows the events of a step knows the rows
and columns after the step. So a view needs to read again only what it is told of, whatever is asked of
the index and however jobs are delivered.

* `Index.InStep` -- a view has followed the events of a step and is in step with the index again;
* `Headed.after` -- the summary is there exactly when it is to be shown;
* `inStep_delivered`, `inStep_after` -- deliveries and all other steps keep views in step;
* `rows_keep_in_step` -- the same for every step of every run.
-/

namespace MediaIndex.Index

variable {ix ix' : Index} {events more : List Event}

/-! ## 1. In step -/

/-- One who has read all rows before the step and follows its events is in step with the index after
    it. -/
structure InStep (ix ix' : Index) (events : List Event) (v : View) : Prop where
  /-- Every event fits the view at its moment. -/
  followed : ix.view.followAll ix'.view events = some v
  /-- Rows and columns are those of the index, and every row read before stands where it is now. -/
  fits : ix'.Fits v
  /-- Without a reset, every row that stays shows what it showed, or is told to have changed. -/
  agrees : .begins .reset ∉ events → ∀ ref, some ref ∈ v.rows → ix.Agrees ix' events ref
  /-- Only nodes that have a row are told to have changed. -/
  present : ∀ ref aspects, .changed ref aspects ∈ events → some ref ∈ ix'.view.rows
  /-- What is not told of has not changed. -/
  silent : events = [] → ix.Alike ix'

theorem some_mem_rows_view (hs : ix.store.Sound) {ref : NodeRef} (h : ref ∈ ix.refs) :
    some ref ∈ ix.view.rows := by
  rw [rows_view hs]
  exact List.mem_map_of_mem h

/-- A move that tells of all it changes keeps views in step. -/
theorem Tells.inStep (h : ix.Tells ix' events) (hs : ix.store.Sound) (hs' : ix'.store.Sound) :
    ∃ v, ix.InStep ix' events v := by
  obtain ⟨v, hf, hstands, hc, ha⟩ := h.followed ix.view ix'.view (stands_view hs) rfl
  refine ⟨v, hf, (fits_iff hs').mpr ⟨hstands, hc⟩, fun _ ref hm => (ha ref hm).2, ?_, h.silent⟩
  intro ref aspects hm
  exact some_mem_rows_view hs' (h.present ref aspects hm)

/-- After a reset everything is read anew. -/
theorem inStep_reset (hs' : ix'.store.Sound) (hf : ∀ v fresh : View, v.followAll fresh more = some v)
    (hp : ∀ ref aspects, .changed ref aspects ∉ more) : ix.InStep ix' (Bracket.reset.pair ++ more) ix'.view where
  followed := by
    rw [View.followAll_append, View.followAll_pair rfl, Option.bind_some]
    exact hf _ _
  fits := (fits_iff hs').mpr ⟨stands_view hs', rfl⟩
  agrees hn := absurd (List.mem_append_left _ List.mem_cons_self) hn
  present ref aspects hm := by
    rcases List.mem_append.mp hm with hm | hm
    · simp [Bracket.pair] at hm
    · exact absurd hm (hp ref aspects)
  silent he := by cases he

/-! ## 2. The summary is there when it is to be shown -/

theorem Headed.congr (h : ix.Headed) (hsum : ix'.summary = ix.summary)
    (hshow : ix'.showSummary = ix.showSummary) :
    ix'.Headed := by
  unfold Headed
  rw [hsum, hshow]
  exact h

theorem Headed.refreshSummary (h : ix.Headed) : ix.refreshSummary.Headed := by
  unfold Index.refreshSummary
  split
  · rename_i hshow
    split
    · exact h
    · exact hshow.symm
  · exact h

theorem Headed.clear (h : ix.Headed) : ix.clear.Headed := by
  show (if ix.showSummary then some _ else ix.summary).isSome = ix.showSummary
  cases hshow : ix.showSummary with
  | true => rfl
  | false => exact h.trans hshow

theorem Headed.dispatchSome (h : ix.Headed) (kind : JobKind) (items : List Item) :
    (ix.dispatchSome kind items).2.Headed :=
  dispatchSome_induct (P := fun r => r.2.Headed) (fun _ => h) (h.congr rfl rfl)

theorem Headed.takenUp (h : ix.Headed) (job : FinishedJob) (cleared : Bool) :
    (ix.takenUp job cleared).Headed := by
  unfold Index.takenUp folded
  split
  · cases cleared with
    | true => exact h.congr rfl rfl
    | false => exact h.congr rfl rfl
  · rw [resubmitted_eq]
    exact h.dispatchSome .add _

theorem Headed.takenIn (h : ix.Headed) (job : FinishedJob) : (ix.takenIn job).Headed := by
  unfold Index.takenIn
  split
  · have ho : ix.opened.Headed := h.congr rfl rfl
    exact (ho.clear.takenUp job true).refreshSummary.congr rfl rfl
  · exact (h.takenUp job false).refreshSummary

theorem Headed.delivered (h : ix.Headed) : ix.delivered.Headed := by
  rcases ix.delivered_cases with ⟨-, e⟩ | ⟨job, rest, -, e⟩
  · rw [e]
    exact h
  · rw [e]
    unfold applied
    split
    · exact h.congr rfl rfl
    · have ha : (ix.popped rest).applying.Headed := h.congr rfl rfl
      exact (ha.takenIn job).congr rfl rfl

/-- **Every step leaves the summary there exactly when it is to be shown.** -/
theorem Headed.after (h : ix.Headed) (s : Step) : (ix.after s).Headed := by
  have hrebuilt (columns : List Column) (items : List Item) : (ix.rebuilt columns items).Headed := by
    unfold rebuilt
    split
    · have ho : (ix.opened.adopting columns).Headed := h.congr rfl rfl
      exact ho.clear.congr rfl rfl
    · exact h.congr rfl rfl
  cases s with
  | reset columns items => exact hrebuilt columns items
  | fullReload items => exact hrebuilt _ items
  | add items => exact h.dispatchSome .add _
  | update items => exact updated_induct (P := Headed) h fun _ kind part _ _ h => h.dispatchSome kind part
  | remove ids =>
    have hd : ((ix.buried ids).detached ids).Headed := h.congr rfl rfl
    show (ix.removed ids).Headed
    unfold removed
    split
    · exact hd
    · exact hd.refreshSummary
  | hideColumn i =>
    show (ix.hidden i).Headed
    unfold hidden
    split
    · exact h
    · rename_i column _
      have hn : (ix.narrowed i column).Headed := h.congr rfl rfl
      exact hn.refreshSummary
  | setSummaryShown shown =>
    show (ix.summarised shown).Headed
    unfold summarised
    split
    · exact h
    · cases shown with
      | true => rfl
      | false => rfl
  | decorationReady id => exact h.congr rfl rfl
  | subscribe => exact h.congr rfl rfl
  | start => exact h.congr rfl rfl
  | finish => exact h.congr rfl rfl
  | deliver => exact h.delivered

theorem headed_ofOptions (extractor : Extractor) (options : IndexOptions) :
    (ofOptions extractor options).Headed := by
  show (if options.showSummary then some _ else none).isSome = options.showSummary
  cases options.showSummary with
  | true => rfl
  | false => rfl

/-! ## 3. Deliveries -/

/-- Handing items over shows in no row and tells of nothing. -/
theorem alike_dispatchSome (ix : Index) (kind : JobKind) (items : List Item) :
    ix.Alike (ix.dispatchSome kind items).2 ∧ (ix.dispatchSome kind items).2.notifier = ix.notifier :=
  dispatchSome_induct (P := fun r => ix.Alike r.2 ∧ r.2.notifier = _)
    (fun _ => ⟨⟨rfl, rfl, rfl, rfl⟩, rfl⟩) ⟨⟨rfl, rfl, rfl, rfl⟩, rfl⟩

section Delivery

variable {job : FinishedJob} {rest : List FinishedJob}

/-- The batch of a job, in place of older members or submitted again, tells of all it changes. -/
theorem tells_takenUp (hs : ix.store.Sound) (hq : ix.notifier.current = none)
    (hb : (ix.wanted job).Sound) : ∃ events, ix.Tells (ix.takenUp job false) events := by
  unfold takenUp
  split
  · have hd := tells_detached hs hq (ix.wanted job).requested.toList
    have hqd : (ix.detached (ix.wanted job).requested.toList).notifier.current = none :=
      (current_detached _).trans hq
    have hsd : (ix.detached (ix.wanted job).requested.toList).store.Sound := hs.detach _
    have hkept : ∀ ref ∈ (ix.detached (ix.wanted job).requested.toList).refs,
        ref ∈ ((ix.detached (ix.wanted job).requested.toList).merged (ix.wanted job)).refs := by
      intro ref hm
      rw [refs_merged hsd]
      exact List.mem_append_left _ hm
    exact ⟨_, hd.trans (tells_merged hsd hqd hb) hkept⟩
  · obtain ⟨ha, hn⟩ := ix.alike_dispatchSome .add (ix.kept job)
    rw [resubmitted_eq]
    exact ⟨[], tells_nil hs ha (hears_nil hn)⟩

theorem sound_takenUp (hs : ix.store.Sound) (hb : (ix.wanted job).Sound) :
    (ix.takenUp job false).store.Sound := by
  unfold takenUp
  split
  · exact (hs.detach _).merge hb _
  · rw [resubmitted_eq]
    exact dispatchSome_induct (P := fun r => r.2.store.Sound) (fun _ => hs) hs

/-- Inside a reset nothing is told of what a batch changes. -/
theorem notifier_takenUp_of_reset (h : ix.notifier.current = some .reset) :
    (ix.takenUp job true).notifier = ix.notifier := by
  unfold takenUp
  split
  · exact Notifier.tell_of_reset h
  · rw [resubmitted_eq]
    exact (ix.alike_dispatchSome .add (ix.kept job)).2

theorem notifier_refreshSummary_of_reset (h : ix.notifier.current = some .reset) :
    ix.refreshSummary.notifier = ix.notifier := by
  unfold refreshSummary
  split
  · split
    · rfl
    · exact Notifier.tell_of_reset h
  · rfl

/-- **A job taken in at a reset is told as the reset alone.** -/
theorem notifier_takenIn_of_reset (hq : ix.notifier.current = none) (hr : ix.resetting = true) :
    (ix.takenIn job).notifier = ix.notifier.deliver Bracket.reset.pair := by
  have ho : ix.opened.clear.notifier.current = some .reset := rfl
  have ht : (ix.opened.clear.takenUp job true).notifier = ix.notifier.opened .reset :=
    notifier_takenUp_of_reset ho
  have hs : (ix.opened.clear.takenUp job true).refreshSummary.notifier = ix.notifier.opened .reset := by
    rw [notifier_refreshSummary_of_reset, ht]
    rw [ht]
    rfl
  unfold takenIn
  rw [if_pos hr]
  show (ix.opened.clear.takenUp job true).refreshSummary.notifier.closed .reset = _
  rw [hs, Notifier.closed_opened hq, Notifier.tell_of_quiet hq]

/-- Ending the application of a job tells of the batch and of nothing else. -/
theorem tells_concluded (hs : ix.store.Sound) (job : FinishedJob) :
    ix.Tells (ix.concluded job) [.batchApplied job.ticket] := by
  refine tells_of_alike hs ⟨rfl, rfl, rfl, rfl⟩ (hears_of_deliver rfl) (fun _ _ => rfl)
    (fun _ => rfl) ?_
  intro ref aspects hm
  cases List.mem_singleton.mp hm

/-- A job taken in without a reset tells of all it changes. -/
theorem tells_takenIn (hs : ix.store.Sound) (hq : ix.notifier.current = none) (hh : ix.Headed)
    (hb : (ix.wanted job).Sound) (hr : ix.resetting = false) :
    ∃ events, ix.Tells (ix.takenIn job) events := by
  have htaken : ix.takenIn job = (ix.takenUp job false).refreshSummary :=
    if_neg (ne_true_of_eq_false hr)
  obtain ⟨events, ht⟩ := tells_takenUp hs hq hb
  have hst : (ix.takenUp job false).store.Sound := sound_takenUp hs hb
  have hqt : (ix.takenUp job false).notifier.current = none := (current_takenUp false).trans hq
  have hht : (ix.takenUp job false).Headed := hh.takenUp job false
  rw [htaken]
  refine ⟨_, ht.trans (tells_refreshSummary hst hqt hht) fun ref hm => ?_⟩
  rw [refs_refreshSummary hht]
  exact hm

/-- Applying a job keeps views in step. -/
theorem inStep_applied (hs : ix.store.Sound) (hq : ix.notifier.current = none) (hh : ix.Headed)
    (hb : (ix.wanted job).Sound) (hs' : (ix.applied job).store.Sound) :
    ∃ events v, ix.Hears (ix.applied job) events ∧ ix.InStep (ix.applied job) events v := by
  have hsa : ix.applying.store.Sound := hs
  have hha : ix.applying.Headed := hh.congr rfl rfl
  have hba : (ix.applying.wanted job).Sound := hb
  have halike : ix.Alike ix.applying := ⟨rfl, rfl, rfl, rfl⟩
  unfold applied at hs' ⊢
  split at hs'
  · -- a replaced rebuild is dropped
    rename_i hrep
    rw [if_pos hrep]
    have ht := halike.tells rfl (tells_concluded hsa job)
    obtain ⟨v, hv⟩ := ht.inStep hs hs'
    exact ⟨_, v, ht.heard, hv⟩
  · rename_i hrep
    rw [if_neg hrep]
    cases hr : ix.resetting with
    | true =>
      have hn : ((ix.applying.takenIn job).counted.concluded job).notifier =
          ix.notifier.deliver (Bracket.reset.pair ++ [.batchApplied job.ticket]) := by
        have htaken : (ix.applying.takenIn job).notifier = ix.notifier.deliver Bracket.reset.pair :=
          notifier_takenIn_of_reset hq hr
        show (ix.applying.takenIn job).notifier.deliver _ = _
        rw [htaken, Notifier.deliver_deliver]
      refine ⟨_, _, hears_of_deliver hn, inStep_reset hs' (fun _ _ => rfl) fun ref aspects hm => ?_⟩
      cases List.mem_singleton.mp hm
    | false =>
      obtain ⟨events, ht⟩ := tells_takenIn hsa hq hha hba hr
      have hcounted : (ix.applying.takenIn job).Alike (ix.applying.takenIn job).counted :=
        ⟨rfl, rfl, rfl, rfl⟩
      have hsc : (ix.applying.takenIn job).counted.store.Sound := hs'
      have hend := hcounted.tells rfl (tells_concluded hsc job)
      have hall := halike.tells rfl (ht.trans hend fun _ hm => hm)
      obtain ⟨v, hv⟩ := hall.inStep hs hs'
      exact ⟨_, v, hall.heard, hv⟩

/-- **A delivery keeps views in step.** -/
theorem inStep_delivered (ho : ix.Orderly) (hh : ix.Headed) :
    ∃ events v, ix.Hears ix.delivered events ∧ ix.InStep ix.delivered events v := by
  have hs' : ix.delivered.store.Sound := ho.delivered.store
  rcases ix.delivered_cases with ⟨-, e⟩ | ⟨job, rest, hf, e⟩
  · have ht : ix.Tells ix.delivered [] := by
      rw [e]
      exact tells_nil ho.store ⟨rfl, rfl, rfl, rfl⟩ (hears_nil rfl)
    obtain ⟨v, hv⟩ := ht.inStep ho.store hs'
    exact ⟨[], v, ht.heard, hv⟩
  · have hs : (ix.popped rest).store.Sound := ho.store
    have hq : (ix.popped rest).notifier.current = none := ho.quiet.closed
    have hhp : (ix.popped rest).Headed := hh.congr rfl rfl
    have hb : ((ix.popped rest).wanted job).Sound :=
      sound_wanted _ (ho.worker.batch_eq job (hf ▸ List.mem_cons_self))
    rw [e] at hs' ⊢
    obtain ⟨events, v, hheard, hv⟩ := inStep_applied hs hq hhp hb hs'
    exact ⟨events, v, hheard, hv.followed, hv.fits, hv.agrees, hv.present, fun he =>
      ⟨(hv.silent he).rows, (hv.silent he).nodes, (hv.silent he).columns, (hv.silent he).summary⟩⟩

end Delivery

/-! ## 4. Steps -/

theorem tells_updated (hs : ix.store.Sound) (items : List Item) : ix.Tells (ix.updated items) [] := by
  have h : ix.Alike (ix.updated items) ∧ (ix.updated items).notifier = ix.notifier := by
    refine updated_induct (P := fun ix' => ix.Alike ix' ∧ ix'.notifier = ix.notifier)
      ⟨⟨rfl, rfl, rfl, rfl⟩, rfl⟩ fun ix' kind part _ _ h => ?_
    obtain ⟨ha, hn⟩ := ix'.alike_dispatchSome kind part
    exact ⟨h.1.trans ha, hn.trans h.2⟩
  exact tells_nil hs h.1 (hears_nil h.2)

theorem tells_removed (hs : ix.store.Sound) (hq : ix.notifier.current = none) (hh : ix.Headed)
    (ids : List ItemId) : ∃ events, ix.Tells (ix.removed ids) events := by
  have hsb : (ix.buried ids).store.Sound := hs
  have hqb : (ix.buried ids).notifier.current = none := hq
  have hb : ix.Alike (ix.buried ids) := ⟨rfl, rfl, rfl, rfl⟩
  have hd := hb.tells rfl (tells_detached hsb hqb ids)
  unfold removed
  split
  · exact ⟨_, hd⟩
  · have hsd : ((ix.buried ids).detached ids).store.Sound := hs.detach ids
    have hqd : ((ix.buried ids).detached ids).notifier.current = none :=
      (current_detached ids).trans hqb
    have hhd : ((ix.buried ids).detached ids).Headed := hh.congr rfl rfl
    refine ⟨_, hd.trans (tells_refreshSummary hsd hqd hhd) fun ref hm => ?_⟩
    rw [refs_refreshSummary hhd]
    exact hm

theorem tells_hidden (hs : ix.store.Sound) (hq : ix.notifier.current = none) (hh : ix.Headed)
    (i : Nat) : ∃ events, ix.Tells (ix.hidden i) events := by
  unfold hidden
  split
  · exact ⟨[], tells_nil hs ⟨rfl, rfl, rfl, rfl⟩ (hears_nil rfl)⟩
  · rename_i column hi
    have hsn : (ix.narrowed i column).store.Sound := hs.hideColumn i
    have hqn : (ix.narrowed i column).notifier.current = none := Notifier.current_tell.trans hq
    have hhn : (ix.narrowed i column).Headed := hh.congr rfl rfl
    refine ⟨_, (tells_narrowed hs hq hi).trans (tells_refreshSummary hsn hqn hhn) fun ref hm => ?_⟩
    rw [refs_refreshSummary hhn]
    exact hm

/-- Decoration at hand is told of the nodes that have the item, and changes none of them. -/
theorem tells_decorationReady (hs : ix.store.Sound) (hq : ix.notifier.current = none) (id : ItemId) :
    ix.Tells (ix.decorationReady id).2
      ((ix.store.keysOf[id]?.getD ∅).toList.map fun key => .changed (.group key) [.decoration]) := by
  have hn : (ix.decorationReady id).2.notifier = ix.notifier.tell
      ((ix.store.keysOf[id]?.getD ∅).toList.map fun key => .changed (.group key) [.decoration]) :=
    Notifier.foldl_changed _ _
  refine tells_of_alike hs ⟨rfl, rfl, rfl, rfl⟩ (hears_of_tell hq hn)
    (fun v fresh => View.followAll_map_changed _ NodeRef.group _)
    (foldl_cutColumns_map_changed _ NodeRef.group _) fun ref aspects hm => ?_
  obtain ⟨key, hk, he⟩ := List.mem_map.mp hm
  cases he
  rw [Std.ExtTreeSet.mem_toList] at hk
  cases hkeys : ix.store.keysOf[id]? with
  | none =>
    rw [hkeys] at hk
    exact absurd hk Std.ExtTreeSet.not_mem_empty
  | some keys =>
    rw [hkeys] at hk
    have hl : ix.store.Links key id := ((hs.getElem?_keysOf_eq_some_iff.mp hkeys).2 key).mp hk
    exact group_mem_refs.mpr (hs.mem_rows.mpr hl.mem_nodes)

/-- A summary that comes in is row 0, and all rows after it are those there were. -/
theorem inStep_summary_shown (hs : ix.store.Sound) (hh : ix.Headed) (hshow : ix.showSummary = false)
    (hn : ix'.notifier = ix.notifier.deliver (Bracket.insert (.single 0)).pair)
    (hstore : ix'.store = ix.store) (hlayout : ix'.layout = ix.layout)
    (hsum : ix'.summary.isSome = true) :
    ∃ events v, ix.Hears ix' events ∧ ix.InStep ix' events v := by
  have hnone : ix.summary = none :=
    Option.isNone_iff_eq_none.mp (Option.isSome_eq_false_iff.mp (hh.trans hshow))
  have hrefs : ix'.refs = .summary :: ix.refs := by
    obtain ⟨summary, he⟩ := Option.isSome_iff_exists.mp hsum
    unfold refs
    rw [he, hstore, hnone]
    rfl
  have hs' : ix'.store.Sound := hstore ▸ hs
  have hno : some NodeRef.summary ∉ ix.view.rows := by
    intro hm
    have hr := summary_mem_refs.mp ((stands_view hs).mem hm)
    rw [hnone] at hr
    cases hr
  have hhead : ix'.view.rows.head? = some (some .summary) := by
    rw [rows_view hs', hrefs]
    rfl
  have hadmits : ix.view.admits ix'.view (.insert (.single 0)) = true := by
    simp [View.admits, Span.single, hhead, hno]
  refine ⟨_, _, hears_of_deliver hn, View.followAll_pair hadmits, ?_, fun _ ref hm => ?_, ?_,
    fun he => by cases he⟩
  · refine (fits_iff hs').mpr ⟨?_, ?_⟩
    · rw [hrefs]
      show Stands (none :: ix.view.rows) _
      exact .cons (fun r e => by cases e) (stands_view hs)
    · rw [hlayout]
      rfl
  · have hm' : some ref ∈ ix.view.rows := by
      have hcons : some ref ∈ none :: ix.view.rows := hm
      exact (List.mem_cons.mp hcons).resolve_left fun e => by cases e
    cases ref with
    | summary => exact absurd hm' hno
    | group key => exact agrees_group hs (by rw [hstore]) ((stands_view hs).mem hm') fun _ => rfl
  · intro ref aspects hm
    simp [Bracket.pair] at hm

/-- A summary that goes was row 0, and the rows after it are those there were. -/
theorem inStep_summary_hidden (hs : ix.store.Sound) (hh : ix.Headed) (hshow : ix.showSummary = true)
    (hn : ix'.notifier = ix.notifier.deliver (Bracket.remove (.single 0)).pair)
    (hstore : ix'.store = ix.store) (hlayout : ix'.layout = ix.layout) (hsum : ix'.summary = none) :
    ∃ events v, ix.Hears ix' events ∧ ix.InStep ix' events v := by
  obtain ⟨summary, hsome⟩ := Option.isSome_iff_exists.mp (hh.trans hshow)
  have hrefs : ix.refs = .summary :: ix'.refs := by
    unfold refs
    rw [hsum, hstore, hsome]
    rfl
  have hs' : ix'.store.Sound := hstore ▸ hs
  have hrows : ix.view.rows = some .summary :: ix'.view.rows := by
    rw [rows_view hs, rows_view hs', hrefs]
    rfl
  have hlen : 0 < ix.view.rows.length := by
    rw [hrows]
    exact Nat.succ_pos _
  refine ⟨_, _, hears_of_deliver hn, View.followAll_remove hlen, ?_, fun _ ref hm => ?_, ?_,
    fun he => by cases he⟩
  · refine (fits_iff hs').mpr ⟨?_, ?_⟩
    · rw [hrows]
      exact stands_view hs'
    · rw [hlayout]
      rfl
  · rw [hrows] at hm
    have hm' : ref ∈ ix'.refs := (stands_view hs').mem hm
    cases ref with
    | summary =>
      have hr := summary_mem_refs.mp hm'
      rw [hsum] at hr
      cases hr
    | group key =>
      refine agrees_group hs (by rw [hstore]) ?_ fun _ => rfl
      rw [hrefs]
      exact List.mem_cons_of_mem _ hm'
  · intro ref aspects hm
    simp [Bracket.pair] at hm

theorem inStep_summarised (ho : ix.Orderly) (hh : ix.Headed) (shown : Bool) :
    ∃ events v, ix.Hears (ix.summarised shown) events ∧ ix.InStep (ix.summarised shown) events v := by
  unfold summarised
  split
  · have ht : ix.Tells ix [] := tells_nil ho.store ⟨rfl, rfl, rfl, rfl⟩ (hears_nil rfl)
    obtain ⟨v, hv⟩ := ht.inStep ho.store ho.store
    exact ⟨[], v, ht.heard, hv⟩
  · rename_i hne
    cases shown with
    | true =>
      exact inStep_summary_shown ho.store hh (eq_false_of_ne_true hne)
        (Notifier.tell_of_quiet ho.quiet.closed) rfl rfl rfl
    | false =>
      exact inStep_summary_hidden ho.store hh (eq_true_of_ne_false hne)
        (Notifier.tell_of_quiet ho.quiet.closed) rfl rfl rfl

/-- A reset is told when it is carried out at once, and changes nothing until its rebuild arrives. -/
theorem inStep_rebuilt (ho : ix.Orderly) (columns : List Column) (items : List Item) :
    ∃ events v, ix.Hears (ix.rebuilt columns items) events ∧
      ix.InStep (ix.rebuilt columns items) events v := by
  have hs' : (ix.rebuilt columns items).store.Sound := (ho.rebuilt columns items).store
  cases hb : ix.isBare items with
  | true =>
    have hn : (ix.rebuilt columns items).notifier = ix.notifier.deliver (Bracket.reset.pair ++ []) :=
      notifier_rebuilt_of_bare ho.quiet.closed hb
    refine ⟨_, _, hears_of_deliver hn, inStep_reset hs' (fun _ _ => rfl) ?_⟩
    exact fun ref aspects hm => absurd hm List.not_mem_nil
  | false =>
    have ht : ix.Tells (ix.rebuilt columns items) [] := by
      rw [rebuilt, hb, if_neg Bool.false_ne_true]
      exact tells_nil ho.store ⟨rfl, rfl, rfl, rfl⟩ (hears_nil rfl)
    obtain ⟨v, hv⟩ := ht.inStep ho.store hs'
    exact ⟨[], v, ht.heard, hv⟩

/-- **Every step keeps views in step.** -/
theorem inStep_after (ho : ix.Orderly) (hh : ix.Headed) (s : Step) :
    ∃ events v, ix.Hears (ix.after s) events ∧ ix.InStep (ix.after s) events v := by
  have hs' : (ix.after s).store.Sound := (ho.after s).store
  have told (h : ∃ events, ix.Tells (ix.after s) events) :
      ∃ events v, ix.Hears (ix.after s) events ∧ ix.InStep (ix.after s) events v := by
    obtain ⟨events, ht⟩ := h
    obtain ⟨v, hv⟩ := ht.inStep ho.store hs'
    exact ⟨events, v, ht.heard, hv⟩
  cases s with
  | reset columns items => exact inStep_rebuilt ho columns items
  | fullReload items => exact inStep_rebuilt ho _ items
  | add items =>
    obtain ⟨ha, hn⟩ := ix.alike_dispatchSome .add (ix.unindexed items)
    exact told ⟨[], tells_nil ho.store ha (hears_nil hn)⟩
  | update items => exact told ⟨[], tells_updated ho.store items⟩
  | remove ids => exact told (tells_removed ho.store ho.quiet.closed hh ids)
  | hideColumn i => exact told (tells_hidden ho.store ho.quiet.closed hh i)
  | setSummaryShown shown => exact inStep_summarised ho hh shown
  | decorationReady id => exact told ⟨_, tells_decorationReady ho.store ho.quiet.closed id⟩
  | subscribe =>
    refine told ⟨[], tells_nil ho.store ⟨rfl, rfl, rfl, rfl⟩ fun k inbox hi => ?_⟩
    obtain ⟨hlt, -⟩ := List.getElem?_eq_some_iff.mp hi
    show (ix.notifier.inboxes ++ [[]])[k]? = some (inbox ++ [])
    rw [List.getElem?_append_left hlt, hi, List.append_nil]
  | start => exact told ⟨[], tells_nil ho.store ⟨rfl, rfl, rfl, rfl⟩ (hears_nil rfl)⟩
  | finish => exact told ⟨[], tells_nil ho.store ⟨rfl, rfl, rfl, rfl⟩ (hears_nil rfl)⟩
  | deliver => exact inStep_delivered ho hh

/-! ## 5. Runs -/

theorem Headed.foldl_after (h : ix.Headed) (steps : List Step) : (steps.foldl Index.after ix).Headed :=
  List.foldlRecOn (motive := Headed) steps Index.after h fun _ h s _ => h.after s

/-- **Row events keep a view in step with the index.** After any run, and for any step from there, there
    are events that every observer hears. One who has read all rows before and follows these events is in
    step with the index after the step: every event fits, rows and columns are those of the index, rows
    that stay show what they showed or are told to have changed, and what is not told has not changed. -/
theorem rows_keep_in_step (extractor : Extractor) (options : IndexOptions) (steps : List Step)
    (s : Step) :
    ∃ ix ix', (ofOptions extractor options).run steps = .ok ix ∧ ix.step s = .ok ix' ∧
      ∃ events v, ix.Hears ix' events ∧ ix.InStep ix' events v := by
  have ho := orderly_ofOptions extractor options
  have ho' := ho.foldl_after steps
  refine ⟨_, _, run_eq ho.quiet steps, step_eq ho'.quiet s, ?_⟩
  exact inStep_after ho' ((headed_ofOptions extractor options).foldl_after steps) s

end MediaIndex.Index
