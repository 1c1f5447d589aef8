import MediaIndex.Index.Lookup
import MediaIndex.Proofs.Index.Landings
import MediaIndex.Proofs.NewestCopy

/-!
# The ticket of an update

An update is answered with the ticket of the last job that carries some of its items. When this job has
been applied, so have been all jobs that carried them, and no reset is pending any more. The keys of an
item are then those of the last job that was taken in to bring it. That is the copy passed, unless a job
with a copy of the item was computed for other columns: its items are submitted again, behind the ticket.

* `Numbered.update_eq` -- an update is answered with the newest ticket;
* `resetting_eq_false_of_applied`, `keysOf_of_applied` -- what there is once this ticket is applied;
* `Heading`, `Index.Heads` -- the copy is in the last job that brings the item, and no such job is computed
  for other columns;
* `Heads.after`, `Heads.foldl_after`, `Heads.lastKeys_eq` -- steps keep this, and the copy gives the keys;
* `keys_of_applied_update` -- what the ticket of an update means.
-/

namespace MediaIndex

/-! ## 1. The last job that brings the item -/

/-- The last of some jobs that brings the item is no rebuild and brings the copy; and the jobs that bring
    the item were made for the columns, bring it once and have no later ticket than the given one. -/
structure Heading (jobs : List Job) (c : Item) (columns : List Column) (last : Ticket) : Prop where
  carried : ∃ job, Carrier jobs c job ∧ job.kind ≠ .reset
  alike : ∀ job ∈ jobs, c.id ∈ idsOf job.items →
    job.columns = columns ∧ (idsOf job.items).count c.id ≤ 1 ∧ job.ticket ≤ last

namespace Index

variable {ix ix' : Index} {c : Item} {columns : List Column} {last : Ticket} {done : List FinishedJob}
  {items : List Item} {steps : List Step}

/-- The delivered and then the outstanding jobs are such. -/
def Heads (ix : Index) (c : Item) (columns : List Column) (last : Ticket) (done : List FinishedJob) : Prop :=
  Heading (done.map (·.toJob.unmarked) ++ ix.jobs) c columns last

theorem Heads.of_jobs_eq (h : ix.Heads c columns last done) (e : ix'.jobs = ix.jobs) :
    ix'.Heads c columns last done := by
  unfold Heads
  rw [e]
  exact h

/-- A job that brings an item which is not handed over brought it before, no less often. -/
theorem exists_of_mem_jobs_dispatch {id : ItemId} {kind : JobKind} {job : Job} (hn : id ∉ idsOf items)
    (hm : job ∈ (ix.dispatch kind items).2.jobs) (hid : id ∈ idsOf job.items) :
    ∃ old ∈ ix.jobs, id ∈ idsOf old.items ∧ job.columns = old.columns ∧ job.ticket = old.ticket ∧
      (idsOf job.items).count id ≤ (idsOf old.items).count id := by
  unfold jobs at hm ⊢
  rcases ix.submitted_dispatch kind items with ⟨-, hjobs, -⟩ | ⟨front, tail, -, hold, hjobs, -⟩
  · rw [hjobs] at hm
    rcases List.mem_append.mp hm with hm | hm
    · exact ⟨job, hm, hid, rfl, rfl, Nat.le_refl _⟩
    · rw [List.mem_singleton.mp hm] at hid
      exact absurd hid hn
  · rw [hjobs] at hm
    rw [hold]
    rcases List.mem_append.mp hm with hm | hm
    · exact ⟨job, List.mem_append_left _ hm, hid, rfl, rfl, Nat.le_refl _⟩
    · rw [List.mem_singleton.mp hm] at hid ⊢
      have htail : id ∈ idsOf tail.items := (mem_idsOf_absorb.mp hid).resolve_right hn
      have hcount : (idsOf (tail.absorb items).items).count id ≤ max ((idsOf tail.items).count id) 1 :=
        count_idsOf_absorb_le _ _ _
      rw [Nat.max_eq_left (List.count_pos_iff.mpr htail)] at hcount
      exact ⟨tail, List.mem_append_right _ (List.mem_singleton_self tail), htail, rfl, rfl, hcount⟩

/-- Handing over copies of other items changes nothing for the item. -/
theorem Heads.dispatchSome (h : ix.Heads c columns last done) (hn : c.id ∉ idsOf items) (kind : JobKind) :
    (ix.dispatchSome kind items).2.Heads c columns last done := by
  refine dispatchSome_induct (P := fun r => r.2.Heads c columns last done) (fun _ => h)
    ⟨?_, fun job hm hid => ?_⟩
  · obtain ⟨job, hcar, hk⟩ := h.carried
    obtain ⟨job', hcar', hkind, -⟩ := Carrier.dispatch _ hcar hn kind
    exact ⟨job', hcar', fun e => hk (hkind.symm.trans e)⟩
  · rcases List.mem_append.mp hm with hm | hm
    · exact h.alike job (List.mem_append_left _ hm) hid
    · obtain ⟨old, ho, hold, hcolumns, hticket, hcount⟩ := exists_of_mem_jobs_dispatch hn hm hid
      have halike := h.alike old (List.mem_append_right _ ho) hold
      rw [← hcolumns, ← hticket] at halike
      exact ⟨halike.1, Nat.le_trans hcount halike.2.1, halike.2.2⟩

/-- A delivered job is one of those delivered, and one that is submitted again does not bring the item. -/
theorem Heads.delivered (h : ix.Heads c columns last done)
    (hcol : ∀ job ∈ ix.delivery .deliver, ix.replaces job = false → ix.met.layout.keyColumns = columns) :
    ix.delivered.Heads c columns last (done ++ ix.delivery .deliver) := by
  rcases ix.delivered_cases with ⟨hf, e⟩ | ⟨job, rest, hf, -⟩
  · rw [e, delivery_of_none hf, List.append_nil]
    exact h
  · have hrest : (ix.popped rest).Heads c columns last (done ++ [job]) := by
      unfold Heads at h ⊢
      rw [jobs_popped hf] at h
      rw [List.map_append, List.append_assoc]
      exact h
    have hmet : (ix.popped rest).applying.met.Heads c columns last (done ++ [job]) :=
      hrest.of_jobs_eq jobs_met
    rw [delivery_of_finished hf] at hcol ⊢
    obtain ⟨stage, summary, notifier, batchesApplied, resets, hout, e⟩ := delivered_outcome hf
    suffices hs : stage.Heads c columns last (done ++ [job]) by
      rw [e]
      exact hs
    cases hout with
    | dropped hr hs =>
      subst hs
      exact hrest
    | taken hr hc hs =>
      subst hs
      exact hmet
    | again hr hc hs =>
      subst hs
      rw [met_popped] at hc
      -- a job with the item meets the columns it was made for, so it is not submitted again
      have hn : c.id ∉ idsOf job.items := by
        intro hm
        obtain ⟨hcolumns, -⟩ := hrest.alike job.toJob.unmarked
          (List.mem_append_left _ (List.mem_map_of_mem (List.mem_append_right _ (List.mem_singleton_self job)))) hm
        exact hc (hcolumns.trans (hcol job (List.mem_singleton_self job) hr).symm)
      rw [resubmitted_eq]
      exact hmet.dispatchSome (not_mem_idsOf_sublist hn List.filter_sublist) .add

/-- **A step that neither replaces the collection nor names the item keeps the copy in the last job that
    brings it**, while the columns stay in force. -/
theorem Heads.after (h : ix.Heads c columns last done) {s : Step} (hr : s.isReset = false)
    (hm : c.id ∉ s.mentions)
    (hcol : ∀ job ∈ ix.delivery s, ix.replaces job = false → ix.met.layout.keyColumns = columns) :
    (ix.after s).Heads c columns last (done ++ ix.delivery s) := by
  have hstay {ix' : Index} (h' : ix'.Heads c columns last done) : ix'.Heads c columns last (done ++ []) := by
    rwa [List.append_nil]
  cases s with
  | reset columns items => cases hr
  | fullReload items => cases hr
  | add items => exact hstay (h.dispatchSome (not_mem_idsOf_sublist hm (ix.unindexed_sublist items)) .add)
  | update items =>
    exact hstay (updated_induct (P := fun ix' => ix'.Heads c columns last done) h
      fun _ kind _ _ hp h => h.dispatchSome (not_mem_idsOf_sublist hm hp) kind)
  | remove ids => exact hstay (h.of_jobs_eq (jobs_removed ids))
  | hideColumn i => exact hstay (h.of_jobs_eq (jobs_hidden i))
  | setSummaryShown shown => exact hstay (h.of_jobs_eq (jobs_summarised shown))
  | decorationReady id => exact hstay (h.of_jobs_eq rfl)
  | subscribe => exact hstay (h.of_jobs_eq rfl)
  | start => exact hstay (h.of_jobs_eq ix.worker.jobs_start)
  | finish => exact hstay (h.of_jobs_eq ix.worker.jobs_finish)
  | deliver => exact h.delivered hcol

/-- Over steps of this sort the copy stays in the last job that brings the item. -/
theorem Heads.foldl_after (h : ix.Heads c columns last done) (hr : ∀ s ∈ steps, s.isReset = false)
    (hm : ∀ s ∈ steps, c.id ∉ s.mentions)
    (hcol : (steps.foldl Index.after ix).layout.keyColumns = columns) :
    (steps.foldl Index.after ix).Heads c columns last (done ++ ix.deliveries steps) := by
  induction steps generalizing ix done with
  | nil =>
    rw [deliveries, List.append_nil]
    exact h
  | cons s steps ih =>
    have hrest : ∀ s ∈ steps, s.isReset = false := fun s' hs => hr s' (List.mem_cons_of_mem _ hs)
    rw [deliveries, ← List.append_assoc]
    refine ih (h.after (hr s List.mem_cons_self) (hm s List.mem_cons_self) fun job hj hrep => ?_) hrest
      (fun s' hs => hm s' (List.mem_cons_of_mem _ hs)) hcol
    rw [← keyColumns_of_delivery hrest hj hrep]
    exact hcol

/-- **When all jobs up to the ticket are delivered, the copy gives the item its keys**, if jobs of its sort
    are taken in. -/
theorem Heads.lastKeys_eq (h : ix.Heads c columns last done) (hn : ∀ job ∈ ix.jobs, last < job.ticket)
    {p : FinishedJob → Bool} (hp : ∀ job, job.kind ≠ .reset → job.columns = columns → p job = true)
    (g : Grouper) : g.lastKeys (done.filter p) c.id = some (g.keySet columns c) := by
  obtain ⟨carrier, hcar, hkind⟩ := h.carried
  -- what is outstanding is too late to bring the item, so the carrier has been delivered
  have hdone := hcar.of_append fun job hj hm =>
    absurd (h.alike job (List.mem_append_right _ hj) hm).2.2 (Nat.not_le_of_lt (hn job hj))
  obtain ⟨front, back, e, hc, hb⟩ := hdone
  obtain ⟨before, rest, rfl, rfl, he⟩ := List.map_eq_append_iff.mp e
  obtain ⟨job, after, rfl, rfl, rfl⟩ := List.map_eq_cons_iff.mp he
  have hmem : job.toJob.unmarked ∈ (before ++ job :: after).map (·.toJob.unmarked) :=
    List.mem_map_of_mem (List.mem_append_right _ List.mem_cons_self)
  obtain ⟨hcolumns, hcount, -⟩ := h.alike _ (List.mem_append_left _ hmem) (mem_idsOf_of_mem hc)
  have hcolumns : job.columns = columns := hcolumns
  have hback : ∀ other ∈ after.filter p, c.id ∉ idsOf other.items := fun other ho =>
    hb other.toJob.unmarked (List.mem_map_of_mem (List.mem_filter.mp ho).1)
  rw [List.filter_append, List.filter_cons_of_pos (hp job hkind hcolumns),
    Grouper.lastKeys_of_last (mem_idsOf_of_mem hc) hback, hcolumns]
  exact Grouper.keysIn_of_count_le_one hc hcount

/-! ## 2. The answer to an update -/

theorem Numbered.ticket_dispatchSome (h : ix.Numbered done) (kind : JobKind) (hne : items ≠ []) :
    (ix.dispatchSome kind items).1 = some (ix.dispatchSome kind items).2.worker.lastTicket :=
  dispatchSome_induct (P := fun r => r.1 = some r.2.worker.lastTicket) (fun e => absurd e hne)
    (congrArg some (h.ticket_submit kind ix.dispatchColumns items))

/-- Of two parts the answer is that to the second, or to the first when the second is empty. -/
theorem Numbered.ticket_parts (h : ix.Numbered done) {known unknown : List Item}
    (hne : unknown = [] → known ≠ []) :
    (((ix.dispatchSome .update known).2.dispatchSome .add unknown).1 <|>
        (ix.dispatchSome .update known).1) =
      some ((ix.dispatchSome .update known).2.dispatchSome .add unknown).2.worker.lastTicket := by
  by_cases hu : unknown = []
  · subst hu
    exact h.ticket_dispatchSome .update (hne rfl)
  · rw [(h.dispatchSome .update known).ticket_dispatchSome .add hu]
    rfl

/-- **An update that brings something is answered with the newest ticket.** -/
theorem Numbered.update_eq (h : ix.Numbered done) (hq : ix.Quiet) (hne : items ≠ []) :
    ix.update items = .ok (some (ix.updated items).worker.lastTicket, ix.updated items) := by
  unfold update Index.updated
  rw [hq.ensureNotApplying, List.partition_eq_filter_filter]
  cases ix.resetting with
  | true =>
    have ht := h.ticket_dispatchSome .add hne
    exact congrArg (fun ticket => Except.ok (ticket, (ix.dispatchSome .add items).2)) ht
  | false =>
    have hparts : (items.filter fun item => !ix.store.indexes item.id) = [] →
        (items.filter fun item => ix.store.indexes item.id) ≠ [] := by
      intro hu hk
      obtain ⟨item, hm⟩ := List.exists_mem_of_ne_nil items hne
      have hnot := List.filter_eq_nil_iff.mp hk item hm
      have hnot' := List.filter_eq_nil_iff.mp hu item hm
      rw [Bool.not_eq_true', Bool.not_eq_false] at hnot'
      exact hnot hnot'
    exact congrArg (fun ticket => Except.ok (ticket, _)) (h.ticket_parts hparts)

/-! ## 3. When the ticket has been applied -/

/-- The jobs outstanding then are all later. -/
theorem lt_ticket_of_applied (hn : ix.Numbered done)
    (ht : last ∈ (ix.deliveries steps).map (·.ticket)) :
    ∀ job ∈ (steps.foldl after ix).jobs, last < job.ticket := by
  intro job hj
  refine Worker.Numbered.lt_of_mem (hn.foldl_after steps) ?_ hj
  rw [List.map_append]
  exact List.mem_append_right _ ht

/-- **When the newest ticket has been applied, no reset is pending**, unless a new one has been asked for. -/
theorem resetting_eq_false_of_applied (ho : ix.Orderly) (hn : ix.Numbered done)
    (hr : ∀ s ∈ steps, s.isReset = false)
    (ht : ix.worker.lastTicket ∈ (ix.deliveries steps).map (·.ticket)) :
    (steps.foldl after ix).resetting = false := by
  cases hres : ix.resetting with
  | false => exact (Uses.foldl_after ⟨hres, rfl⟩ hr).1
  | true =>
    refine eq_false_of_ne_true fun hpending => ?_
    -- the rebuild awaited before is the one awaited now, and it is among the jobs up to the ticket
    obtain ⟨job, hj, -, hlatest⟩ := (ho.foldl_after steps).awaited hpending
    obtain ⟨first, hf, -, hfirst⟩ := ho.awaited hres
    rw [latestReset_foldl_after hr, hfirst, Option.some_inj] at hlatest
    have hlt := lt_ticket_of_applied hn ht job hj
    rw [← hlatest] at hlt
    exact absurd (ho.worker.ticket_le first hf) (Nat.not_le_of_lt hlt)

/-- **Then an item has the keys of the last job that was taken in to bring it**, or those it had before. -/
theorem keysOf_of_applied (ho : ix.Orderly) (hn : ix.Numbered done) {id : ItemId}
    (hid : ix.tombstones[id]? = none) (hr : ∀ s ∈ steps, s.isReset = false)
    (hm : ∀ s ∈ steps, id ∉ s.removes)
    (ht : ix.worker.lastTicket ∈ (ix.deliveries steps).map (·.ticket)) :
    (steps.foldl after ix).keysOf? id =
      (ix.worker.grouper.lastKeys ((ix.deliveries steps).filter fun job => !ix.replaces job &&
        job.columns == (steps.foldl after ix).layout.keyColumns) id).or
          (if ix.resetting then none else ix.keysOf? id) := by
  have hkeys := metKeys_foldl_after ho hid hr hm
  have hmet : ix.metKeys id = if ix.resetting then none else ix.keysOf? id := by
    unfold metKeys keysOf?
    rw [store_met]
    split
    · exact Std.ExtTreeMap.getElem?_empty
    · rfl
  rw [metKeys_of_not_resetting (resetting_eq_false_of_applied ho hn hr ht), landings_eq_filter hr, hmet]
    at hkeys
  exact hkeys

/-- **Then an item has the keys of a copy that was under way**, when all jobs that bring the item were
    made for the columns in force in the end and bring it once. -/
theorem keysOf_of_underway (ho : ix.Orderly) (hn : ix.Numbered done) (hc : ix.Underway c)
    (hr : ∀ s ∈ steps, s.isReset = false) (hm : ∀ s ∈ steps, c.id ∉ s.mentions)
    (ht : ix.worker.lastTicket ∈ (ix.deliveries steps).map (·.ticket))
    (halike : ∀ job ∈ ix.jobs, c.id ∈ idsOf job.items →
      job.columns = (steps.foldl after ix).layout.keyColumns ∧ (idsOf job.items).count c.id ≤ 1) :
    (steps.foldl after ix).keysOf? c.id =
      some (ix.worker.grouper.keySet (steps.foldl after ix).layout.keyColumns c) := by
  have hheads : ix.Heads c (steps.foldl after ix).layout.keyColumns ix.worker.lastTicket [] := by
    refine ⟨hc.carried, fun job hj hid => ?_⟩
    obtain ⟨hcolumns, hcount⟩ := halike job hj hid
    exact ⟨hcolumns, hcount, ho.worker.ticket_le job hj⟩
  have htaken : ∀ job : FinishedJob, job.kind ≠ .reset →
      job.columns = (steps.foldl after ix).layout.keyColumns →
      (!ix.replaces job && job.columns == (steps.foldl after ix).layout.keyColumns) = true := by
    intro job hkind hcolumns
    unfold replaces
    rw [beq_eq_false_iff_ne.mpr hkind, hcolumns, beq_self_eq_true]
    rfl
  rw [keysOf_of_applied ho hn hc.not_removed hr
    (fun s hs h => hm s hs (Step.mem_mentions_of_removes h)) ht]
  have hlast := (hheads.foldl_after hr hm rfl).lastKeys_eq (lt_ticket_of_applied hn ht) htaken
    ix.worker.grouper
  rw [List.nil_append] at hlast
  rw [hlast, Option.some_or]

/-! ## 4. Runs -/

/-- **What the ticket of an update means.** An update is answered with a ticket, and no later step resets
    the index or names the item. Once the job with the ticket has been applied, the item has the keys of the
    last job that has been taken in since to bring it, or those it had before when there is no such job. The
    jobs taken in are those that no newer reset has replaced and that were computed for the columns in force.
    So the item has the keys of the copy passed when every outstanding job that brings the item was computed
    for these columns and brings it once. -/
theorem keys_of_applied_update (extractor : Extractor) (options : IndexOptions) (before : List Step)
    {later : List Step} {items : List Item} {c : Item} (hi : (idsOf items).Nodup) (hc : c ∈ items)
    (hr : ∀ s ∈ later, s.isReset = false) (hm : ∀ s ∈ later, c.id ∉ s.mentions) :
    ∃ start called ix ticket, (ofOptions extractor options).run before = .ok start ∧
      start.update items = .ok (some ticket, called) ∧ called.run later = .ok ix ∧
      (ticket ∈ (called.deliveries later).map (·.ticket) →
        ix.keysOf? c.id = (Grouper.lastKeys { extractor } ((called.deliveries later).filter fun job =>
            !called.replaces job && job.columns == ix.layout.keyColumns) c.id).or
              (if called.resetting then none else called.keysOf? c.id) ∧
        ((∀ job ∈ called.jobs, c.id ∈ idsOf job.items →
            job.columns = ix.layout.keyColumns ∧ (idsOf job.items).count c.id ≤ 1) →
          ix.keysOf? c.id = some (Grouper.keySet { extractor } ix.layout.keyColumns c))) := by
  have ho := orderly_ofOptions extractor options
  have hstart := ho.foldl_after before
  have hnum := (numbered_ofOptions extractor options).foldl_after before
  have hcalled := hstart.after (.update items)
  have hnumcalled := hnum.updated items
  have hway : ((before.foldl Index.after (ofOptions extractor options)).updated items).Underway c :=
    underway_updated hi hc
  refine ⟨_, _, _, _, run_eq ho.quiet before,
    hnum.update_eq hstart.quiet (List.ne_nil_of_mem hc), run_eq hcalled.quiet later, fun ht => ?_⟩
  have hkeys := keysOf_of_applied hcalled hnumcalled hway.not_removed hr
    (fun s hs h => hm s hs (Step.mem_mentions_of_removes h)) ht
  have hcopy := keysOf_of_underway hcalled hnumcalled hway hr hm ht
  rw [grouper_after, grouper_foldl_after] at hkeys hcopy
  exact ⟨hkeys, hcopy⟩

/-- The worker computes one job, which is delivered. -/
def oneJob : List Step := [.start, .finish, .deliver]

/-- An update joins the job that brings an older copy of its item. Its ticket is that of this job, and
    the item has the keys of the newer copy when the job has been applied. -/
theorem keys_of_applied_update_joined : (idsOf [newerCopy]).Nodup ∧
    (∀ s ∈ oneJob, s.isReset = false) ∧ (∀ s ∈ oneJob, newerCopy.id ∉ s.mentions) ∧
      ∃ start called ix ticket, (ofOptions (fieldExtractor "") {}).run [.update [olderCopy]] = .ok start ∧
        start.update [newerCopy] = .ok (some ticket, called) ∧ called.run oneJob = .ok ix ∧
        ticket ∈ (called.deliveries oneJob).map (·.ticket) ∧
        ix.keysOf? 1 = some (Grouper.keySet { extractor := fieldExtractor "" } ix.layout.keyColumns
          newerCopy) := by
  have hi : (idsOf [newerCopy]).Nodup := by decide
  have hr : ∀ s ∈ oneJob, s.isReset = false := by decide
  have hm : ∀ s ∈ oneJob, newerCopy.id ∉ s.mentions := by decide
  obtain ⟨start, called, ix, ticket, hstart, hcalled, hrun, hkeys⟩ :=
    keys_of_applied_update (fieldExtractor "") {} [.update [olderCopy]] hi (List.mem_singleton_self _) hr hm
  have hquiet := quiet_ofOptions (fieldExtractor "") {}
  have hnum := (numbered_ofOptions (fieldExtractor "") {}).foldl_after [.update [olderCopy]]
  obtain rfl := eq_foldl_after_of_run hquiet hstart
  cases (hnum.update_eq (hquiet.foldl_after _) (List.cons_ne_nil _ _)).symm.trans hcalled
  obtain rfl := eq_foldl_after_of_run ((hquiet.foldl_after _).after (.update [newerCopy])) hrun
  obtain ⟨-, hcopy⟩ := hkeys (by decide +kernel)
  exact ⟨hi, hr, hm, _, _, _, _, hstart, hcalled, hrun, by decide +kernel, hcopy (by decide +kernel)⟩

/-- A reset to two columns brings another item. -/
def narrowedBefore : List Step :=
  [.reset [.ofField "artist" "Artist", .ofField "genre" "Genre"] [Item.withField ⟨2, ∅⟩ "genre" "Jazz"],
    .start, .finish]

/-- The first of the columns is hidden before the jobs are delivered. What is submitted again is not
    computed in time. -/
def narrowedLater : List Step := [.start, .finish, .hideColumn 0, .deliver, .start, .deliver]

/-- **An update can be without effect when its ticket has been applied**: its job was computed for other
    columns, so that its item is submitted again. -/
theorem applied_update_can_be_missing : ¬ ∀ (extractor : Extractor) (options : IndexOptions)
    (before later : List Step) (items : List Item) (ticket : Ticket) (start called ix : Index),
    (idsOf items).Nodup → (∀ s ∈ later, s.isReset = false) →
    (∀ s ∈ later, ∀ id ∈ idsOf items, id ∉ s.mentions) →
    (ofOptions extractor options).run before = .ok start →
    start.update items = .ok (some ticket, called) → called.run later = .ok ix →
    ticket ∈ (called.deliveries later).map (·.ticket) →
    ∀ c ∈ items, ix.keysOf? c.id = some (Grouper.keySet { extractor } ix.layout.keyColumns c) := by
  intro h
  have hquiet := quiet_ofOptions (fieldExtractor "")
    { columns := [.ofField "artist" "Artist", .ofField "genre" "Genre"] }
  have hnum := (numbered_ofOptions (fieldExtractor "")
    { columns := [.ofField "artist" "Artist", .ofField "genre" "Genre"] }).foldl_after narrowedBefore
  have hquiet' := hquiet.foldl_after narrowedBefore
  have hnothing : ∀ s ∈ narrowedLater, s.mentions = [] := by decide
  have hkeys := h _ _ narrowedBefore narrowedLater [newerCopy] _ _ _ _ (by decide) (by decide)
    (fun s hs id _ => hnothing s hs ▸ List.not_mem_nil) (run_eq hquiet narrowedBefore)
    (hnum.update_eq hquiet' (List.cons_ne_nil _ _))
    (run_eq (hquiet'.after (.update [newerCopy])) narrowedLater) (by decide +kernel) newerCopy
    (List.mem_singleton_self _)
  exact absurd hkeys (by decide +kernel)

end Index

end MediaIndex
