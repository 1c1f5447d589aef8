import MediaIndex.Proofs.Grouping.Copies
import MediaIndex.Proofs.Index.Bringing

/-!
# What the outstanding jobs come to

The keys that every item will have once all outstanding jobs have been delivered can be told before
they are: jobs for the columns in force are taken in in their order, jobs for other columns after them,
since they are submitted again, and of the jobs that give an item keys the last one counts.

* `Index.given`, `Index.lastGiven` -- the keys a job gives an item, and those of the last job that does;
* `Index.forecast` -- the keys an item will have when nothing is outstanding any more;
* `promised_dispatch`, `forecast_dispatchSome` -- what handing items to the worker changes of it;
* `forecast_outcome` -- whatever becomes of a delivered job changes nothing of it.
-/

namespace MediaIndex.Index

variable {ix ix' : Index} {id : ItemId} {columns : List Column} {kind : JobKind} {items : List Item}

/-! ## 1. What a job gives -/

/-- The keys a job gives an item over some columns: none when it has no copy of it, or when the item was
    removed after its submission. -/
def given (ix : Index) (columns : List Column) (id : ItemId) (job : Job) : Option KeySet :=
  if ix.isTombstoned id job.ticket then none else ix.worker.grouper.keysIn columns job.items id

/-- The keys that the last of some jobs to give the item any gives it. -/
def lastGiven (ix : Index) (columns : List Column) (id : ItemId) (jobs : List Job) : Option KeySet :=
  jobs.reverse.findSome? (ix.given columns id)

theorem given_eq_some_iff {job : Job} {keys : KeySet} : ix.given columns id job = some keys ↔
    ix.isTombstoned id job.ticket = false ∧ ix.worker.grouper.keysIn columns job.items id = some keys := by
  unfold given
  cases ix.isTombstoned id job.ticket with
  | true => exact iff_of_false (fun e => by cases e) fun h => by cases h.1
  | false => exact (and_iff_right rfl).symm

theorem given_eq_none_iff {job : Job} : ix.given columns id job = none ↔
    id ∈ idsOf job.items → ix.isTombstoned id job.ticket = true := by
  unfold given
  cases ix.isTombstoned id job.ticket with
  | true => exact iff_of_true rfl fun _ => rfl
  | false =>
    rw [if_neg Bool.false_ne_true, Grouper.keysIn_eq_none_iff]
    exact ⟨fun hn hm => absurd hm hn, fun h hm => by cases h hm⟩

/-- Whether an item was removed matters only for the jobs that bring it. -/
theorem given_congr {job : Job} (hg : ix'.worker.grouper = ix.worker.grouper)
    (ht : id ∈ idsOf job.items → ix'.isTombstoned id job.ticket = ix.isTombstoned id job.ticket) :
    ix'.given columns id job = ix.given columns id job := by
  by_cases hm : id ∈ idsOf job.items
  · unfold given
    rw [ht hm, hg]
  · rw [given_eq_none_iff.mpr fun h => absurd h hm, given_eq_none_iff.mpr fun h => absurd h hm]

theorem lastGiven_nil : ix.lastGiven columns id [] = none := rfl

theorem lastGiven_append (jobs more : List Job) : ix.lastGiven columns id (jobs ++ more) =
    (ix.lastGiven columns id more).or (ix.lastGiven columns id jobs) := by
  rw [lastGiven, List.reverse_append, List.findSome?_append]
  rfl

theorem lastGiven_singleton (job : Job) : ix.lastGiven columns id [job] = ix.given columns id job := by
  rw [lastGiven, List.reverse_singleton, List.findSome?_singleton]

theorem lastGiven_cons (job : Job) (jobs : List Job) : ix.lastGiven columns id (job :: jobs) =
    (ix.lastGiven columns id jobs).or (ix.given columns id job) := by
  have h : ix.lastGiven columns id ([job] ++ jobs) = _ := lastGiven_append [job] jobs
  rwa [lastGiven_singleton] at h

theorem lastGiven_congr {jobs : List Job}
    (h : ∀ job ∈ jobs, ix'.given columns id job = ix.given columns id job) :
    ix'.lastGiven columns id jobs = ix.lastGiven columns id jobs := by
  induction jobs with
  | nil => rw [lastGiven_nil, lastGiven_nil]
  | cons job jobs ih =>
    have htail := ih fun other ho => h other (List.mem_cons_of_mem _ ho)
    rw [lastGiven_cons, lastGiven_cons, htail, h job List.mem_cons_self]

/-- A batch that is taken in gives the item the keys of its job, or leaves it those it has. -/
theorem keysOf_take_wanted {job : FinishedJob} {s : Store} {visible : List Nat} (hs : s.Sound)
    (hb : job.batch = ix.worker.grouper.compute job.items job.columns) :
    (s.take visible (ix.wanted job)).keysOf[id]? =
      (ix.given job.columns id job.toJob.unmarked).or s.keysOf[id]? := by
  have hsound := ix.sound_wanted hb
  cases hg : ix.given job.columns id job.toJob.unmarked with
  | none =>
    have hkept : id ∉ idsOf (ix.kept job) := by
      intro hm
      obtain ⟨hi, ht⟩ := mem_idsOf_kept.mp hm
      have ht' : ix.isTombstoned id job.ticket = true := given_eq_none_iff.mp hg hi
      rw [ht] at ht'
      cases ht'
    have hreq : id ∉ (ix.wanted job).requested := fun hr => hkept ((mem_requested_wanted_iff hb).mp hr)
    have hputs (key : GroupKey) : ¬ (ix.wanted job).Puts key id :=
      fun hp => hkept ((exists_puts_wanted hb).mp ⟨key, hp⟩)
    exact Store.keysOf_take_of_not_requested hs hsound hreq hputs
  | some keys =>
    obtain ⟨ht, hk⟩ := given_eq_some_iff.mp hg
    have hk : ix.worker.grouper.keysIn job.columns job.items id = some keys := hk
    have hkept : id ∈ idsOf (ix.kept job) := mem_idsOf_kept.mpr ⟨Grouper.mem_of_keysIn hk, ht⟩
    have hputs (key : GroupKey) : (ix.wanted job).Puts key id ↔ key ∈ keys := by
      rw [wanted, Batch.puts_without, hb, Grouper.puts_compute_iff hk]
      exact and_iff_left ht
    exact Store.keysOf_take hs hsound ((mem_requested_wanted_iff hb).mpr hkept)
      (Grouper.ne_empty_of_keysIn hk) hputs

/-- The items that are submitted again give what their job gives. -/
theorem keysIn_kept {job : FinishedJob} : ix.worker.grouper.keysIn columns (ix.kept job) id =
    ix.given columns id job.toJob.unmarked := by
  rw [kept, Grouper.keysIn_filter fun id => !ix.isTombstoned id job.ticket]
  show _ = if ix.isTombstoned id job.ticket then none else ix.worker.grouper.keysIn columns job.items id
  cases ix.isTombstoned id job.ticket with
  | true => rfl
  | false => rfl

/-! ## 2. The forecast -/

/-- The job is not a rebuild that a newer reset has replaced. -/
def awaits (ix : Index) (job : Job) : Bool := !(job.kind == .reset && ix.latestReset != some job.ticket)

/-- The outstanding jobs that are taken in when they are delivered. -/
def prompt (ix : Index) : List Job :=
  ix.jobs.filter fun job => ix.awaits job && job.columns == ix.dispatchColumns

/-- The outstanding jobs that are submitted again when they are delivered. -/
def late (ix : Index) : List Job :=
  ix.jobs.filter fun job => ix.awaits job && job.columns != ix.dispatchColumns

/-- The keys that the outstanding jobs will give the item. -/
def promised (ix : Index) (id : ItemId) : Option KeySet :=
  (ix.lastGiven ix.dispatchColumns id ix.late).or (ix.lastGiven ix.dispatchColumns id ix.prompt)

/-- **The keys that the item will have when nothing is outstanding any more.** -/
def forecast (ix : Index) (id : ItemId) : Option KeySet := (ix.promised id).or ix.met.store.keysOf[id]?

/-- An index without jobs and without a pending reset has come to its forecast. -/
theorem forecast_of_no_jobs (hj : ix.jobs = []) (hr : ix.resetting = false) :
    ix.forecast id = ix.store.keysOf[id]? := by
  unfold forecast promised prompt late
  rw [hj, met_of_not_resetting hr]
  rfl

theorem prompt_congr (hj : ix'.jobs = ix.jobs) (hc : ix'.dispatchColumns = ix.dispatchColumns)
    (hl : ix'.latestReset = ix.latestReset) : ix'.prompt = ix.prompt := by
  unfold prompt awaits
  rw [hj, hc, hl]

theorem late_congr (hj : ix'.jobs = ix.jobs) (hc : ix'.dispatchColumns = ix.dispatchColumns)
    (hl : ix'.latestReset = ix.latestReset) : ix'.late = ix.late := by
  unfold late awaits
  rw [hj, hc, hl]

theorem promised_congr (hj : ix'.jobs = ix.jobs) (hc : ix'.dispatchColumns = ix.dispatchColumns)
    (hl : ix'.latestReset = ix.latestReset)
    (hg : ∀ job ∈ ix.jobs, ix'.given ix.dispatchColumns id job = ix.given ix.dispatchColumns id job) :
    ix'.promised id = ix.promised id := by
  have hgiven (p : Job → Bool) : ix'.lastGiven ix.dispatchColumns id (ix.jobs.filter p) =
      ix.lastGiven ix.dispatchColumns id (ix.jobs.filter p) :=
    lastGiven_congr fun job hm => hg job (List.mem_filter.mp hm).1
  unfold promised
  rw [prompt_congr hj hc hl, late_congr hj hc hl, hc, prompt, late, hgiven, hgiven]

/-- Jobs of which none gives anything promise nothing. -/
theorem promised_eq_none (h : ∀ job ∈ ix.jobs, ix.given ix.dispatchColumns id job = none) :
    ix.promised id = none := by
  have hlast (p : Job → Bool) : ix.lastGiven ix.dispatchColumns id (ix.jobs.filter p) = none := by
    refine List.findSome?_eq_none_iff.mpr fun job hm => ?_
    exact h job (List.mem_filter.mp (List.mem_reverse.mp hm)).1
  rw [promised, late, prompt, hlast, hlast, Option.or_none]

/-! ## 3. Handing items to the worker -/

section Dispatch

theorem isTombstoned_dispatch {ticket : Ticket} :
    (ix.dispatch kind items).2.isTombstoned id ticket =
      if id ∈ idsOf items then false else ix.isTombstoned id ticket := by
  by_cases hm : id ∈ idsOf items
  · rw [if_pos hm]
    refine isTombstoned_eq_false ?_ ticket
    rw [getElem?_tombstones_dispatch, if_pos hm]
  · rw [if_neg hm]
    refine isTombstoned_congr ?_
    rw [getElem?_tombstones_dispatch, if_neg hm]

theorem grouper_dispatch : (ix.dispatch kind items).2.worker.grouper = ix.worker.grouper :=
  ix.worker.grouper_submit kind ix.dispatchColumns items

/-- What a job gives stays the same when the item was not removed after its submission. -/
theorem given_dispatch {job : Job}
    (h : id ∈ idsOf items → id ∈ idsOf job.items → ix.isTombstoned id job.ticket = false) :
    (ix.dispatch kind items).2.given columns id job = ix.given columns id job := by
  refine given_congr grouper_dispatch fun hm => ?_
  rw [isTombstoned_dispatch]
  split
  · exact (h ‹_› hm).symm
  · rfl

/-- A job that has the items handed over gives what they give. -/
theorem given_dispatch_of_mem {job : Job} (hm : id ∈ idsOf items)
    (hk : ix.worker.grouper.keysIn columns job.items id = ix.worker.grouper.keysIn columns items id) :
    (ix.dispatch kind items).2.given columns id job = ix.worker.grouper.keysIn columns items id := by
  unfold given
  rw [isTombstoned_dispatch, if_pos hm, if_neg Bool.false_ne_true, grouper_dispatch, hk]

/-- **The items handed over give the keys of their copies, whatever the jobs before them give.** -/
theorem lastGiven_dispatch {p : Job → Bool} (hi : (idsOf items).Nodup)
    (hd : ∀ job ∈ ix.jobs, job.kind = kind → (idsOf job.items).Nodup)
    (hp : ∀ job : Job, job.kind = kind → job.columns = ix.dispatchColumns → p job = true) :
    (ix.dispatch kind items).2.lastGiven columns id ((ix.dispatch kind items).2.jobs.filter p) =
      (ix.worker.grouper.keysIn columns items id).or
        (ix.lastGiven columns id (ix.jobs.filter p)) := by
  have hsame (jobs : List Job) (hn : id ∉ idsOf items) :
      (ix.dispatch kind items).2.lastGiven columns id jobs = ix.lastGiven columns id jobs :=
    lastGiven_congr fun job _ => given_dispatch fun hm => absurd hm hn
  unfold jobs at hd ⊢
  rcases ix.submitted_dispatch kind items with
    ⟨-, hjobs, -⟩ | ⟨front, tail, -, hold, hjobs, -, -, hkind, hcolumns⟩
  · have hnew : p { ticket := ix.worker.lastTicket + 1, kind, columns := ix.dispatchColumns, items } = true :=
      hp _ rfl rfl
    rw [hjobs, List.filter_append, List.filter_cons_of_pos hnew, List.filter_nil, lastGiven_append,
      lastGiven_singleton]
    by_cases hm : id ∈ idsOf items
    · rw [given_dispatch_of_mem hm rfl, Grouper.keysIn_or_of_mem hm, Grouper.keysIn_or_of_mem hm]
    · rw [hsame _ hm, Grouper.keysIn_eq_none_iff.mpr hm, given_eq_none_iff.mpr fun h => absurd h hm]
  · have htail : (idsOf tail.items).Nodup :=
      hd tail (hold ▸ List.mem_append_right _ (List.mem_singleton_self _)) hkind
    have habsorb : ix.worker.grouper.keysIn columns (tail.absorb items).items id =
        (ix.worker.grouper.keysIn columns items id).or (ix.worker.grouper.keysIn columns tail.items id) :=
      Grouper.keysIn_absorb htail hi
    have hjoined : p (tail.absorb items) = true := hp _ hkind hcolumns
    rw [hjobs, hold, List.filter_append, List.filter_append, List.filter_cons_of_pos hjoined,
      List.filter_cons_of_pos (hp _ hkind hcolumns), List.filter_nil, lastGiven_append, lastGiven_append,
      lastGiven_singleton, lastGiven_singleton]
    by_cases hm : id ∈ idsOf items
    · rw [Grouper.keysIn_or_of_mem hm] at habsorb
      rw [given_dispatch_of_mem hm habsorb, Grouper.keysIn_or_of_mem hm, Grouper.keysIn_or_of_mem hm]
    · rw [Grouper.keysIn_eq_none_iff.mpr hm, Option.none_or] at habsorb
      have hgiven : (ix.dispatch kind items).2.given columns id (tail.absorb items) =
          ix.given columns id tail := by
        unfold given
        rw [isTombstoned_dispatch, if_neg hm, grouper_dispatch, habsorb]
        rfl
      rw [hsame _ hm, hgiven, Grouper.keysIn_eq_none_iff.mpr hm, Option.none_or]

theorem lastGiven_jobs_dispatch (hi : (idsOf items).Nodup)
    (hd : ∀ job ∈ ix.jobs, job.kind = kind → (idsOf job.items).Nodup) :
    (ix.dispatch kind items).2.lastGiven columns id (ix.dispatch kind items).2.jobs =
      (ix.worker.grouper.keysIn columns items id).or (ix.lastGiven columns id ix.jobs) := by
  have h : (ix.dispatch kind items).2.lastGiven columns id
      ((ix.dispatch kind items).2.jobs.filter fun _ => true) = _ :=
    lastGiven_dispatch hi hd fun _ _ _ => rfl
  rwa [List.filter_true, List.filter_true] at h

/-- A request that may join no job of some sort leaves the jobs of this sort as they are. -/
theorem filter_jobs_dispatch {p : Job → Bool}
    (hp : ∀ job : Job, job.kind = kind → job.columns = ix.dispatchColumns → p job = false) :
    (ix.dispatch kind items).2.jobs.filter p = ix.jobs.filter p := by
  unfold jobs
  rcases ix.submitted_dispatch kind items with
    ⟨-, hjobs, -⟩ | ⟨front, tail, -, hold, hjobs, -, -, hkind, hcolumns⟩
  · rw [hjobs, List.filter_append, List.filter_cons_of_neg (Bool.eq_false_iff.mp (hp _ rfl rfl)),
      List.filter_nil, List.append_nil]
  · have hjoined : p (tail.absorb items) = false := hp _ hkind hcolumns
    rw [hjobs, hold, List.filter_append, List.filter_append,
      List.filter_cons_of_neg (Bool.eq_false_iff.mp hjoined),
      List.filter_cons_of_neg (Bool.eq_false_iff.mp (hp _ hkind hcolumns))]

/-- **What the jobs promise after items have been handed over**: the copies handed over count before
    all jobs that are taken in, and after those that are submitted again. -/
theorem promised_dispatch (hk : kind ≠ .reset) (hi : (idsOf items).Nodup)
    (hd : ∀ job ∈ ix.jobs, job.kind = kind → (idsOf job.items).Nodup)
    (hl : ∀ job ∈ ix.late, id ∈ idsOf items → id ∈ idsOf job.items →
      ix.isTombstoned id job.ticket = false) :
    (ix.dispatch kind items).2.promised id = (ix.lastGiven ix.dispatchColumns id ix.late).or
      ((ix.worker.grouper.keysIn ix.dispatchColumns items id).or
        (ix.lastGiven ix.dispatchColumns id ix.prompt)) := by
  have hawaits (job : Job) (h : job.kind = kind) : ix.awaits job = true := by
    unfold awaits
    rw [h, beq_eq_false_iff_ne.mpr hk]
    rfl
  have hlate : (ix.dispatch kind items).2.late = ix.late := by
    refine filter_jobs_dispatch (p := fun job => ix.awaits job && job.columns != ix.dispatchColumns)
      fun job _ hc => ?_
    rw [bne_eq_false_iff_eq.mpr hc, Bool.and_false]
  have hprompt : (ix.dispatch kind items).2.lastGiven ix.dispatchColumns id
      (ix.dispatch kind items).2.prompt = (ix.worker.grouper.keysIn ix.dispatchColumns items id).or
        (ix.lastGiven ix.dispatchColumns id ix.prompt) := by
    refine lastGiven_dispatch hi hd (p := fun job => ix.awaits job && job.columns == ix.dispatchColumns)
      fun job h hc => ?_
    rw [hawaits job h, beq_iff_eq.mpr hc, Bool.and_self]
  unfold promised
  rw [hlate]
  exact congrArg₂ Option.or (lastGiven_congr fun job hm => given_dispatch (hl job hm)) hprompt

theorem promised_dispatchSome (hk : kind ≠ .reset) (hi : (idsOf items).Nodup)
    (hd : ∀ job ∈ ix.jobs, job.kind = kind → (idsOf job.items).Nodup)
    (hl : ∀ job ∈ ix.late, id ∈ idsOf items → id ∈ idsOf job.items →
      ix.isTombstoned id job.ticket = false) :
    (ix.dispatchSome kind items).2.promised id = (ix.lastGiven ix.dispatchColumns id ix.late).or
      ((ix.worker.grouper.keysIn ix.dispatchColumns items id).or
        (ix.lastGiven ix.dispatchColumns id ix.prompt)) := by
  refine dispatchSome_induct (P := fun r => r.2.promised id = _) (fun e => ?_)
    (promised_dispatch hk hi hd hl)
  have hnone : ix.worker.grouper.keysIn ix.dispatchColumns items id = none := by
    rw [e]
    exact Grouper.keysIn_eq_none_iff.mpr List.not_mem_nil
  rw [hnone, Option.none_or]
  rfl

theorem dispatchColumns_dispatchSome :
    (ix.dispatchSome kind items).2.dispatchColumns = ix.dispatchColumns :=
  dispatchSome_induct (P := fun r => r.2.dispatchColumns = _) (fun _ => rfl) rfl

theorem store_met_dispatchSome : (ix.dispatchSome kind items).2.met.store = ix.met.store := by
  refine dispatchSome_induct (P := fun r => r.2.met.store = _) (fun _ => rfl) ?_
  rw [store_met, store_met]
  rfl

/-- When no job is to be submitted again, the copies handed over are the last to count. -/
theorem forecast_dispatchSome (hk : kind ≠ .reset) (hi : (idsOf items).Nodup)
    (hd : ∀ job ∈ ix.jobs, job.kind = kind → (idsOf job.items).Nodup) (hl : ix.late = []) :
    (ix.dispatchSome kind items).2.forecast id =
      (ix.worker.grouper.keysIn ix.dispatchColumns items id).or (ix.forecast id) := by
  have hnone (job : Job) (h : job ∈ ix.late) : False := by
    rw [hl] at h
    exact List.not_mem_nil h
  unfold forecast
  rw [promised_dispatchSome hk hi hd fun job h => (hnone job h).elim, store_met_dispatchSome, promised,
    hl, lastGiven_nil, Option.none_or, Option.none_or, Option.or_assoc]

end Dispatch

/-! ## 4. Deliveries -/

section Delivery

variable {job : FinishedJob} {rest : List FinishedJob}

/-- The columns of new jobs are the same before and after a pending reset clears the store. -/
theorem Coherent.dispatchColumns_met (h : ix.Coherent) : ix.met.dispatchColumns = ix.dispatchColumns := by
  rw [← h.keyColumns_met, dispatchColumns, h.pendingColumns_met, Option.getD_none]

theorem dispatchColumns_popped_met (h : ix.Coherent) :
    (ix.popped rest).applying.met.dispatchColumns = ix.dispatchColumns := by
  rw [← h.dispatchColumns_met, met_applying, met_popped]
  rfl

/-- An item that was not removed after some job was submitted was not after a later one either. -/
theorem isTombstoned_mono {ticket later : Ticket} (h : ix.isTombstoned id ticket = false)
    (hl : ticket ≤ later) : ix.isTombstoned id later = false := by
  unfold isTombstoned at h ⊢
  cases ht : ix.tombstones[id]? with
  | none => rfl
  | some removedAt =>
    rw [ht] at h
    have hlt : ¬ ticket ≤ removedAt := of_decide_eq_false h
    exact decide_eq_false fun hle => hlt (Nat.le_trans hl hle)

/-- What a job gives is the same before and after a pending reset clears the store. -/
theorem given_met (job : Job) : ix.met.given columns id job = ix.given columns id job := by
  refine given_congr ?_ fun _ => isTombstoned_congr ?_
  · rw [worker_met]
  · rw [tombstones_met]

/-- The jobs behind the one that is delivered promise what they did. -/
theorem promised_popped_met (h : ix.Coherent) (s : Store) :
    promised { (ix.popped rest).applying.met with store := s } id = (ix.popped rest).promised id :=
  promised_congr jobs_met (dispatchColumns_popped_met h) latestReset_met fun job _ => given_met job

theorem prompt_popped (hf : ix.worker.finished = job :: rest) : ix.prompt =
    if !ix.replaces job && job.columns == ix.dispatchColumns then
      job.toJob.unmarked :: (ix.popped rest).prompt
    else (ix.popped rest).prompt := by
  rw [prompt, jobs_popped hf, List.filter_cons]
  rfl

theorem late_popped (hf : ix.worker.finished = job :: rest) : ix.late =
    if !ix.replaces job && job.columns != ix.dispatchColumns then
      job.toJob.unmarked :: (ix.popped rest).late
    else (ix.popped rest).late := by
  rw [late, jobs_popped hf, List.filter_cons]
  rfl

/-- A rebuild that is dropped promises nothing. -/
theorem promised_of_dropped (hf : ix.worker.finished = job :: rest) (hr : ix.replaces job = true) :
    ix.promised id = (ix.popped rest).promised id := by
  rw [promised, prompt_popped hf, late_popped hf, hr, Bool.not_true, Bool.false_and, Bool.false_and,
    if_neg Bool.false_ne_true, if_neg Bool.false_ne_true]
  rfl

/-- A job that is taken in counts before all others. -/
theorem promised_of_taken (hf : ix.worker.finished = job :: rest) (hr : ix.replaces job = false)
    (hc : job.columns = ix.dispatchColumns) :
    ix.promised id = ((ix.popped rest).promised id).or (ix.given job.columns id job.toJob.unmarked) := by
  rw [promised, prompt_popped hf, late_popped hf, hr, bne_eq_false_iff_eq.mpr hc, beq_iff_eq.mpr hc,
    Bool.and_false, Bool.not_false, Bool.and_self, if_pos rfl, if_neg Bool.false_ne_true, lastGiven_cons,
    hc, ← Option.or_assoc]
  rfl

/-- A job that is submitted again counts after all jobs that are taken in. -/
theorem promised_of_again (hf : ix.worker.finished = job :: rest) (hr : ix.replaces job = false)
    (hc : job.columns ≠ ix.dispatchColumns) :
    ix.promised id = (ix.lastGiven ix.dispatchColumns id (ix.popped rest).late).or
      ((ix.given ix.dispatchColumns id job.toJob.unmarked).or
        (ix.lastGiven ix.dispatchColumns id (ix.popped rest).prompt)) := by
  rw [promised, prompt_popped hf, late_popped hf, hr, bne_iff_ne.mpr hc, beq_eq_false_iff_ne.mpr hc,
    Bool.and_false, Bool.not_false, Bool.and_self, if_pos rfl, if_neg Bool.false_ne_true, lastGiven_cons,
    Option.or_assoc]

/-- Jobs that have one copy of every item, but for a rebuild that is taken in when it is delivered. -/
def Firm (ix : Index) : Prop :=
  ∀ job ∈ ix.jobs, (idsOf job.items).Nodup ∨ (job.kind = .reset ∧ job.columns = ix.dispatchColumns)

theorem Firm.nodup (h : ix.Firm) (hk : kind ≠ .reset) :
    ∀ job ∈ ix.jobs, job.kind = kind → (idsOf job.items).Nodup := by
  intro job hm hkind
  rcases h job hm with hd | ⟨hr, -⟩
  · exact hd
  · exact absurd (hkind.symm.trans hr) hk

theorem Firm.congr (h : ix.Firm) (hj : ∀ job ∈ ix'.jobs, job ∈ ix.jobs)
    (hc : ix'.dispatchColumns = ix.dispatchColumns) : ix'.Firm := by
  intro job hm
  rw [hc]
  exact h job (hj job hm)

theorem Firm.dispatchSome (h : ix.Firm) (hk : kind ≠ .reset) (hi : (idsOf items).Nodup) :
    (ix.dispatchSome kind items).2.Firm := by
  refine dispatchSome_induct (P := fun r => r.2.Firm) (fun _ => h) fun job hm => ?_
  rcases ix.mem_jobs_dispatch kind items hm with hm | ⟨-, -, e | ⟨tail, ht, hkind, e⟩⟩
  · exact h job hm
  · exact Or.inl (e ▸ hi)
  · rw [e]
    exact Or.inl (nodup_idsOf_absorb (h.nodup hk tail ht hkind))

theorem Firm.popped_met (hfirm : ix.Firm) (h : ix.Coherent) (hf : ix.worker.finished = job :: rest) :
    (ix.popped rest).applying.met.Firm := by
  have hjobs : (ix.popped rest).applying.met.jobs = (ix.popped rest).jobs := jobs_met
  refine hfirm.congr (fun other ho => mem_jobs_of_popped hf ?_) (dispatchColumns_popped_met h)
  rwa [hjobs] at ho

/-- Only a rebuild that is taken in may have an item twice. -/
theorem Firm.nodup_of_again (hfirm : ix.Firm) (hf : ix.worker.finished = job :: rest)
    (hc : job.columns ≠ ix.dispatchColumns) : (idsOf (ix.kept job)).Nodup := by
  have hmem : job.toJob.unmarked ∈ ix.jobs := mem_jobs_of_finished hf
  rcases hfirm _ hmem with hd | ⟨-, hcolumns⟩
  · exact nodup_idsOf_filter hd _
  · exact absurd hcolumns hc

/-- A job that is submitted again keeps its place among those that are. -/
theorem forecast_resubmitted (h : ix.Coherent) (hfirm : ix.Firm)
    (hf : ix.worker.finished = job :: rest) (hr : ix.replaces job = false)
    (hc : job.columns ≠ ix.dispatchColumns) :
    ((ix.popped rest).applying.met.resubmitted job).forecast id = ix.forecast id := by
  have hcolumns : (ix.popped rest).applying.met.dispatchColumns = ix.dispatchColumns :=
    dispatchColumns_popped_met h
  have hlate : (ix.popped rest).applying.met.late = (ix.popped rest).late :=
    late_congr jobs_met hcolumns latestReset_met
  have hprompt : (ix.popped rest).applying.met.prompt = (ix.popped rest).prompt :=
    prompt_congr jobs_met hcolumns latestReset_met
  have hadd : JobKind.add ≠ .reset := fun e => by cases e
  have hkept : (idsOf (ix.kept job)).Nodup := hfirm.nodup_of_again hf hc
  -- a copy that is submitted again was not removed, so none in a later job was
  have hlater : ∀ other ∈ (ix.popped rest).applying.met.late, id ∈ idsOf (ix.kept job) →
      id ∈ idsOf other.items → (ix.popped rest).applying.met.isTombstoned id other.ticket = false := by
    intro other ho hm _
    have hother : other ∈ (ix.popped rest).jobs := (List.mem_filter.mp (hlate ▸ ho)).1
    have htomb : (ix.popped rest).applying.met.tombstones[id]? = ix.tombstones[id]? := by
      rw [tombstones_met]
      rfl
    have hlt := lt_of_mem_jobs_popped h.worker hf hother
    rw [isTombstoned_congr htomb]
    exact isTombstoned_mono (mem_idsOf_kept.mp hm).2 (Nat.le_of_lt hlt)
  have hpromised := promised_dispatchSome hadd hkept ((hfirm.popped_met h hf).nodup hadd) hlater
  have hgiven : (ix.popped rest).applying.met.worker.grouper.keysIn ix.dispatchColumns (ix.kept job) id =
      ix.given ix.dispatchColumns id job.toJob.unmarked := by
    rw [worker_met]
    exact keysIn_kept
  have hlast (jobs : List Job) : (ix.popped rest).applying.met.lastGiven ix.dispatchColumns id jobs =
      ix.lastGiven ix.dispatchColumns id jobs := lastGiven_congr fun other _ => given_met other
  have hstore : (ix.popped rest).applying.met.met.store = ix.met.store := by
    rw [met_of_not_resetting resetting_met, met_applying, met_popped]
    rfl
  unfold forecast
  rw [resubmitted_eq, kept_met, store_met_dispatchSome, hstore, hpromised, hcolumns, hgiven, hlast, hlast,
    hlate, hprompt, promised_of_again hf hr hc]

/-- **Whatever becomes of a job, the forecast stays the same.** -/
theorem forecast_outcome (h : ix.Coherent) (hfirm : ix.Firm) (hf : ix.worker.finished = job :: rest)
    {stage : Index} (hout : (ix.popped rest).Outcome job stage) : stage.forecast id = ix.forecast id := by
  have hstore : (ix.popped rest).met.store = ix.met.store := by
    rw [met_popped]
    rfl
  have hcolumns : (ix.popped rest).met.layout.keyColumns = ix.dispatchColumns := by
    rw [met_popped, ← h.keyColumns_met]
    rfl
  cases hout with
  | dropped hr hs =>
    subst hs
    have hmet : (ix.popped rest).applying.met.store = ix.met.store := by
      rw [met_applying]
      exact hstore
    unfold forecast
    rw [promised_of_dropped hf hr, hmet]
    rfl
  | taken hr hc hs =>
    subst hs
    have hb : job.batch = (ix.popped rest).worker.grouper.compute job.items job.columns :=
      h.worker.batch_eq job (hf ▸ List.mem_cons_self)
    have hmet : met { (ix.popped rest).applying.met with
        store := (ix.popped rest).met.store.take (ix.popped rest).met.layout.visible
          ((ix.popped rest).wanted job) } = _ := met_of_not_resetting resetting_met
    unfold forecast
    rw [promised_popped_met h, promised_of_taken hf hr (hc.trans hcolumns), hmet, Option.or_assoc]
    show Option.or _ ((ix.popped rest).met.store.take _ _).keysOf[id]? = _
    rw [hstore, keysOf_take_wanted h.store_met hb]
    rfl
  | again hr hc hs =>
    subst hs
    exact forecast_resubmitted h hfirm hf hr fun e => hc (e.trans hcolumns.symm)

theorem Firm.outcome (hfirm : ix.Firm) (h : ix.Coherent) (hf : ix.worker.finished = job :: rest)
    {stage : Index} (hout : (ix.popped rest).Outcome job stage) : stage.Firm := by
  have hmet : (ix.popped rest).applying.met.Firm := hfirm.popped_met h hf
  have hcolumns : (ix.popped rest).met.layout.keyColumns = ix.dispatchColumns := by
    rw [met_popped, ← h.keyColumns_met]
    rfl
  cases hout with
  | dropped hr hs =>
    subst hs
    exact hfirm.congr (fun other ho => mem_jobs_of_popped hf ho) rfl
  | taken hr hc hs =>
    subst hs
    exact hmet.congr (fun other ho => ho) rfl
  | again hr hc hs =>
    subst hs
    have hkept := hfirm.nodup_of_again hf fun e => hc (e.trans hcolumns.symm)
    rw [resubmitted_eq, kept_met]
    exact hmet.dispatchSome (fun e => by cases e) hkept

end Delivery

end MediaIndex.Index
