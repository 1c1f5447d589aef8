import MediaIndex.Proofs.RowView

/-!
# Changes told in pairs

A stream of events is well formed when every change that begins ends with the next event. Outside a
reset, every move of the index tells of its rows, columns and nodes in this form, and tells neither of
a reset nor of a batch.

* `Paired` -- every change that begins ends at once; `Paired.ends_of_begins`, `Paired.begins_of_ends`;
* `Told` -- such events of rows, columns and nodes alone; `told_rows`, `Told.append`;
* `Index.TellsRows`, `TellsRows.trans` -- a move tells such events, and moves one after another;
* `tellsRows_takenUp`, `tellsRows_removed`, `tellsRows_hidden` and others -- the moves do;
* `notifier_applied` -- a job is told of after a reset, or after such events.
-/

namespace MediaIndex

/-- The event begins or ends a reset. -/
def Event.ofReset : Event → Bool
  | .begins .reset | .ends .reset => true
  | _ => false

/-- The ticket of the job that the event says has been applied. -/
def Event.ticket? : Event → Option Ticket
  | .batchApplied ticket => some ticket
  | _ => none

/-! ## 1. Streams in which every change is a pair -/

/-- Every change that begins ends with the next event, and none ends that has not just begun. -/
inductive Paired : List Event → Prop
  | nil : Paired []
  | pair (b : Bracket) {events : List Event} (h : Paired events) :
      Paired (.begins b :: .ends b :: events)
  | changed (node : NodeRef) (aspects : List Aspect) {events : List Event} (h : Paired events) :
      Paired (.changed node aspects :: events)
  | batchApplied (ticket : Ticket) {events : List Event} (h : Paired events) :
      Paired (.batchApplied ticket :: events)

variable {events more : List Event} {b : Bracket}

theorem Paired.append (h : Paired events) (h' : Paired more) : Paired (events ++ more) := by
  induction h with
  | nil => exact h'
  | pair b _ ih => exact .pair b ih
  | changed node aspects _ ih => exact .changed node aspects ih
  | batchApplied ticket _ ih => exact .batchApplied ticket ih

/-- **The event after the beginning of a change is the end of that change.** -/
theorem Paired.ends_of_begins (h : Paired events) {i : Nat} (hi : events[i]? = some (.begins b)) :
    events[i + 1]? = some (.ends b) := by
  induction h generalizing i with
  | nil => simp at hi
  | pair b' _ ih =>
    match i with
    | 0 =>
      have hb : b' = b := by simpa using hi
      rw [hb]
      rfl
    | 1 => simp at hi
    | i + 2 => exact ih hi
  | changed node aspects _ ih =>
    cases i with
    | zero => simp at hi
    | succ i => exact ih hi
  | batchApplied ticket _ ih =>
    cases i with
    | zero => simp at hi
    | succ i => exact ih hi

/-- **The event before the end of a change is the beginning of that change.** -/
theorem Paired.begins_of_ends (h : Paired events) {i : Nat} (hi : events[i]? = some (.ends b)) :
    ∃ j, i = j + 1 ∧ events[j]? = some (.begins b) := by
  induction h generalizing i with
  | nil => simp at hi
  | pair b' _ ih =>
    match i with
    | 0 => simp at hi
    | 1 =>
      have hb : b' = b := by simpa using hi
      rw [hb]
      exact ⟨0, rfl, rfl⟩
    | i + 2 =>
      obtain ⟨j, rfl, hj⟩ := ih hi
      exact ⟨j + 2, rfl, hj⟩
  | changed node aspects _ ih =>
    cases i with
    | zero => simp at hi
    | succ i =>
      obtain ⟨j, rfl, hj⟩ := ih hi
      exact ⟨j + 1, rfl, hj⟩
  | batchApplied ticket _ ih =>
    cases i with
    | zero => simp at hi
    | succ i =>
      obtain ⟨j, rfl, hj⟩ := ih hi
      exact ⟨j + 1, rfl, hj⟩

/-! ## 2. Events of rows, columns and nodes -/

/-- Events of rows, columns and nodes in which every change is a pair. -/
inductive Told : List Event → Prop
  | nil : Told []
  | pair (b : Bracket) (hb : b ≠ .reset) {events : List Event} (h : Told events) :
      Told (.begins b :: .ends b :: events)
  | changed (node : NodeRef) (aspects : List Aspect) {events : List Event} (h : Told events) :
      Told (.changed node aspects :: events)

theorem Told.append (h : Told events) (h' : Told more) : Told (events ++ more) := by
  induction h with
  | nil => exact h'
  | pair b hb _ ih => exact .pair b hb ih
  | changed node aspects _ ih => exact .changed node aspects ih

theorem Told.paired (h : Told events) : Paired events := by
  induction h with
  | nil => exact .nil
  | pair b _ _ ih => exact .pair b ih
  | changed node aspects _ ih => exact .changed node aspects ih

/-- What is told of rows tells of no reset. -/
theorem Told.ofReset_eq (h : Told events) : ∀ e ∈ events, e.ofReset = false := by
  induction h with
  | nil => exact fun e he => absurd he List.not_mem_nil
  | pair b hb _ ih =>
    have hboth : (Event.begins b).ofReset = false ∧ (Event.ends b).ofReset = false := by
      cases b with
      | reset => exact absurd rfl hb
      | _ => exact ⟨rfl, rfl⟩
    exact List.forall_mem_cons.mpr ⟨hboth.1, List.forall_mem_cons.mpr ⟨hboth.2, ih⟩⟩
  | changed node aspects _ ih => exact List.forall_mem_cons.mpr ⟨rfl, ih⟩

/-- What is told of rows tells of no batch. -/
theorem Told.ticket?_eq (h : Told events) : ∀ e ∈ events, e.ticket? = none := by
  induction h with
  | nil => exact fun e he => absurd he List.not_mem_nil
  | pair b _ _ ih => exact List.forall_mem_cons.mpr ⟨rfl, List.forall_mem_cons.mpr ⟨rfl, ih⟩⟩
  | changed node aspects _ ih => exact List.forall_mem_cons.mpr ⟨rfl, ih⟩

/-- **Changes of rows one after another, and then changes in place, are told in pairs.** -/
theorem told_rows {α : Type} {bs : List Bracket} (hb : ∀ b ∈ bs, b ≠ .reset) (l : List α)
    (node : α → NodeRef) (aspects : List Aspect) :
    Told (bs.flatMap Bracket.pair ++ l.map fun a => .changed (node a) aspects) := by
  induction bs with
  | nil =>
    induction l with
    | nil => exact .nil
    | cons a l ih => exact .changed (node a) aspects ih
  | cons b bs ih =>
    exact .pair b (hb b List.mem_cons_self) (ih fun b' hm => hb b' (List.mem_cons_of_mem _ hm))

namespace Index

variable {ix ix' ix'' : Index} {job : FinishedJob}

/-! ## 3. Moves that tell of rows -/

/-- What is told on the way are changes of rows, columns and nodes, each by its pair. -/
def TellsRows (ix ix' : Index) : Prop :=
  ∃ events, ix'.notifier = ix.notifier.tell events ∧ Told events

theorem tellsRows_of_eq (h : ix'.notifier = ix.notifier) : ix.TellsRows ix' :=
  ⟨[], h.trans Notifier.tell_nil.symm, .nil⟩

/-- **Moves one after another tell of rows in pairs.** -/
theorem TellsRows.trans (h : ix.TellsRows ix') (h' : ix'.TellsRows ix'') : ix.TellsRows ix'' := by
  obtain ⟨events, hn, ht⟩ := h
  obtain ⟨more, hn', ht'⟩ := h'
  refine ⟨events ++ more, ?_, ht.append ht'⟩
  rw [hn', hn, Notifier.tell_tell]

theorem tellsRows_detached (ix : Index) (ids : List ItemId) : ix.TellsRows (ix.detached ids) := by
  refine ⟨_, rfl, told_rows (fun b hb => ?_) _ NodeRef.group _⟩
  obtain ⟨i, -, rfl⟩ := List.mem_map.mp hb
  exact fun e => by cases e

theorem tellsRows_merged (ix : Index) (batch : Batch) : ix.TellsRows (ix.merged batch) := by
  refine ⟨_, rfl, ?_⟩
  rw [events_merge]
  refine told_rows (fun b hb => ?_) _ NodeRef.group _
  obtain ⟨rows, rfl⟩ := eq_insert_of_mem_insertion hb
  exact fun e => by cases e

theorem tellsRows_takenUp : ix.TellsRows (ix.takenUp job false) := by
  unfold takenUp
  split
  · exact (ix.tellsRows_detached _).trans (tellsRows_merged _ _)
  · rw [resubmitted_eq]
    exact dispatchSome_induct (P := fun r => ix.TellsRows r.2) (fun _ => tellsRows_of_eq rfl)
      (tellsRows_of_eq rfl)

theorem tellsRows_refreshSummary (ix : Index) : ix.TellsRows ix.refreshSummary := by
  unfold refreshSummary
  split
  · split
    · exact tellsRows_of_eq rfl
    · exact ⟨_, rfl, .changed .summary [.display] .nil⟩
  · exact tellsRows_of_eq rfl

theorem tellsRows_removed (ix : Index) (ids : List ItemId) : ix.TellsRows (ix.removed ids) := by
  have hd : ix.TellsRows ((ix.buried ids).detached ids) := (ix.buried ids).tellsRows_detached ids
  unfold removed
  split
  · exact hd
  · exact hd.trans (tellsRows_refreshSummary _)

theorem tellsRows_hidden (ix : Index) (i : Nat) : ix.TellsRows (ix.hidden i) := by
  unfold hidden
  split
  · exact tellsRows_of_eq rfl
  · rename_i column _
    have hn : ix.TellsRows (ix.narrowed i column) :=
      ⟨_, rfl, .pair (.removeColumns (.single i)) (fun e => by cases e) .nil⟩
    exact hn.trans (tellsRows_refreshSummary _)

theorem tellsRows_summarised (ix : Index) (shown : Bool) : ix.TellsRows (ix.summarised shown) := by
  unfold summarised
  split
  · exact tellsRows_of_eq rfl
  · refine ⟨_, rfl, .pair (summaryChange shown) (fun e => ?_) .nil⟩
    cases shown <;> cases e

theorem tellsRows_decorationReady (ix : Index) (id : ItemId) :
    ix.TellsRows (ix.decorationReady id).2 :=
  ⟨_, Notifier.foldl_changed _ _, told_rows (fun _ hb => absurd hb List.not_mem_nil) _ NodeRef.group _⟩

/-! ## 4. Jobs that are applied -/

/-- **A job that is applied is told of last.** Before it comes the reset that is carried out with it, or
    what there is to tell of rows. -/
theorem notifier_applied (hq : ix.notifier.current = none) (job : FinishedJob) :
    ∃ own, (ix.applied job).notifier = ix.notifier.deliver (own ++ [.batchApplied job.ticket]) ∧
      ((ix.resetting = true ∧ (ix.applied job).resetting = false ∧ own = Bracket.reset.pair) ∨
        ((ix.applied job).resetting = ix.resetting ∧ Told own)) := by
  have hqa : ix.applying.notifier.current = none := hq
  unfold applied
  split
  · exact ⟨[], rfl, Or.inr ⟨rfl, .nil⟩⟩
  · have hafter : ((ix.applying.takenIn job).counted.concluded job).resetting = false :=
      ix.applying.resetting_takenIn job
    have hend {own : List Event} (h : (ix.applying.takenIn job).notifier = ix.notifier.deliver own) :
        ((ix.applying.takenIn job).counted.concluded job).notifier =
          ix.notifier.deliver (own ++ [.batchApplied job.ticket]) := by
      rw [← Notifier.deliver_deliver, ← h]
      rfl
    cases hr : ix.resetting with
    | true => exact ⟨_, hend (notifier_takenIn_of_reset hqa hr), Or.inl ⟨rfl, hafter, rfl⟩⟩
    | false =>
      have htaken : ix.applying.takenIn job = (ix.applying.takenUp job false).refreshSummary :=
        if_neg (ne_true_of_eq_false hr)
      obtain ⟨own, hn, ht⟩ := tellsRows_takenUp.trans
        (ix.applying.takenUp job false).tellsRows_refreshSummary
      rw [← htaken, Notifier.tell_of_quiet hqa] at hn
      exact ⟨own, hend hn, Or.inr ⟨hafter, ht⟩⟩

end Index

end MediaIndex
