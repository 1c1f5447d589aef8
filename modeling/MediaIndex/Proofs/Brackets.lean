import Mathlib.Data.List.Basic
import MediaIndex.Proofs.Telling

/-!
# Brackets against any caller

The notifier may be called in any order and with any ranges. A call that would break the pairs is refused and
leaves the notifier as it was, so that a bracket may be left open, and the calls go on. Whatever is called,
what is told comes in pairs, and while a reset is open finished jobs alone are told of.

* `Notifier.Call`, `call`, `after` -- the calls, their answers, and the notifier after them;
* `Notifier.told`, `stream` -- what a call tells, and calls one after another;
* `call_opens_of_none`, `call_opens_of_some`, `call_closes` -- what a call on brackets can do;
* `Tellable`, `after_cases` -- a call tells nothing, or one event that may be told then;
* `Disciplined`, `Disciplined.concat`, `Disciplined.after` -- the discipline of what is told, kept by each call;
* `discipline_kept` -- it is kept by all calls, and every observer is handed the same.
-/

namespace MediaIndex

/-- The change is one of rows. -/
def Bracket.ofRows : Bracket → Bool
  | insert _ | remove _ => true
  | reset | removeColumns _ => false

/-- The event begins or ends a change. -/
def Event.isEdge : Event → Bool
  | begins _ | ends _ => true
  | changed _ _ | batchApplied _ => false

namespace Notifier

/-! ## 1. Calls -/

/-- What a notifier can be called for. -/
inductive Call where
  | subscribe
  | opens (b : Bracket)
  | closes (b : Bracket)
  | changed (node : NodeRef) (aspects : List Aspect)
  | batchApplied (ticket : Ticket)

/-- A call by the operations of the notifier: its answer, if it has one, and the notifier after it. The
    beginning of a change of rows is answered by whether it is told. -/
def call (n : Notifier) : Call → Except BracketFault (Option Bool × Notifier)
  | .subscribe => .ok (none, n.subscribe)
  | .opens b =>
    if b.ofRows then (n.openUnlessReset b).map fun (opened, n') => (some opened, n')
    else (n.openBracket b).map (none, ·)
  | .closes b => (n.closeBracket b).map (none, ·)
  | .changed node aspects => .ok (none, n.changed node aspects)
  | .batchApplied ticket => .ok (none, n.batchApplied ticket)

/-- The notifier after a call. One that is refused leaves it as it was. -/
def after (n : Notifier) (c : Call) : Notifier :=
  match n.call c with
  | .ok (_, n') => n'
  | .error _ => n

/-- The notifier after calls one after another. -/
def afterAll (n : Notifier) (calls : List Call) : Notifier := calls.foldl after n

/-- What a call tells: a beginning when nothing is open, an end of what is open, a change in place unless a
    reset is open, and every finished job. -/
def told (n : Notifier) : Call → List Event
  | .subscribe => []
  | .opens b => if n.current = none then [.begins b] else []
  | .closes b => if n.current = some b then [.ends b] else []
  | .changed node aspects => if n.current = some .reset then [] else [.changed node aspects]
  | .batchApplied ticket => [.batchApplied ticket]

/-- What calls one after another tell. -/
def stream (n : Notifier) : List Call → List Event
  | [] => []
  | c :: calls => n.told c ++ (n.after c).stream calls

variable {n n' : Notifier} {b current : Bracket}

/-! ## 2. What a call does -/

theorem inReset_iff : n.inReset = true ↔ n.current = some .reset := beq_iff_eq

/-- When nothing is open every change can begin, and is told. -/
theorem call_opens_of_none (h : n.current = none) :
    n.call (.opens b) = .ok (if b.ofRows then some true else none, n.opened b) := by
  have hr : n.inReset = false := by rw [inReset, h]; rfl
  unfold call
  dsimp only
  split
  · rw [openUnlessReset, hr, if_neg Bool.false_ne_true, openBracket_eq h]
    rfl
  · rw [openBracket_eq h]
    rfl

/-- When a change is open no other can begin: inside a reset one of rows is passed over, and every other one
    is refused. -/
theorem call_opens_of_some (h : n.current = some current) : n.call (.opens b) =
    if b.ofRows ∧ current = .reset then .ok (some false, n) else .error (.stillOpen b current) := by
  have hr : n.inReset = true ↔ current = .reset := by rw [inReset_iff, h, Option.some.injEq]
  have hopen : n.openBracket b = .error (.stillOpen b current) := by rw [openBracket, h]
  unfold call
  dsimp only
  cases b.ofRows with
  | false =>
    rw [if_neg Bool.false_ne_true, if_neg fun e => Bool.false_ne_true e.1, hopen]
    rfl
  | true =>
    rw [if_pos rfl, openUnlessReset]
    by_cases hreset : current = .reset
    · rw [if_pos (hr.mpr hreset), if_pos ⟨rfl, hreset⟩]
      rfl
    · rw [if_neg fun e => hreset (hr.mp e), if_neg fun e => hreset e.2, hopen]
      rfl

/-- What is open can end, and nothing else. -/
theorem call_closes (n : Notifier) (b : Bracket) : n.call (.closes b) =
    if n.current = some b then .ok (none, n.closed b) else .error .notOpen := by
  unfold call closeBracket
  dsimp only
  split
  · rfl
  · rfl

/-- **The beginning of a change is answered with no when a reset is open and it is one of rows**, and then the
    notifier is left as it was. -/
theorem answered_false_iff : n.call (.opens b) = .ok (some false, n') ↔
    b.ofRows = true ∧ n.current = some .reset ∧ n' = n := by
  cases hc : n.current with
  | none =>
    rw [call_opens_of_none hc]
    cases b.ofRows <;> simp
  | some current =>
    rw [call_opens_of_some hc]
    by_cases hreset : b.ofRows = true ∧ current = .reset
    · rw [if_pos hreset]
      obtain ⟨hrows, rfl⟩ := hreset
      simp [hrows, eq_comm]
    · rw [if_neg hreset]
      simp only [reduceCtorEq, false_iff]
      intro h
      exact hreset ⟨h.1, Option.some.inj h.2.1⟩

/-- An event may be told with `current` open, and leaves another change open or none. -/
inductive Tellable : Option Bracket → Event → Option Bracket → Prop
  | begins (b : Bracket) : Tellable none (.begins b) (some b)
  | ends (b : Bracket) : Tellable (some b) (.ends b) none
  | changed {current : Option Bracket} (h : current ≠ some .reset) (node : NodeRef) (aspects : List Aspect) :
      Tellable current (.changed node aspects) current
  | batchApplied (current : Option Bracket) (ticket : Ticket) :
      Tellable current (.batchApplied ticket) current

/-- **A call tells nothing and changes nothing but for a new observer, or it tells one event** that may be told
    then. -/
theorem after_cases (n : Notifier) (c : Call) :
    (n.told c = [] ∧ ∃ joined, n.after c = { n with inboxes := n.inboxes ++ joined }) ∨
      ∃ e current, n.told c = [e] ∧ Tellable n.current e current ∧ n.after c = { n with current }.deliver [e] := by
  have silent (h : n.after c = n) : ∃ joined, n.after c = { n with inboxes := n.inboxes ++ joined } :=
    ⟨[], by rw [h, List.append_nil]⟩
  cases c with
  | subscribe => exact Or.inl ⟨rfl, [[]], rfl⟩
  | opens b =>
    by_cases hc : n.current = none
    · refine Or.inr ⟨.begins b, some b, if_pos hc, hc ▸ .begins b, ?_⟩
      rw [after, call_opens_of_none hc]
      rfl
    · refine Or.inl ⟨if_neg hc, silent ?_⟩
      obtain ⟨current, hc⟩ := Option.ne_none_iff_exists'.mp hc
      rw [after, call_opens_of_some hc]
      split
      · rename_i e
        split at e <;> cases e
        rfl
      · rfl
  | closes b =>
    by_cases hc : n.current = some b
    · refine Or.inr ⟨.ends b, none, if_pos hc, hc ▸ .ends b, ?_⟩
      rw [after, call_closes, if_pos hc]
      rfl
    · refine Or.inl ⟨if_neg hc, silent ?_⟩
      rw [after, call_closes, if_neg hc]
  | changed node aspects =>
    by_cases hc : n.current = some .reset
    · exact Or.inl ⟨if_pos hc, silent (if_pos (inReset_iff.mpr hc))⟩
    · exact Or.inr ⟨.changed node aspects, n.current, if_neg hc, .changed hc node aspects,
        if_neg fun e => hc (inReset_iff.mp e)⟩
  | batchApplied ticket => exact Or.inr ⟨.batchApplied ticket, n.current, rfl, .batchApplied _ ticket, rfl⟩

/-! ## 3. Observers -/

/-- Observers that subscribe have been handed nothing. -/
theorem afterAll_subscribe (n : Notifier) (observers : Nat) :
    n.afterAll (List.replicate observers .subscribe) =
      { n with inboxes := n.inboxes ++ List.replicate observers [] } := by
  induction observers generalizing n with
  | zero =>
    rw [List.replicate_zero, List.replicate_zero, List.append_nil]
    rfl
  | succ observers ih =>
    have hfirst : n.afterAll (List.replicate (observers + 1) .subscribe) =
        n.subscribe.afterAll (List.replicate observers .subscribe) := rfl
    rw [hfirst, ih, List.replicate_succ, List.append_cons]
    rfl

/-- **Every observer is handed what a call tells.** -/
theorem getElem?_inboxes_after {i : Nat} {inbox : List Event} (h : n.inboxes[i]? = some inbox) (c : Call) :
    (n.after c).inboxes[i]? = some (inbox ++ n.told c) := by
  rcases n.after_cases c with ⟨ht, joined, ha⟩ | ⟨e, current, ht, -, ha⟩
  · obtain ⟨hlt, -⟩ := List.getElem?_eq_some_iff.mp h
    rw [ha, ht, List.append_nil]
    show (n.inboxes ++ joined)[i]? = some inbox
    rw [List.getElem?_append_left hlt, h]
  · rw [ha, ht]
    show (n.inboxes.map (· ++ [e]))[i]? = some (inbox ++ [e])
    rw [List.getElem?_map, h]
    rfl

theorem getElem?_inboxes_afterAll {i : Nat} {inbox : List Event} (h : n.inboxes[i]? = some inbox)
    (calls : List Call) : (n.afterAll calls).inboxes[i]? = some (inbox ++ n.stream calls) := by
  induction calls generalizing n inbox with
  | nil =>
    rw [stream, List.append_nil]
    exact h
  | cons c calls ih =>
    rw [stream, ← List.append_assoc]
    exact ih (getElem?_inboxes_after h c)

end Notifier

/-! ## 4. Discipline -/

/-- The discipline of what has been told up to now, when `current` is open. -/
structure Disciplined (events : List Event) (current : Option Bracket) : Prop where
  /-- Beginnings and ends alternate, each end is that of the beginning before it, and the last beginning
      has no end exactly when its change is open. -/
  alternates : ∃ closed : List Bracket,
    events.filter Event.isEdge = closed.flatMap Bracket.pair ++ current.toList.map .begins
  /-- From the beginning of a reset up to its end nothing is told but of finished jobs. -/
  apart : ∀ front inside back, events = front ++ .begins .reset :: (inside ++ back) →
    .ends .reset ∉ inside → ∀ e ∈ inside, ∃ ticket, e = .batchApplied ticket

section Discipline

variable {events front inside : List Event} {current : Option Bracket}

theorem disciplined_nil : Disciplined [] none where
  alternates := ⟨[], rfl⟩
  apart front _ _ h := by simp at h

/-- A reset after whose beginning only finished jobs have been told of is open. -/
theorem Disciplined.current_eq_reset (h : Disciplined (front ++ .begins .reset :: inside) current)
    (hi : ∀ e ∈ inside, ∃ ticket, e = .batchApplied ticket) : current = some .reset := by
  obtain ⟨closed, hc⟩ := h.alternates
  have hjobs : inside.filter Event.isEdge = [] := by
    refine List.filter_eq_nil_iff.mpr fun e he => ?_
    obtain ⟨ticket, rfl⟩ := hi e he
    exact Bool.false_ne_true
  rw [List.filter_append, List.filter_cons_of_pos rfl, hjobs] at hc
  have hlast := congrArg List.getLast? hc
  rw [List.getLast?_concat] at hlast
  cases current with
  | some b =>
    have hb : some (Event.begins .reset) = some (.begins b) := hlast.trans List.getLast?_concat
    cases hb
    rfl
  | none =>
    -- what has ended is told last by its end
    rcases closed.eq_nil_or_concat' with rfl | ⟨closed, b, rfl⟩
    · cases hlast
    · rw [List.flatMap_append] at hlast
      simp [Bracket.pair] at hlast

/-- With a reset open only the end of it and finished jobs may be told of. -/
theorem Notifier.Tellable.eq_batchApplied {e : Event} (h : Tellable (some .reset) e current)
    (hne : e ≠ .ends .reset) : ∃ ticket, e = .batchApplied ticket := by
  cases h with
  | ends => exact absurd rfl hne
  | changed hc => exact absurd rfl hc
  | batchApplied _ ticket => exact ⟨ticket, rfl⟩

/-- One more event that may be told leaves resets apart. -/
theorem Disciplined.apart_concat (h : Disciplined events current) {e : Event} {current' : Option Bracket}
    (he : Notifier.Tellable current e current') (front inside back : List Event)
    (heq : events ++ [e] = front ++ .begins .reset :: (inside ++ back)) (hno : .ends .reset ∉ inside) :
    ∀ e' ∈ inside, ∃ ticket, e' = .batchApplied ticket := by
  rcases back.eq_nil_or_concat' with rfl | ⟨back, last, rfl⟩
  · rcases inside.eq_nil_or_concat' with rfl | ⟨inside, last, rfl⟩
    · exact fun _ hm => absurd hm List.not_mem_nil
    · -- the event itself stands inside: the reset that was open before it still is
      have hsplit : events ++ [e] = (front ++ .begins .reset :: inside) ++ [last] := by
        rw [heq]
        simp
      obtain ⟨rfl, hlast⟩ := List.append_inj' hsplit rfl
      cases hlast
      rw [List.mem_append, not_or, List.mem_singleton] at hno
      have hinside := h.apart front inside [] (by rw [List.append_nil]) hno.1
      rw [h.current_eq_reset hinside] at he
      have hend := he.eq_batchApplied fun e' => hno.2 e'.symm
      intro e' hm
      rcases List.mem_append.mp hm with hm | hm
      · exact hinside e' hm
      · rw [List.mem_singleton.mp hm]
        exact hend
  · have hsplit : events ++ [e] = (front ++ .begins .reset :: (inside ++ back)) ++ [last] := by
      rw [heq]
      simp
    exact h.apart front inside back (List.append_inj' hsplit rfl).1 hno

/-- **One more event that may be told keeps the discipline.** -/
theorem Disciplined.concat (h : Disciplined events current) {e : Event} {current' : Option Bracket}
    (he : Notifier.Tellable current e current') : Disciplined (events ++ [e]) current' where
  alternates := by
    obtain ⟨closed, hc⟩ := h.alternates
    cases he with
    | begins b =>
      refine ⟨closed, ?_⟩
      rw [List.filter_append, hc, List.append_assoc]
      rfl
    | ends b =>
      refine ⟨closed ++ [b], ?_⟩
      rw [List.filter_append, hc, List.flatMap_append, List.append_assoc, List.append_assoc]
      rfl
    | changed _ node aspects =>
      refine ⟨closed, ?_⟩
      rw [List.filter_append, hc]
      exact List.append_nil _
    | batchApplied _ ticket =>
      refine ⟨closed, ?_⟩
      rw [List.filter_append, hc]
      exact List.append_nil _
  apart := h.apart_concat he

/-- **Every call keeps the discipline**, also one that is refused. -/
theorem Disciplined.after {n : Notifier} (h : Disciplined events n.current) (c : Notifier.Call) :
    Disciplined (events ++ n.told c) (n.after c).current := by
  rcases n.after_cases c with ⟨ht, joined, ha⟩ | ⟨e, current, ht, he, ha⟩
  · rw [ha, ht, List.append_nil]
    exact h
  · rw [ha, ht]
    exact h.concat he

theorem Disciplined.afterAll {n : Notifier} (h : Disciplined events n.current) (calls : List Notifier.Call) :
    Disciplined (events ++ n.stream calls) (n.afterAll calls).current := by
  induction calls generalizing n events with
  | nil => rwa [Notifier.stream, List.append_nil]
  | cons c calls ih =>
    rw [Notifier.stream, ← List.append_assoc]
    exact ih (h.after c)

end Discipline

namespace Notifier

/-- **The notifier keeps the discipline against any caller.** Any number of observers subscribe, and then calls
    follow in any order and with any ranges, where a refused call changes nothing. What the calls tell is the
    stream that every one of these observers is handed: in it beginnings and ends alternate and match, and
    inside a reset finished jobs alone are told of. The beginning of a change is answered with no exactly when
    it is one of rows and a reset is open, and then nothing is told. Of what is told later all observers
    there are then, late ones too, are handed the same. -/
theorem discipline_kept (observers : Nat) (calls : List Call) :
    ∃ start n, ({} : Notifier).afterAll (List.replicate observers .subscribe) = start ∧
      start.afterAll calls = n ∧
      (∀ i < observers, n.inboxes[i]? = some (start.stream calls)) ∧
      Disciplined (start.stream calls) n.current ∧
      (∀ b n', n.call (.opens b) = .ok (some false, n') ↔
        b.ofRows = true ∧ n.current = some .reset ∧ n' = n) ∧
      ∀ (later : List Call) (i : Nat) (inbox : List Event), n.inboxes[i]? = some inbox →
        (n.afterAll later).inboxes[i]? = some (inbox ++ n.stream later) := by
  have hstart := afterAll_subscribe {} observers
  refine ⟨_, _, rfl, rfl, fun i hi => ?_, ?_, fun b n' => answered_false_iff,
    fun later i inbox h => getElem?_inboxes_afterAll h later⟩
  · have hempty : (({} : Notifier).afterAll (List.replicate observers .subscribe)).inboxes[i]? = some [] := by
      rw [hstart]
      exact List.getElem?_replicate_of_lt hi
    exact getElem?_inboxes_afterAll hempty calls
  · have hnil : Disciplined [] (({} : Notifier).afterAll (List.replicate observers .subscribe)).current := by
      rw [hstart]
      exact disciplined_nil
    exact hnil.afterAll calls

/-- Inside a reset no row, no column and no end of anything else is told. -/
example : ({} : Notifier).stream [.opens .reset, .opens (.insert ⟨0, 3⟩), .opens (.removeColumns ⟨1, 1⟩),
    .changed .summary [.display], .closes (.remove ⟨0, 0⟩), .closes .reset] = Bracket.reset.pair := rfl

end Notifier

end MediaIndex
