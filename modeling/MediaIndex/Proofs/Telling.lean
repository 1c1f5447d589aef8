import MediaIndex.Notifier

/-!
# What the notifier hands out

Between operations no bracket is open, and inside an operation none but that of a reset. Under this
condition the notifier refuses nothing, and every change it is told of comes to handing out a list of
events, or none while a reset is open.

* `Notifier.tell` -- hands out events unless a reset is open;
* `Notifier.announceAll_eq`, `Notifier.membersChanged_eq` -- changes told are events handed out.
-/

namespace MediaIndex

/-! ## 1. Handing out events -/

/-- The two events that tell of a change. -/
def Bracket.pair (b : Bracket) : List Event := [.begins b, .ends b]

namespace Notifier

/-- No bracket is open, or that of a reset. -/
def Steady (n : Notifier) : Prop := n.current = none ∨ n.current = some .reset

/-- Hands out events; while a reset is open, none. -/
def tell (n : Notifier) (events : List Event) : Notifier := if n.inReset then n else n.deliver events

/-- The notifier with a bracket opened. -/
def opened (n : Notifier) (b : Bracket) : Notifier := { n with current := some b }.deliver [.begins b]

/-- The notifier with its bracket closed. -/
def closed (n : Notifier) (b : Bracket) : Notifier := { n with current := none }.deliver [.ends b]

variable {n : Notifier} {b : Bracket} {events more : List Event}

theorem deliver_nil : n.deliver [] = n := by
  have h : n.inboxes.map (· ++ []) = n.inboxes := by simp
  rw [deliver, h]

theorem deliver_deliver : (n.deliver events).deliver more = n.deliver (events ++ more) := by
  have h : (n.inboxes.map (· ++ events)).map (· ++ more) = n.inboxes.map (· ++ (events ++ more)) := by
    simp
  exact congrArg (mk · n.current) h

theorem inReset_deliver : (n.deliver events).inReset = n.inReset := rfl

theorem tell_of_quiet (h : n.current = none) : n.tell events = n.deliver events := by
  rw [tell, inReset, h]
  rfl

theorem tell_of_reset (h : n.current = some .reset) : n.tell events = n := by
  rw [tell, inReset, h]
  rfl

theorem tell_nil : n.tell [] = n := by
  rw [tell, deliver_nil, ite_self]

theorem tell_tell : (n.tell events).tell more = n.tell (events ++ more) := by
  unfold tell
  cases h : n.inReset with
  | true => rw [if_pos rfl, h, if_pos rfl, if_pos rfl]
  | false =>
    rw [if_neg Bool.false_ne_true, inReset_deliver, h, if_neg Bool.false_ne_true,
      if_neg Bool.false_ne_true, deliver_deliver]

theorem current_tell : (n.tell events).current = n.current := by
  unfold tell
  split <;> rfl

theorem closed_opened (h : n.current = none) : (n.opened b).closed b = n.tell b.pair := by
  obtain ⟨inboxes, current⟩ := n
  cases h
  rw [tell_of_quiet rfl]
  exact deliver_deliver (n := ⟨inboxes, none⟩)

theorem Steady.tell (h : n.Steady) : (n.tell events).Steady := by
  rw [Steady, current_tell]
  exact h

/-! ## 2. Changes told -/

theorem openBracket_eq (h : n.current = none) : n.openBracket b = .ok (n.opened b) := by
  rw [openBracket, h]
  rfl

theorem closeBracket_eq (h : n.current = some b) : n.closeBracket b = .ok (n.closed b) := by
  rw [closeBracket, if_pos h]
  rfl

theorem announce_eq (h : n.Steady) (b : Bracket) : n.announce b = .ok (n.tell b.pair) := by
  rcases h with h | h
  · have hr : n.inReset = false := by rw [inReset, h]; rfl
    rw [announce, openUnlessReset, hr, if_neg Bool.false_ne_true, openBracket_eq h]
    show (n.opened b).closeBracket b = _
    rw [closeBracket_eq rfl, closed_opened h]
  · have hr : n.inReset = true := by rw [inReset, h]; rfl
    rw [announce, openUnlessReset, hr, tell_of_reset h]
    rfl

/-- **Changes of rows told one after another are their pairs of events.** -/
theorem announceAll_eq (h : n.Steady) (bs : List Bracket) :
    n.announceAll bs = .ok (n.tell (bs.flatMap Bracket.pair)) := by
  induction bs generalizing n with
  | nil =>
    rw [List.flatMap_nil, tell_nil]
    rfl
  | cons b bs ih =>
    have hs : (n.tell b.pair).announceAll bs = _ := ih h.tell
    rw [announceAll, List.foldlM_cons, announce_eq h, List.flatMap_cons, ← tell_tell, ← hs]
    rfl

theorem changed_eq (node : NodeRef) (aspects : List Aspect) :
    n.changed node aspects = n.tell [.changed node aspects] := rfl

theorem foldl_changed (keys : List GroupKey) (aspects : List Aspect) :
    keys.foldl (fun n key => n.changed (.group key) aspects) n =
      n.tell (keys.map fun key => .changed (.group key) aspects) := by
  induction keys generalizing n with
  | nil => rw [List.map_nil, tell_nil, List.foldl_nil]
  | cons key keys ih => rw [List.foldl_cons, ih, changed_eq, tell_tell]; rfl

/-- Changed members told one after another are one event for each node. -/
theorem membersChanged_eq (keys : List GroupKey) : n.membersChanged keys =
    n.tell (keys.map fun key => .changed (.group key) [.members]) := foldl_changed keys _

end Notifier

end MediaIndex
