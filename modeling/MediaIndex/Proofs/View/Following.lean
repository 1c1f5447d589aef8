import Mathlib.Data.List.Forall2
import MediaIndex.Proofs.Store.Detach
import MediaIndex.Proofs.Telling

/-!
# A view that follows events

A view of the index knows which node stands in each row, as far as it has read the row, and which
columns there are. It follows the events it is told, and an event fits it only when its range is in
bounds and rows are inserted where they may be.

* `View`, `View.follow` -- a view, and what it makes of one event;
* `Stands` -- the slots of a view stand for given rows;
* `follow_removals`, `follow_insertion` -- rows that are told to be removed or inserted.
-/

namespace MediaIndex

/-! ## 1. Views -/

/-- What a view knows: the node in each row, or none for a row it has not read, and the columns. -/
structure View where
  rows : List (Option NodeRef)
  columns : List Column
deriving DecidableEq

/-- The list without the places of the span. -/
def Span.cut {α : Type} (s : Span) (l : List α) : List α := l.take s.first ++ l.drop (s.last + 1)

/-- The list with new places for the span, in which nothing has been read. -/
def Span.opened {α : Type} (s : Span) (l : List (Option α)) : List (Option α) :=
  l.take s.first ++ (List.replicate (s.last + 1 - s.first) none ++ l.drop s.first)

namespace View

/-- A change fits the view: its range is in bounds, and rows come in at the end, but for the summary,
    which comes in as row 0. `fresh` is the view of one who reads everything anew. -/
def admits (v fresh : View) : Bracket → Bool
  | .reset => true
  | .insert s => decide (s.first ≤ s.last) && (s.first == v.rows.length ||
      (s == .single 0 && fresh.rows.head? == some (some .summary) && !v.rows.contains (some .summary)))
  | .remove s => decide (s.first ≤ s.last) && decide (s.last < v.rows.length)
  | .removeColumns s => decide (s.first ≤ s.last) && decide (s.last < v.columns.length)

/-- The view after a change. After a reset it has read everything anew. -/
def changed (v fresh : View) : Bracket → View
  | .reset => fresh
  | .insert s => { v with rows := s.opened v.rows }
  | .remove s => { v with rows := s.cut v.rows }
  | .removeColumns s => { v with columns := s.cut v.columns }

/-- What the view makes of an event; none when the event does not fit it. -/
def follow (v fresh : View) : Event → Option View
  | .begins b => if v.admits fresh b then some v else none
  | .ends b => if v.admits fresh b then some (v.changed fresh b) else none
  | .changed _ _ | .batchApplied _ => some v

/-- What the view makes of events one after another. -/
def followAll (v fresh : View) (events : List Event) : Option View :=
  events.foldlM (fun v event => v.follow fresh event) v

variable {v fresh : View} {b : Bracket} {events more : List Event}

theorem followAll_append : v.followAll fresh (events ++ more) =
    (v.followAll fresh events).bind fun v => v.followAll fresh more := List.foldlM_append

theorem followAll_pair (h : v.admits fresh b = true) :
    v.followAll fresh b.pair = some (v.changed fresh b) := by
  show (v.follow fresh (.begins b)).bind (fun v => (v.follow fresh (.ends b)).bind some) = _
  simp [follow, h]

/-- A view stays as it is when nodes change in place. -/
theorem followAll_map_changed {α : Type} (l : List α) (node : α → NodeRef) (aspects : List Aspect) :
    v.followAll fresh (l.map fun a => .changed (node a) aspects) = some v := by
  induction l with
  | nil => rfl
  | cons a l ih => exact ih

end View

/-! ## 2. Slots that stand for rows -/

/-- The slots stand for the rows: where one has been read, it shows the node of the row. -/
def Stands (slots : List (Option NodeRef)) (refs : List NodeRef) : Prop :=
  List.Forall₂ (fun slot ref => ∀ r, slot = some r → r = ref) slots refs

section Stands

variable {slots slots' : List (Option NodeRef)} {refs refs' : List NodeRef} {ref : NodeRef}

theorem Stands.length_eq (h : Stands slots refs) : slots.length = refs.length :=
    List.Forall₂.length_eq h

theorem Stands.append (h : Stands slots refs) (h' : Stands slots' refs') :
    Stands (slots ++ slots') (refs ++ refs') := List.rel_append h h'

theorem stands_map_some (refs : List NodeRef) : Stands (refs.map some) refs := by
  induction refs with
  | nil => exact .nil
  | cons ref refs ih => exact .cons (fun r e => (Option.some.inj e).symm) ih

theorem stands_replicate (refs : List NodeRef) : Stands (List.replicate refs.length none) refs := by
  induction refs with
  | nil => exact .nil
  | cons ref refs ih => exact .cons (fun r e => by cases e) ih

theorem Stands.getElem? (h : Stands slots refs) {i : Nat} (hi : slots[i]? = some (some ref)) :
    refs[i]? = some ref := by
  induction h generalizing i with
  | nil => simp at hi
  | cons hd ht ih =>
    cases i with
    | zero =>
      have he := hd ref (by simpa using hi)
      simp [he]
    | succ i => simpa using ih (by simpa using hi)

theorem Stands.mem (h : Stands slots refs) (hm : some ref ∈ slots) : ref ∈ refs := by
  obtain ⟨i, hi⟩ := List.mem_iff_getElem?.mp hm
  exact List.mem_iff_getElem?.mpr ⟨i, h.getElem? hi⟩

/-- Slots that stand for two lists of rows fall into those of the one and those of the other. -/
theorem Stands.split (h : Stands slots (refs ++ refs')) :
    ∃ front back, slots = front ++ back ∧ Stands front refs ∧ Stands back refs' := by
  induction refs generalizing slots with
  | nil => exact ⟨[], slots, rfl, .nil, h⟩
  | cons ref refs ih =>
    cases h with
    | cons hd ht =>
      obtain ⟨front, back, rfl, hfront, hback⟩ := ih ht
      exact ⟨_ :: front, back, rfl, .cons hd hfront, hback⟩

theorem stands_iff : Stands slots refs ↔
    slots.length = refs.length ∧
      ∀ (i : Nat) (ref : NodeRef), slots[i]? = some (some ref) → refs[i]? = some ref := by
  constructor
  · intro h
    exact ⟨h.length_eq, fun i ref hi => h.getElem? hi⟩
  · intro h
    obtain ⟨hl, hi⟩ := h
    refine List.forall₂_iff_get.mpr ⟨hl, fun i h₁ h₂ r hr => ?_⟩
    have hs : slots[i]? = some (some r) := by
      rw [List.getElem?_eq_getElem h₁]
      exact congrArg some hr
    have hrefs := hi i r hs
    rw [List.getElem?_eq_getElem h₂] at hrefs
    exact (Option.some.inj hrefs).symm

end Stands

/-! ## 3. Rows that come and go -/

theorem Span.cut_single {α : Type} (l : List α) (i : Nat) : (Span.single i).cut l = l.eraseIdx i :=
  (List.eraseIdx_eq_take_drop_succ l i).symm

/-- A row that is told to be removed is removed. -/
theorem View.followAll_remove {v fresh : View} {i : Nat} (hi : i < v.rows.length) :
    v.followAll fresh (Bracket.remove (.single i)).pair =
      some { v with rows := v.rows.eraseIdx i } := by
  have h : v.admits fresh (.remove (.single i)) = true := by simp [admits, Span.single, hi]
  rw [followAll_pair h, changed, Span.cut_single]

/-- **Rows that are told to be removed one by one, the last first, are the rows of the keys that are
    gone.** The rows before them, `front`, stay as they are. -/
theorem View.follow_removals (fresh : View) (columns : List Column) {gone : GroupKey → Bool}
    {keys : List GroupKey} {front slots : List (Option NodeRef)} {offset i : Nat}
    (hs : Stands slots (keys.map .group)) (hf : front.length = offset + i) :
    ∃ slots', followAll ⟨front ++ slots, columns⟩ fresh
        (((Store.positionsFrom gone i keys).map fun i => Bracket.remove (.single (offset + i))).flatMap
          Bracket.pair) = some ⟨front ++ slots', columns⟩ ∧
      Stands slots' ((keys.filter (!gone ·)).map .group) ∧ slots'.Sublist slots := by
  induction keys generalizing front slots i with
  | nil => exact ⟨slots, rfl, hs, List.Sublist.refl _⟩
  | cons key keys ih =>
    obtain ⟨slot, slots, hslot, htail, rfl⟩ : ∃ slot rest, (∀ r, slot = some r → r = .group key) ∧
        Stands rest (keys.map .group) ∧ slots = slot :: rest := by
      cases hs with
      | cons hd ht => exact ⟨_, _, hd, ht, rfl⟩
    have hfront : (front ++ [slot]).length = offset + (i + 1) := by
      rw [List.length_append, List.length_singleton]
      omega
    obtain ⟨slots', hfollow, hstands, hsub⟩ := ih htail hfront
    rw [List.append_assoc, List.singleton_append, List.append_assoc, List.singleton_append] at hfollow
    rw [Store.positionsFrom, List.map_append, List.flatMap_append, followAll_append, hfollow,
      Option.bind_some]
    cases hg : gone key with
    | true =>
      have hi : offset + i < (front ++ slot :: slots').length := by
        rw [List.length_append, List.length_cons]
        omega
      have herase : (front ++ slot :: slots').eraseIdx (offset + i) = front ++ slots' := by
        rw [← hf, List.eraseIdx_append_of_length_le (Nat.le_refl _), Nat.sub_self,
          List.eraseIdx_cons_zero]
      have hremove : followAll ⟨front ++ slot :: slots', columns⟩ fresh _ = some _ :=
        followAll_remove hi
      refine ⟨slots', ?_, ?_, hsub.cons slot⟩
      · rw [if_pos rfl, List.map_singleton, List.flatMap_singleton, hremove, herase]
      · rw [List.filter_cons_of_neg (by simp [hg])]
        exact hstands
    | false =>
      refine ⟨slot :: slots', rfl, ?_, hsub.cons_cons slot⟩
      rw [List.filter_cons_of_pos (by simp [hg])]
      exact .cons hslot hstands

/-- **Rows that are told to be inserted at the end come in at the end.** -/
theorem View.follow_insertion {v : View} (fresh : View) {count : Nat} (hc : count ≠ 0) :
    v.followAll fresh (Bracket.insert ⟨v.rows.length, v.rows.length + count - 1⟩).pair =
      some { v with rows := v.rows ++ List.replicate count none } := by
  have hle : v.rows.length ≤ v.rows.length + count - 1 := by omega
  have h : v.admits fresh (.insert ⟨v.rows.length, v.rows.length + count - 1⟩) = true := by
    simp [admits, hle]
  have hn : v.rows.length + count - 1 + 1 - v.rows.length = count := by omega
  rw [followAll_pair h, changed, Span.opened, hn, List.take_length, List.drop_length, List.append_nil]

end MediaIndex
