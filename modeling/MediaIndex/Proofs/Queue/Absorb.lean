import Mathlib.Data.List.Nodup
import MediaIndex.Worker

/-!
# Requests that join a job

A job that takes newer items in keeps one copy of every item, and of two copies the newer one.

* `copyOf` -- the copy of an item among copies of different items;
* `replaceLast?_eq_some`, `replaceLast?_eq_none_iff` -- what replacing the last copy of an item does;
* `mem_absorb` -- the items of a job that has taken newer ones in;
* `mem_idsOf_absorb`, `nodup_idsOf_absorb` -- which items it brings, each once;
* `lastCopyOf`, `lastCopyOf_absorb` -- the last copy of an item, in any list and in such a job.
-/

namespace MediaIndex

/-! ## 1. The items that copies are of -/

/-- The items that some copies are of, in their order. -/
def idsOf (items : List Item) : List ItemId := items.map (·.id)

section Ids

variable {items more : List Item} {item : Item} {id : ItemId}

theorem mem_idsOf : id ∈ idsOf items ↔ ∃ item ∈ items, item.id = id := List.mem_map

theorem mem_idsOf_of_mem (h : item ∈ items) : item.id ∈ idsOf items := List.mem_map_of_mem h

theorem idsOf_append : idsOf (items ++ more) = idsOf items ++ idsOf more := List.map_append

theorem idsOf_cons : idsOf (item :: items) = item.id :: idsOf items := rfl

theorem mem_idsOf_cons : id ∈ idsOf (item :: items) ↔ id = item.id ∨ id ∈ idsOf items := List.mem_cons

theorem nodup_idsOf_cons :
    (idsOf (item :: items)).Nodup ↔ item.id ∉ idsOf items ∧ (idsOf items).Nodup :=
  List.nodup_cons

/-- Of copies of different items, only one is of a given item. -/
theorem eq_of_id_eq (hd : (idsOf items).Nodup) {a b : Item} (ha : a ∈ items) (hb : b ∈ items)
    (e : a.id = b.id) : a = b := List.inj_on_of_nodup_map hd ha hb e

/-- Of an item that is brought once there is one copy. -/
theorem eq_of_count_le_one (h : (idsOf items).count id ≤ 1) {a b : Item} (ha : a ∈ items) (hb : b ∈ items)
    (hia : a.id = id) (hib : b.id = id) : a = b := by
  have hcount : (idsOf items).count id = (items.filter (·.id == id)).length := by
    rw [idsOf, List.count, List.countP_map, List.countP_eq_length_filter]
    rfl
  have hlen : (items.filter (·.id == id)).length ≤ 1 := hcount ▸ h
  have hma : a ∈ items.filter (·.id == id) := List.mem_filter.mpr ⟨ha, beq_iff_eq.mpr hia⟩
  have hmb : b ∈ items.filter (·.id == id) := List.mem_filter.mpr ⟨hb, beq_iff_eq.mpr hib⟩
  obtain ⟨c, hc⟩ := List.length_eq_one_iff.mp (Nat.le_antisymm hlen (List.length_pos_of_mem hma))
  rw [hc] at hma hmb
  rw [List.mem_singleton.mp hma, List.mem_singleton.mp hmb]
theorem nodup_idsOf_filter (h : (idsOf items).Nodup) (p : Item → Bool) :
    (idsOf (items.filter p)).Nodup :=
  h.sublist (List.filter_sublist.map _)

theorem mem_idsOf_filter (p : ItemId → Bool) :
    id ∈ idsOf (items.filter fun item => p item.id) ↔ id ∈ idsOf items ∧ p id = true := by
  simp only [mem_idsOf, List.mem_filter]
  constructor
  · intro h
    obtain ⟨item, ⟨hm, hp⟩, rfl⟩ := h
    exact ⟨⟨item, hm, rfl⟩, hp⟩
  · intro h
    obtain ⟨⟨item, hm, rfl⟩, hp⟩ := h
    exact ⟨item, ⟨hm, hp⟩, rfl⟩

theorem not_mem_idsOf_sublist {part : List Item} (h : id ∉ idsOf items) (hp : part.Sublist items) :
    id ∉ idsOf part := fun hm => h ((hp.map _).subset hm)

/-- The copy of an item in a list that has one of each. -/
def copyOf (items : List Item) (id : ItemId) : Option Item := items.find? (·.id == id)

theorem id_of_copyOf (h : copyOf items id = some item) : item.id = id := by
  simpa using List.find?_some h

theorem copyOf_eq_some_iff (hd : (idsOf items).Nodup) :
    copyOf items id = some item ↔ item ∈ items ∧ item.id = id := by
  constructor
  · intro h
    exact ⟨List.mem_of_find?_eq_some h, id_of_copyOf h⟩
  · intro hx
    obtain ⟨hm, rfl⟩ := hx
    have hf : (copyOf items item.id).isSome = true :=
      List.find?_isSome.mpr ⟨item, hm, beq_self_eq_true item.id⟩
    obtain ⟨found, hf⟩ := Option.isSome_iff_exists.mp hf
    rw [hf, eq_of_id_eq hd (List.mem_of_find?_eq_some hf) hm (id_of_copyOf hf)]

end Ids

/-! ## 2. One newer item -/

section One

variable {items items' : List Item} {item other : Item} {id : ItemId}

theorem replaceLast?_eq_none_iff : replaceLast? item items = none ↔ item.id ∉ idsOf items := by
  induction items with
  | nil => exact iff_of_true rfl List.not_mem_nil
  | cons first rest ih =>
    rw [replaceLast?, mem_idsOf_cons, not_or, ← ih]
    cases replaceLast? item rest with
    | some rest' => exact ⟨fun h => (by cases h), fun h => (by cases h.2)⟩
    | none =>
      dsimp only
      split
      · rename_i e
        exact ⟨fun h => (by cases h), fun h => absurd e.symm h.1⟩
      · rename_i e
        exact iff_of_true rfl ⟨fun h => e h.symm, rfl⟩

/-- The last copy of the item has been replaced. -/
theorem replaceLast?_eq_some (h : replaceLast? item items = some items') :
    ∃ front other back, items = front ++ other :: back ∧ other.id = item.id ∧
      item.id ∉ idsOf back ∧ items' = front ++ item :: back := by
  induction items generalizing items' with
  | nil => cases h
  | cons first rest ih =>
    rw [replaceLast?] at h
    cases hr : replaceLast? item rest with
    | some rest' =>
      rw [hr] at h
      cases h
      obtain ⟨front, other, back, rfl, e, hb, rfl⟩ := ih hr
      exact ⟨first :: front, other, back, rfl, e, hb, rfl⟩
    | none =>
      rw [hr] at h
      dsimp only at h
      split at h
      · rename_i e
        cases h
        exact ⟨[], first, rest, rfl, e, replaceLast?_eq_none_iff.mp hr, rfl⟩
      · cases h

/-- The newer copy takes the place of an older one or stands at the end. -/
theorem absorbItem_cases (items : List Item) (item : Item) :
    (item.id ∉ idsOf items ∧ absorbItem items item = items ++ [item]) ∨
      ∃ front other back, items = front ++ other :: back ∧ other.id = item.id ∧
        absorbItem items item = front ++ item :: back := by
  unfold absorbItem
  cases h : replaceLast? item items with
  | none => exact Or.inl ⟨replaceLast?_eq_none_iff.mp h, rfl⟩
  | some items' =>
    obtain ⟨front, other, back, e, hid, -, rfl⟩ := replaceLast?_eq_some h
    exact Or.inr ⟨front, other, back, e, hid, rfl⟩

theorem mem_of_mem_absorbItem (h : other ∈ absorbItem items item) : other = item ∨ other ∈ items := by
  rcases absorbItem_cases items item with ⟨-, e⟩ | ⟨front, old, back, rfl, -, e⟩
  · rw [e, List.mem_append, List.mem_singleton] at h
    exact h.symm
  · rw [e, List.mem_append, List.mem_cons] at h
    rw [List.mem_append, List.mem_cons]
    rcases h with h | h | h
    · exact Or.inr (Or.inl h)
    · exact Or.inl h
    · exact Or.inr (Or.inr (Or.inr h))

theorem mem_idsOf_absorbItem :
    id ∈ idsOf (absorbItem items item) ↔ id ∈ idsOf items ∨ id = item.id := by
  rcases absorbItem_cases items item with ⟨-, e⟩ | ⟨front, old, back, rfl, hid, e⟩
  · rw [e, idsOf_append, List.mem_append]
    exact or_congr_right List.mem_singleton
  · rw [e, idsOf_append, idsOf_append, List.mem_append, List.mem_append, mem_idsOf_cons,
      mem_idsOf_cons, hid]
    refine ⟨Or.inl, fun h => h.elim (fun h => h) fun h => Or.inr (Or.inl h)⟩

theorem nodup_idsOf_absorbItem (h : (idsOf items).Nodup) : (idsOf (absorbItem items item)).Nodup := by
  rcases absorbItem_cases items item with ⟨hn, e⟩ | ⟨front, old, back, rfl, hid, e⟩
  · rw [e, idsOf_append]
    refine List.nodup_append.mpr ⟨h, List.nodup_singleton _, fun a ha b hb e => hn ?_⟩
    have hb : b = item.id := List.mem_singleton.mp hb
    rwa [← hb, ← e]
  · rw [idsOf_append, idsOf_cons, hid] at h
    rwa [e, idsOf_append, idsOf_cons]

/-- Of a job that has one copy of every item, the newer copy replaces the older. -/
theorem mem_absorbItem (h : (idsOf items).Nodup) :
    other ∈ absorbItem items item ↔ other = item ∨ (other ∈ items ∧ other.id ≠ item.id) := by
  rcases absorbItem_cases items item with ⟨hn, e⟩ | ⟨front, old, back, rfl, hid, e⟩
  · rw [e, List.mem_append, List.mem_singleton, or_comm]
    refine or_congr_right ⟨fun hm => ⟨hm, fun e => hn (e ▸ mem_idsOf_of_mem hm)⟩, fun hm => hm.1⟩
  · -- the older copy stood apart from all others
    have hother : ∀ x ∈ front ++ back, x.id ≠ item.id := by
      have hp : (idsOf (front ++ old :: back)).Perm (idsOf (old :: (front ++ back))) :=
        List.perm_middle.map _
      intro x hx e
      have hn := (nodup_idsOf_cons.mp (hp.nodup_iff.mp h)).1
      exact hn (hid ▸ e ▸ mem_idsOf_of_mem hx)
    rw [e]
    simp only [List.mem_append, List.mem_cons] at hother ⊢
    constructor
    · intro hw
      rcases hw with hf | rfl | hb
      · exact Or.inr ⟨Or.inl hf, hother _ (Or.inl hf)⟩
      · exact Or.inl rfl
      · exact Or.inr ⟨Or.inr (Or.inr hb), hother _ (Or.inr hb)⟩
    · intro hw
      rcases hw with rfl | ⟨hf | rfl | hb, hne⟩
      · exact Or.inr (Or.inl rfl)
      · exact Or.inl hf
      · exact absurd hid hne
      · exact Or.inr (Or.inr hb)

end One

/-! ## 3. Newer items one after another -/

section Many

variable {items newer : List Item} {item : Item} {id : ItemId}

theorem mem_of_mem_absorb (h : item ∈ absorb items newer) : item ∈ newer ∨ item ∈ items := by
  induction newer generalizing items with
  | nil => exact Or.inr h
  | cons first rest ih =>
    rw [absorb, List.foldl_cons] at h
    rcases ih h with h | h
    · exact Or.inl (List.mem_cons_of_mem _ h)
    · rcases mem_of_mem_absorbItem h with rfl | h
      · exact Or.inl List.mem_cons_self
      · exact Or.inr h

/-- A job brings the items it brought and the newer ones. -/
theorem mem_idsOf_absorb : id ∈ idsOf (absorb items newer) ↔ id ∈ idsOf items ∨ id ∈ idsOf newer := by
  induction newer generalizing items with
  | nil => exact ⟨Or.inl, fun h => h.elim (fun h => h) fun h => absurd h List.not_mem_nil⟩
  | cons first rest ih =>
    rw [absorb, List.foldl_cons]
    refine Iff.trans ih ?_
    rw [mem_idsOf_absorbItem, mem_idsOf_cons, or_assoc]

theorem nodup_idsOf_absorb (h : (idsOf items).Nodup) : (idsOf (absorb items newer)).Nodup := by
  induction newer generalizing items with
  | nil => exact h
  | cons first rest ih => exact ih (nodup_idsOf_absorbItem h)

/-- The copies of an item stay when newer copies of other items are taken in. -/
theorem mem_absorb_of_not_mem (hn : item.id ∉ idsOf newer) :
    item ∈ absorb items newer ↔ item ∈ items := by
  induction newer generalizing items with
  | nil => exact Iff.rfl
  | cons first rest ih =>
    rw [mem_idsOf_cons, not_or] at hn
    rw [absorb, List.foldl_cons]
    refine Iff.trans (ih hn.2) ?_
    rcases absorbItem_cases items first with ⟨-, e⟩ | ⟨front, old, back, rfl, hid, e⟩
    · rw [e, List.mem_append, List.mem_singleton]
      exact or_iff_left fun he => hn.1 (congrArg Item.id he)
    · have hold : item ≠ old := fun he => hn.1 ((congrArg Item.id he).trans hid)
      have hfirst : item ≠ first := fun he => hn.1 (congrArg Item.id he)
      rw [e, List.mem_append, List.mem_append, List.mem_cons, List.mem_cons, or_iff_right hold,
        or_iff_right hfirst]

/-- A job that takes newer items in brings no item twice that it did not bring twice before. -/
theorem count_idsOf_absorb_le (items newer : List Item) (id : ItemId) :
    (idsOf (absorb items newer)).count id ≤ max ((idsOf items).count id) 1 := by
  induction newer generalizing items with
  | nil => exact Nat.le_max_left _ _
  | cons first rest ih =>
    have hone : (idsOf (absorbItem items first)).count id ≤ max ((idsOf items).count id) 1 := by
      rcases absorbItem_cases items first with ⟨hn, e⟩ | ⟨front, old, back, rfl, hid, e⟩
      · rw [e, idsOf_append, List.count_append]
        have hle : (idsOf [first]).count id ≤ 1 := List.count_le_length
        by_cases he : first.id = id
        · have hzero : (idsOf items).count id = 0 := List.count_eq_zero.mpr (he ▸ hn)
          omega
        · have hzero : (idsOf [first]).count id = 0 :=
            List.count_eq_zero.mpr fun hm => he (List.mem_singleton.mp hm).symm
          omega
      · rw [e, idsOf_append, idsOf_append, idsOf_cons, idsOf_cons, hid]
        exact Nat.le_max_left _ _
    refine Nat.le_trans (ih (absorbItem items first)) ?_
    omega

/-- **A job keeps one copy of every item, the newer one of two.** -/
theorem mem_absorb (h : (idsOf items).Nodup) (hn : (idsOf newer).Nodup) :
    item ∈ absorb items newer ↔ item ∈ newer ∨ (item ∈ items ∧ item.id ∉ idsOf newer) := by
  induction newer generalizing items with
  | nil =>
    exact ⟨fun hm => Or.inr ⟨hm, List.not_mem_nil⟩, fun hm =>
      hm.elim (fun hm => absurd hm List.not_mem_nil) (·.1)⟩
  | cons first rest ih =>
    obtain ⟨hf, hr⟩ := nodup_idsOf_cons.mp hn
    rw [absorb, List.foldl_cons]
    refine Iff.trans (ih (nodup_idsOf_absorbItem h) hr) ?_
    rw [mem_absorbItem h, mem_idsOf_cons, List.mem_cons, not_or, or_assoc]
    constructor
    · intro hx
      rcases hx with hm | ⟨rfl | ⟨hm, hne⟩, hni⟩
      · exact Or.inr (Or.inl hm)
      · exact Or.inl rfl
      · exact Or.inr (Or.inr ⟨hm, hne, hni⟩)
    · intro hx
      rcases hx with rfl | hm | ⟨hm, hne, hni⟩
      · exact Or.inr ⟨Or.inl rfl, hf⟩
      · exact Or.inl hm
      · exact Or.inr ⟨Or.inr ⟨hm, hne⟩, hni⟩

end Many

/-! ## 4. The last copy of an item -/

/-- The last copy of an item in a list that may have several. -/
def lastCopyOf (items : List Item) (id : ItemId) : Option Item := copyOf items.reverse id

section LastCopy

variable {items newer : List Item} {item : Item} {id : ItemId}

theorem mem_of_lastCopyOf (h : lastCopyOf items id = some item) : item ∈ items ∧ item.id = id :=
  ⟨List.mem_reverse.mp (List.mem_of_find?_eq_some h), id_of_copyOf h⟩

theorem lastCopyOf_eq_none_iff : lastCopyOf items id = none ↔ id ∉ idsOf items := by
  rw [lastCopyOf, copyOf, List.find?_eq_none, mem_idsOf]
  simp

/-- Of two lists one after the other, the last copy is in the second if that has any. -/
theorem lastCopyOf_append (items newer : List Item) (id : ItemId) :
    lastCopyOf (items ++ newer) id = (lastCopyOf newer id).or (lastCopyOf items id) := by
  rw [lastCopyOf, List.reverse_append]
  exact List.find?_append

theorem lastCopyOf_cons (item : Item) (items : List Item) (id : ItemId) :
    lastCopyOf (item :: items) id =
      (lastCopyOf items id).or (if item.id = id then some item else none) := by
  have hone : lastCopyOf [item] id = if item.id = id then some item else none := by
    rw [lastCopyOf, copyOf, List.reverse_singleton, List.find?_singleton]
    simp only [beq_iff_eq]
  rw [← hone]
  exact lastCopyOf_append [item] items id

/-- In a list that has one copy of every item, that is the last one. -/
theorem lastCopyOf_eq_some_iff (hd : (idsOf items).Nodup) :
    lastCopyOf items id = some item ↔ item ∈ items ∧ item.id = id := by
  have hr : (idsOf items.reverse).Nodup := by
    unfold idsOf
    rw [List.map_reverse]
    exact List.nodup_reverse.mpr hd
  rw [lastCopyOf, copyOf_eq_some_iff hr, List.mem_reverse]

/-- When all copies of some items are left out, the last copies of the others are the same. -/
theorem lastCopyOf_filter (items : List Item) (p : ItemId → Bool) (id : ItemId) :
    lastCopyOf (items.filter fun item => p item.id) id = if p id then lastCopyOf items id else none := by
  induction items with
  | nil => exact (ite_self none).symm
  | cons first rest ih =>
    rw [List.filter_cons]
    by_cases hp : p first.id = true
    · rw [if_pos hp, lastCopyOf_cons, lastCopyOf_cons, ih]
      by_cases he : first.id = id
      · rw [← he, hp]
        rfl
      · simp only [he, if_false, Option.or_none]
    · rw [if_neg hp, lastCopyOf_cons, ih]
      by_cases he : first.id = id
      · rw [← he, if_neg hp, if_neg hp]
      · simp only [he, if_false, Option.or_none]

/-- The last copy in a list of lists is that of the last list that has any. -/
theorem lastCopyOf_flatMap_eq_some_iff {α : Type} {parts : List α} {itemsOf : α → List Item} :
    lastCopyOf (parts.flatMap itemsOf) id = some item ↔ ∃ front part back, parts = front ++ part :: back ∧
      lastCopyOf (itemsOf part) id = some item ∧ ∀ other ∈ back, id ∉ idsOf (itemsOf other) := by
  induction parts with
  | nil =>
    refine iff_of_false (fun e => by cases e) fun hx => ?_
    obtain ⟨front, part, back, e, -⟩ := hx
    exact absurd e.symm (List.append_ne_nil_of_right_ne_nil _ (List.cons_ne_nil _ _))
  | cons first rest ih =>
    have hnone : lastCopyOf (rest.flatMap itemsOf) id = none ↔
        ∀ other ∈ rest, id ∉ idsOf (itemsOf other) := by
      rw [lastCopyOf_eq_none_iff, idsOf, List.map_flatMap, List.mem_flatMap, not_exists]
      exact forall_congr' fun other => not_and
    rw [List.flatMap_cons, lastCopyOf_append, Option.or_eq_some_iff, ih, hnone]
    constructor
    · intro hx
      rcases hx with ⟨front, part, back, rfl, hi, hb⟩ | ⟨hb, hi⟩
      · exact ⟨first :: front, part, back, rfl, hi, hb⟩
      · exact ⟨[], first, rest, rfl, hi, hb⟩
    · intro hx
      obtain ⟨front, part, back, e, hi, hb⟩ := hx
      cases front with
      | nil =>
        cases e
        exact Or.inr ⟨hb, hi⟩
      | cons other front =>
        cases e
        exact Or.inl ⟨front, part, back, rfl, hi, hb⟩

theorem lastCopyOf_absorbItem (items : List Item) (item : Item) (id : ItemId) :
    lastCopyOf (absorbItem items item) id = if item.id = id then some item else lastCopyOf items id := by
  unfold absorbItem
  cases h : replaceLast? item items with
  | none =>
    rw [Option.getD_none, lastCopyOf_append, lastCopyOf_cons]
    split <;> rfl
  | some items' =>
    obtain ⟨front, other, back, rfl, hid, hback, rfl⟩ := replaceLast?_eq_some h
    rw [Option.getD_some, lastCopyOf_append, lastCopyOf_append, lastCopyOf_cons, lastCopyOf_cons, hid]
    split
    · rename_i e
      rw [lastCopyOf_eq_none_iff.mpr (e ▸ hback)]
      rfl
    · rfl

/-- **The last copy of a job that has taken newer items in is their last copy, if there is one.** -/
theorem lastCopyOf_absorb (items newer : List Item) (id : ItemId) :
    lastCopyOf (absorb items newer) id = (lastCopyOf newer id).or (lastCopyOf items id) := by
  induction newer generalizing items with
  | nil => rfl
  | cons first rest ih =>
    rw [absorb, List.foldl_cons]
    refine (ih (absorbItem items first)).trans ?_
    rw [lastCopyOf_absorbItem, lastCopyOf_cons, Option.or_assoc]
    split <;> rfl

/-- Newer copies of different items are all taken in. -/
theorem mem_absorb_of_mem (hn : (idsOf newer).Nodup) (hm : item ∈ newer) : item ∈ absorb items newer := by
  have hlast : lastCopyOf (absorb items newer) item.id = some item := by
    rw [lastCopyOf_absorb, (lastCopyOf_eq_some_iff hn).mpr ⟨hm, rfl⟩, Option.some_or]
  exact (mem_of_lastCopyOf hlast).1

end LastCopy

end MediaIndex
