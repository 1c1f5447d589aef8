import MediaIndex.Batch

/-!
# Keys and value vectors

A group key joins the values of an item, one for each column, with a separator that no value holds.
So a key tells the values it was made of, and two value vectors never share a group.

* `Separable` -- the values can be told apart in the key made of them;
* `Separable.compose_inj` -- on such vectors `GroupKey.compose` is injective;
* `Grouper.separable_of_mem_vectors` -- the value vectors of an item are of this kind;
* `Grouper.keySet` -- the keys of an item over given columns, never none.
-/

namespace MediaIndex

/-! ## 1. Joined values -/

/-- There are values, and none of them holds the separator of keys. -/
def Separable (values : List String) : Prop :=
  values ≠ [] ∧ ∀ value ∈ values, keySeparator ∉ value.toList

theorem toList_text_compose (values : List String) :
    (GroupKey.compose values).text.toList = [keySeparator].intercalate (values.map String.toList) := by
  rw [GroupKey.compose, String.toList_intercalate, String.toList_singleton]

/-- A key splits into the values it was made of. -/
theorem Separable.splitOn_compose {values : List String} (h : Separable values) :
    (GroupKey.compose values).text.toList.splitOn keySeparator = values.map String.toList := by
  rw [toList_text_compose]
  refine List.splitOn_intercalate keySeparator (fun cs hcs => ?_)
    (fun e => h.1 (List.map_eq_nil_iff.mp e))
  obtain ⟨value, hv, rfl⟩ := List.mem_map.mp hcs
  exact h.2 value hv

/-- **Different value vectors have different keys.** -/
theorem Separable.compose_inj {u v : List String} (hu : Separable u) (hv : Separable v)
    (e : GroupKey.compose u = GroupKey.compose v) : u = v := by
  have h : u.map String.toList = v.map String.toList := by
    rw [← hu.splitOn_compose, ← hv.splitOn_compose, e]
  exact (List.map_inj_right fun _ _ => String.toList_inj.mp).mp h

/-! ## 2. Values of an item -/

theorem mem_partsOf {text part : List Char} (h : part ∈ partsOf text) : keySeparator ∉ part := by
  obtain ⟨piece, -, rfl⟩ := List.mem_map.mp (List.mem_filter.mp h).1
  intro hc
  have := (List.mem_filter.mp hc).2
  simp at this

theorem valuesOf_ne_nil (text : String) : valuesOf text ≠ [] := by
  unfold valuesOf
  dsimp only
  split
  · exact List.cons_ne_nil _ _
  · rename_i h
    intro e
    cases hp : partsOf text.toList with
    | nil => exact h (by rw [hp]; rfl)
    | cons p ps =>
      rw [hp, List.map_cons, List.eraseDups_cons] at e
      cases e

theorem keySeparator_notMem_of_mem_valuesOf {text value : String} (h : value ∈ valuesOf text) :
    keySeparator ∉ value.toList := by
  unfold valuesOf at h
  dsimp only at h
  split at h
  · rw [List.mem_singleton.mp h]
    exact List.not_mem_nil
  · obtain ⟨part, hp, rfl⟩ := List.mem_map.mp (List.mem_eraseDups.mp h)
    rw [String.toList_ofList]
    exact mem_partsOf hp

namespace Grouper

variable (g : Grouper) (item : Item)

theorem values_ne_nil (column : Column) : g.values item column ≠ [] := by
  unfold values
  split
  · exact List.cons_ne_nil _ _
  · exact valuesOf_ne_nil _

theorem keySeparator_notMem_of_mem_values {column : Column} {value : String}
    (h : value ∈ g.values item column) : keySeparator ∉ value.toList := by
  unfold values at h
  split at h
  · rw [List.mem_singleton.mp h]
    decide
  · exact keySeparator_notMem_of_mem_valuesOf h

end Grouper

/-! ## 3. Value vectors -/

theorem choices_ne_nil {lists : List (List String)} (h : ∀ l ∈ lists, l ≠ []) : choices lists ≠ [] := by
  induction lists with
  | nil => exact List.cons_ne_nil _ _
  | cons values rest ih =>
    obtain ⟨v, vs, rfl⟩ := List.exists_cons_of_ne_nil (h values List.mem_cons_self)
    obtain ⟨w, ws, e⟩ :=
      List.exists_cons_of_ne_nil (ih fun l hl => h l (List.mem_cons_of_mem _ hl))
    rw [choices, List.flatMap_cons, e]
    exact List.cons_ne_nil _ _

theorem length_of_mem_choices {lists : List (List String)} {vector : List String}
    (h : vector ∈ choices lists) : vector.length = lists.length := by
  induction lists generalizing vector with
  | nil =>
    rw [List.mem_singleton.mp h]
    rfl
  | cons values rest ih =>
    obtain ⟨v, -, h⟩ := List.mem_flatMap.mp h
    obtain ⟨w, hw, rfl⟩ := List.mem_map.mp h
    rw [List.length_cons, List.length_cons, ih hw]

/-- What stands in a chosen vector stands in one of the lists. -/
theorem exists_mem_of_mem_choices {lists : List (List String)} {vector : List String} {value : String}
    (h : vector ∈ choices lists) (hv : value ∈ vector) : ∃ l ∈ lists, value ∈ l := by
  induction lists generalizing vector with
  | nil =>
    rw [List.mem_singleton.mp h] at hv
    exact absurd hv List.not_mem_nil
  | cons values rest ih =>
    obtain ⟨v, hmem, h⟩ := List.mem_flatMap.mp h
    obtain ⟨w, hw, rfl⟩ := List.mem_map.mp h
    rcases List.mem_cons.mp hv with rfl | hv
    · exact ⟨values, List.mem_cons_self, hmem⟩
    · obtain ⟨l, hl, hvl⟩ := ih hw hv
      exact ⟨l, List.mem_cons_of_mem _ hl, hvl⟩

theorem orUnclassified_ne_nil (columns : List Column) : orUnclassified columns ≠ [] := by
  unfold orUnclassified
  split
  · exact List.cons_ne_nil _ _
  · rename_i h
    exact fun e => h (List.isEmpty_iff.mpr e)

theorem orUnclassified_orUnclassified (columns : List Column) :
    orUnclassified (orUnclassified columns) = orUnclassified columns :=
  if_neg fun e => orUnclassified_ne_nil columns (List.isEmpty_iff.mp e)

namespace Grouper

variable (g : Grouper) (columns : List Column) (item : Item)

theorem vectors_ne_nil : g.vectors columns item ≠ [] := by
  refine choices_ne_nil fun l hl => ?_
  obtain ⟨column, -, rfl⟩ := List.mem_map.mp hl
  exact g.values_ne_nil item column

/-- **The value vectors of an item can be told apart by their keys.** -/
theorem separable_of_mem_vectors {columns : List Column} (hc : columns ≠ []) {item : Item}
    {vector : List String} (h : vector ∈ g.vectors columns item) : Separable vector := by
  constructor
  · intro hx
    subst hx
    have hl := length_of_mem_choices h
    rw [List.length_map] at hl
    exact hc (List.length_eq_zero_iff.mp hl.symm)
  · intro value hv
    obtain ⟨l, hl, hvl⟩ := exists_mem_of_mem_choices h hv
    obtain ⟨column, -, rfl⟩ := List.mem_map.mp hl
    exact g.keySeparator_notMem_of_mem_values item hvl

/-- The keys of the groups an item belongs to. -/
def keySet : KeySet := .ofList ((g.vectors (orUnclassified columns) item).map GroupKey.compose)

variable {g columns item}

theorem mem_keySet {key : GroupKey} :
    key ∈ g.keySet columns item ↔
      ∃ vector ∈ g.vectors (orUnclassified columns) item, GroupKey.compose vector = key := by
  rw [keySet, Std.ExtTreeSet.mem_ofList, List.contains_iff_mem, List.mem_map]

variable (g columns item) in
theorem keySet_ne_empty : g.keySet columns item ≠ ∅ := by
  obtain ⟨vector, rest, e⟩ := List.exists_cons_of_ne_nil (g.vectors_ne_nil (orUnclassified columns) item)
  intro h
  have hm : GroupKey.compose vector ∈ g.keySet columns item :=
    mem_keySet.mpr ⟨vector, by rw [e]; exact List.mem_cons_self, rfl⟩
  rw [h] at hm
  exact Std.ExtTreeSet.not_mem_empty hm

end Grouper

end MediaIndex
