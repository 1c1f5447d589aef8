import MediaIndex.Text.CodeSet

/-!
# What sets of code points hold

Making one range of those that touch or overlap adds no code point, and loses none as long as the ranges
are in the order of their first code points.

* `CodeSet.contains_iff` -- a set holds what one of its ranges holds;
* `Ascending`, `held_coalesce_iff` -- ranges in order, made one where they touch;
* `contains_ofCodes`, `contains_union_iff`, `contains_unions` -- the sets that are made that way;
* `of_contains_unions` -- in any order, nothing is added.
-/

namespace MediaIndex.CodeSet

variable {c : Nat} {rs : List CodeRange}

/-! ## 1. Ranges -/

/-- One of the ranges holds the code point. -/
def Held (rs : List CodeRange) (c : Nat) : Prop := ∃ r ∈ rs, r.first ≤ c ∧ c ≤ r.last

theorem contains_iff {s : CodeSet} : s.contains c = true ↔ Held s.ranges c := by
  simp only [contains, CodeRange.contains, List.any_eq_true, Bool.and_eq_true, decide_eq_true_eq, Held]

theorem held_cons_iff {r : CodeRange} : Held (r :: rs) c ↔ (r.first ≤ c ∧ c ≤ r.last) ∨ Held rs c := by
  simp only [Held, List.mem_cons, exists_eq_or_imp]

theorem held_append_iff {ss : List CodeRange} : Held (rs ++ ss) c ↔ Held rs c ∨ Held ss c := by
  simp only [Held, List.mem_append, or_and_right, exists_or]

theorem Held.congr {ss : List CodeRange} (h : ∀ r, r ∈ rs ↔ r ∈ ss) : Held rs c ↔ Held ss c := by
  simp only [Held, h]

/-- The ranges are in the order of their first code points. -/
def Ascending (rs : List CodeRange) : Prop := rs.Pairwise fun r s => r.first ≤ s.first

/-- Every range starts no later than the next one. -/
def isAscending : List CodeRange → Bool
  | r :: s :: rest => Nat.ble r.first s.first && isAscending (s :: rest)
  | _ => true

theorem ascending_of_isAscending (h : isAscending rs = true) : Ascending rs := by
  induction rs with
  | nil => exact List.Pairwise.nil
  | cons r rs ih =>
    cases rs with
    | nil => exact List.pairwise_singleton _ _
    | cons s rs =>
      obtain ⟨hrs, hrest⟩ := Bool.and_eq_true_iff.mp h
      have ha := ih hrest
      have hfirst : r.first ≤ s.first := Nat.le_of_ble_eq_true hrs
      refine List.pairwise_cons.mpr ⟨fun t ht => ?_, ha⟩
      rcases List.mem_cons.mp ht with rfl | ht
      · exact hfirst
      · exact Nat.le_trans hfirst ((List.pairwise_cons.mp ha).1 t ht)

/-- A line of a table that is written out is read character by character. -/
theorem ranges_ofHex_cons (line : List Char) (lines : List String) :
    (ofHex (String.ofList line :: lines)).ranges = rangesOfLine line ++ (ofHex lines).ranges := by
  rw [ofHex, List.flatMap_cons, String.toList_ofList]
  rfl

/-! ## 2. Ranges made one -/

/-- Nothing is added. -/
theorem held_of_held_coalesceFrom {o : CodeRange} (h : Held (coalesceFrom o rs) c) : Held (o :: rs) c := by
  induction rs generalizing o with
  | nil => exact h
  | cons r rs ih =>
    rw [coalesceFrom] at h
    split at h
    · rename_i htouch
      rcases held_cons_iff.mp (ih h) with ⟨hf, hl⟩ | h
      · rw [held_cons_iff, held_cons_iff]
        -- what is beyond the open range is in the other one, which starts no later than after its end
        by_cases hc : c ≤ o.last
        · exact Or.inl ⟨hf, hc⟩
        · have hl : c ≤ max o.last r.last := hl
          exact Or.inr (Or.inl ⟨by omega, by omega⟩)
      · exact held_cons_iff.mpr (Or.inr (held_cons_iff.mpr (Or.inr h)))
    · rcases held_cons_iff.mp h with hc | h
      · exact held_cons_iff.mpr (Or.inl hc)
      · exact held_cons_iff.mpr (Or.inr (ih h))

/-- Nothing is lost, for the open range starts first. -/
theorem held_coalesceFrom {o : CodeRange} (ha : Ascending (o :: rs)) (h : Held (o :: rs) c) :
    Held (coalesceFrom o rs) c := by
  induction rs generalizing o with
  | nil => exact h
  | cons r rs ih =>
    obtain ⟨ho, hr, hrs⟩ : (∀ s ∈ r :: rs, o.first ≤ s.first) ∧ (∀ s ∈ rs, r.first ≤ s.first) ∧ Ascending rs := by
      obtain ⟨ho, hrest⟩ := List.pairwise_cons.mp ha
      exact ⟨ho, List.pairwise_cons.mp hrest⟩
    rw [coalesceFrom]
    split
    · refine ih (List.pairwise_cons.mpr ⟨fun s hs => ho s (List.mem_cons_of_mem _ hs), hrs⟩) ?_
      have hfirst := ho r List.mem_cons_self
      rcases held_cons_iff.mp h with ⟨hf, hl⟩ | h
      · exact held_cons_iff.mpr (Or.inl ⟨hf, Nat.le_trans hl (Nat.le_max_left _ _)⟩)
      · rcases held_cons_iff.mp h with ⟨hf, hl⟩ | h
        · exact held_cons_iff.mpr (Or.inl ⟨Nat.le_trans hfirst hf, Nat.le_trans hl (Nat.le_max_right _ _)⟩)
        · exact held_cons_iff.mpr (Or.inr h)
    · rcases held_cons_iff.mp h with hc | h
      · exact held_cons_iff.mpr (Or.inl hc)
      · exact held_cons_iff.mpr (Or.inr (ih (List.pairwise_cons.mpr ⟨hr, hrs⟩) h))

theorem held_of_held_coalesce (h : Held (coalesce rs) c) : Held rs c := by
  cases rs with
  | nil => exact h
  | cons r rs => exact held_of_held_coalesceFrom h

/-- **Ranges that are in order hold the same when those that touch are made one.** -/
theorem held_coalesce_iff (ha : Ascending rs) : Held (coalesce rs) c ↔ Held rs c := by
  refine ⟨held_of_held_coalesce, fun h => ?_⟩
  cases rs with
  | nil => exact h
  | cons r rs => exact held_coalesceFrom ha h

theorem first_coalesceFrom_sublist (o : CodeRange) (rs : List CodeRange) :
    ((coalesceFrom o rs).map CodeRange.first).Sublist ((o :: rs).map CodeRange.first) := by
  induction rs generalizing o with
  | nil => exact List.Sublist.refl _
  | cons r rs ih =>
    rw [coalesceFrom]
    split
    · exact (ih _).trans ((List.sublist_cons_self _ _).cons_cons _)
    · exact (ih r).cons_cons _

theorem ascending_coalesce (ha : Ascending rs) : Ascending (coalesce rs) := by
  cases rs with
  | nil => exact ha
  | cons r rs =>
    have hfirsts : ((r :: rs).map CodeRange.first).Pairwise (· ≤ ·) := List.pairwise_map.mpr ha
    exact List.pairwise_map.mp (hfirsts.sublist (first_coalesceFrom_sublist r rs))

/-! ## 3. Sets -/

theorem startsBefore_trans (a b c : CodeRange) (h : a.startsBefore b = true) (h' : b.startsBefore c = true) :
    a.startsBefore c = true :=
  decide_eq_true (Nat.le_trans (of_decide_eq_true h) (of_decide_eq_true h'))

theorem startsBefore_total (a b : CodeRange) : (a.startsBefore b || b.startsBefore a) = true := by
  simp only [CodeRange.startsBefore, Bool.or_eq_true, decide_eq_true_eq]
  exact Nat.le_total a.first b.first

theorem ascending_of_pairwise (h : rs.Pairwise fun r s => r.startsBefore s = true) : Ascending rs :=
  h.imp fun h => of_decide_eq_true h

/-- **A set that is made of code points holds these.** -/
theorem contains_ofCodes {codes : List Nat} : (ofCodes codes).contains c = true ↔ c ∈ codes := by
  have hsorted := List.pairwise_mergeSort startsBefore_trans startsBefore_total
    (codes.map fun c => (⟨c, c⟩ : CodeRange))
  rw [contains_iff, ofCodes, held_coalesce_iff (ascending_of_pairwise hsorted),
    Held.congr fun r => List.mem_mergeSort]
  simp only [Held, List.mem_map]
  constructor
  · rintro ⟨_, ⟨d, hd, rfl⟩, hf, hl⟩
    exact (Nat.le_antisymm hl hf) ▸ hd
  · exact fun h => ⟨_, ⟨c, h, rfl⟩, Nat.le_refl c, Nat.le_refl c⟩

variable {s t : CodeSet}

theorem of_contains_union (h : (s.union t).contains c = true) : s.contains c = true ∨ t.contains c = true := by
  have hmerged := held_of_held_coalesce (contains_iff.mp h)
  rw [Held.congr fun r => List.mem_merge.trans List.mem_append.symm, held_append_iff] at hmerged
  exact hmerged.imp contains_iff.mpr contains_iff.mpr

theorem pairwise_merge (hs : Ascending s.ranges) (ht : Ascending t.ranges) :
    Ascending (s.ranges.merge t.ranges CodeRange.startsBefore) :=
  ascending_of_pairwise (List.pairwise_merge startsBefore_trans startsBefore_total _ _
    (hs.imp fun h => decide_eq_true h) (ht.imp fun h => decide_eq_true h))

/-- **The union of two sets that are kept in order holds what one of them holds**, and is in order. -/
theorem contains_union_iff (hs : Ascending s.ranges) (ht : Ascending t.ranges) :
    (s.union t).contains c = true ↔ s.contains c = true ∨ t.contains c = true := by
  rw [contains_iff, union, held_coalesce_iff (pairwise_merge hs ht),
    Held.congr fun r => List.mem_merge.trans List.mem_append.symm, held_append_iff, contains_iff, contains_iff]

theorem ascending_union (hs : Ascending s.ranges) (ht : Ascending t.ranges) : Ascending (s.union t).ranges :=
  ascending_coalesce (pairwise_merge hs ht)

/-- What some sets hold together one of them holds, in whatever order their ranges are. -/
theorem of_contains_unions {sets : List CodeSet} (h : (unions sets).contains c = true) :
    ∃ s ∈ sets, s.contains c = true := by
  have hfold (sets : List CodeSet) (start : CodeSet) (h : (sets.foldl union start).contains c = true) :
      start.contains c = true ∨ ∃ s ∈ sets, s.contains c = true := by
    induction sets generalizing start with
    | nil => exact Or.inl h
    | cons s sets ih =>
      rcases ih _ h with h | ⟨s', hm, h⟩
      · rcases of_contains_union h with h | h
        · exact Or.inl h
        · exact Or.inr ⟨s, List.mem_cons_self, h⟩
      · exact Or.inr ⟨s', List.mem_cons_of_mem _ hm, h⟩
  exact (hfold sets empty h).resolve_left fun h => nomatch h

/-- **Sets that are kept in order hold together what each of them holds.** -/
theorem contains_unions {sets : List CodeSet} (ha : ∀ s ∈ sets, Ascending s.ranges) (hm : s ∈ sets)
    (h : s.contains c = true) : (unions sets).contains c = true := by
  have hfold (sets : List CodeSet) (start : CodeSet) (ha : ∀ s ∈ sets, Ascending s.ranges)
      (hstart : Ascending start.ranges) (h : start.contains c = true ∨ ∃ s ∈ sets, s.contains c = true) :
      (sets.foldl union start).contains c = true := by
    induction sets generalizing start with
    | nil => exact h.resolve_right fun ⟨_, hm, _⟩ => List.not_mem_nil hm
    | cons t sets ih =>
      have ht := ha t List.mem_cons_self
      refine ih _ (fun s hm => ha s (List.mem_cons_of_mem _ hm)) (ascending_union hstart ht) ?_
      rw [contains_union_iff hstart ht, or_assoc]
      refine h.imp_right ?_
      rintro ⟨other, hm, hc⟩
      rcases List.mem_cons.mp hm with rfl | hm
      · exact Or.inl hc
      · exact Or.inr ⟨other, hm, hc⟩
  exact hfold sets empty ha List.Pairwise.nil (Or.inr ⟨s, hm, h⟩)

end MediaIndex.CodeSet
