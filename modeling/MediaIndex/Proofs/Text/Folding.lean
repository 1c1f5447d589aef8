import MediaIndex.Proofs.Text.Sets
import MediaIndex.Text.SimpleFold

/-!
# The table of simple case folding

The table sends a code point to one other at most, and what it is sent to is sent nowhere else. So the
code points that an orbit lists are those that are folded to the same one.

* `CaseRow.avoids`, `CaseRow.areClear` -- what is checked of the rows of a table, two by two;
* `clear_toFolded` -- the table passes;
* `SimpleFold.mem_orbit_iff` -- an orbit lists the code points that are folded alike.
-/

namespace MediaIndex

namespace CaseRow

variable {r r' : CaseRow} {rows : List CaseRow} {c t : Nat}

/-! ## 1. Rows -/

/-- A line of a table that is written out is read character by character. -/
theorem listOfHex_cons (line : List Char) (lines : List String) :
    listOfHex (String.ofList line :: lines) = rowsOfLine line ++ listOfHex lines := by
  rw [listOfHex, List.flatMap_cons, String.toList_ofList]
  rfl

theorem image?_eq_some_iff : r.image? c = some t ↔
    (r.first ≤ c ∧ c ≤ r.last ∧ (c - r.first) % r.step = 0) ∧ r.target + (c - r.first) = t := by
  unfold image?
  split <;> simp_all

/-- A row leads back from where it sends a code point. -/
theorem preimage?_eq_some_iff (ho : r.first ≤ r.last) : r.preimage? t = some c ↔ r.image? c = some t := by
  rw [image?_eq_some_iff, preimage?]
  constructor
  · intro h
    split at h
    · rename_i hp
      have hc := Option.some.inj h
      have e : c - r.first = t - r.target := by omega
      exact ⟨⟨by omega, by omega, e ▸ hp.2.2⟩, by omega⟩
    · cases h
  · rintro ⟨⟨hf, hl, hm⟩, ht⟩
    have e : t - r.target = c - r.first := by omega
    rw [if_pos ⟨by omega, by omega, e ▸ hm⟩, e, Nat.add_sub_cancel' hf]

/-- All code points that the row is about are even, or all are odd. -/
def keepsParity (r : CaseRow) : Bool := Nat.beq r.step 2 || Nat.beq r.first r.last

/-- The code points from `start` on, as many and as far apart as those that `r` is about, are none that `r'`
    is about: their ends tell, or their parity. -/
def avoids (r : CaseRow) (start : Nat) (r' : CaseRow) : Bool :=
  Nat.blt (start + (r.last - r.first)) r'.first || (Nat.blt r'.last start ||
    (r.keepsParity && r'.keepsParity && Nat.beq ((start + r'.first) % 2) 1))

theorem image?_eq_none_of_avoids {start : Nat} (h : r.avoids start r' = true) (hs : start ≤ c)
    (hl : c - start ≤ r.last - r.first) (hm : (c - start) % r.step = 0) : r'.image? c = none := by
  refine Option.eq_none_iff_forall_ne_some.mpr fun t ht => ?_
  obtain ⟨⟨hf', hl', hm'⟩, -⟩ := image?_eq_some_iff.mp ht
  simp only [avoids, keepsParity, Bool.or_eq_true, Bool.and_eq_true, Nat.blt_eq, Nat.beq_eq] at h
  rcases h with h | h | ⟨⟨hp, hp'⟩, hodd⟩
  · omega
  · omega
  · have heven : (c - start) % 2 = 0 := by
      rcases hp with e | e
      · rwa [e] at hm
      · omega
    have heven' : (c - r'.first) % 2 = 0 := by
      rcases hp' with e | e
      · rwa [e] at hm'
      · omega
    omega

/-- No two rows are about one code point. -/
def areDisjoint : List CaseRow → Bool
  | [] => true
  | r :: rows => (rows.all fun r' => r.avoids r.first r') && areDisjoint rows

/-- No two rows are about one code point, and no row is about one that a row sends something to. -/
def areClear (rows : List CaseRow) : Bool :=
  areDisjoint rows && rows.all fun r =>
    Nat.ble r.first r.last && rows.all fun r' => r.avoids r.target r'

/-- Of disjoint rows one only counts for a code point. -/
theorem findSome?_image? (hd : areDisjoint rows = true) (hr : r ∈ rows) (h : r.image? c = some t) :
    rows.findSome? (·.image? c) = some t := by
  induction rows with
  | nil => exact absurd hr List.not_mem_nil
  | cons r' rows ih =>
    obtain ⟨hfirst, hrest⟩ := Bool.and_eq_true_iff.mp hd
    rcases List.mem_cons.mp hr with rfl | hr
    · rw [List.findSome?_cons, h]
    · have hnone : r'.image? c = none := by
        refine Option.eq_none_iff_forall_ne_some.mpr fun t' ht' => ?_
        obtain ⟨⟨hf, hl, hm⟩, -⟩ := image?_eq_some_iff.mp ht'
        rw [image?_eq_none_of_avoids (List.all_eq_true.mp hfirst r hr) hf (by omega) hm] at h
        cases h
      rw [List.findSome?_cons, hnone]
      exact ih hrest hr

theorem disjoint_of_clear (hc : areClear rows = true) : areDisjoint rows = true :=
  (Bool.and_eq_true_iff.mp hc).1

theorem of_clear (hc : areClear rows = true) (hr : r ∈ rows) :
    r.first ≤ r.last ∧ ∀ r' ∈ rows, r.avoids r.target r' = true := by
  have h := List.all_eq_true.mp (Bool.and_eq_true_iff.mp hc).2 r hr
  obtain ⟨hle, htargets⟩ := Bool.and_eq_true_iff.mp h
  exact ⟨Nat.le_of_ble_eq_true hle, List.all_eq_true.mp htargets⟩

/-- What a clear table sends something to is sent nowhere. -/
theorem findSome?_image?_of_image? (hc : areClear rows = true) (hr : r ∈ rows) (h : r.image? c = some t) :
    rows.findSome? (·.image? t) = none := by
  obtain ⟨⟨hf, hl, hm⟩, rfl⟩ := image?_eq_some_iff.mp h
  refine List.findSome?_eq_none_iff.mpr fun r' hr' => ?_
  refine image?_eq_none_of_avoids ((of_clear hc hr).2 r' hr') (by omega) (by omega) ?_
  rwa [Nat.add_sub_cancel_left]

end CaseRow

/-! ## 2. Folding -/

namespace SimpleFold

open CaseRow

/-- **The table of simple case folding is clear.** -/
theorem clear_toFolded : areClear CaseTable.toFolded = true := by
  unfold CaseTable.toFolded
  repeat rw [listOfHex_cons]
  decide +kernel

theorem sameFold_self (c : Char) : sameFold c c = true := beq_self_eq_true _

/-- A code point is folded to itself, or a row of the table sends it to what it is folded to. -/
theorem fold_cases (c : Nat) : fold c = c ∨ ∃ r ∈ CaseTable.toFolded, r.image? c = some (fold c) := by
  unfold fold
  cases h : CaseTable.toFolded.findSome? (·.image? c) with
  | none => exact Or.inl rfl
  | some t => exact Or.inr (List.exists_of_findSome?_eq_some h)

theorem fold_of_image? {r : CaseRow} {c t : Nat} (hr : r ∈ CaseTable.toFolded) (h : r.image? c = some t) :
    fold c = t := by
  rw [fold, findSome?_image? (disjoint_of_clear clear_toFolded) hr h, Option.getD_some]

/-- Folding once is folding for good. -/
theorem fold_fold (c : Nat) : fold (fold c) = fold c := by
  rcases fold_cases c with e | ⟨r, hr, h⟩
  · rw [e, e]
  · rw [fold, findSome?_image?_of_image? clear_toFolded hr h, Option.getD_none]

/-- **The orbit of a code point lists those that are folded as it is.** -/
theorem mem_orbit_iff {c n : Nat} : n ∈ orbit c ↔ fold n = fold c := by
  have hback (r : CaseRow) (hr : r ∈ CaseTable.toFolded) :
      r.preimage? (fold c) = some n ↔ r.image? n = some (fold c) :=
    preimage?_eq_some_iff (of_clear clear_toFolded hr).1
  rw [orbit, List.mem_cons, List.mem_filterMap]
  constructor
  · rintro (rfl | ⟨r, hr, h⟩)
    · exact fold_fold c
    · exact fold_of_image? hr ((hback r hr).mp h)
  · intro e
    rcases fold_cases n with h | ⟨r, hr, h⟩
    · exact Or.inl (h.symm.trans e)
    · exact Or.inr ⟨r, hr, (hback r hr).mpr (e ▸ h)⟩

/-- **Of two characters that are the same up to simple case folding, and of no others, one is in the set
    that the orbit of the other makes.** -/
theorem contains_orbit {a c : Char} :
    (CodeSet.ofCodes (orbit a.toNat)).contains c.toNat = true ↔ sameFold a c = true := by
  rw [CodeSet.contains_ofCodes, mem_orbit_iff, sameFold, beq_iff_eq, eq_comm]

end SimpleFold

end MediaIndex
