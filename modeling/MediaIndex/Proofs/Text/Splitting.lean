import Mathlib.Data.List.DropRight
import MediaIndex.Text.Pieces
import MediaIndex.Text.WhiteSpace

/-!
# What splitting and trimming come to

A text is cut at the first occurrence of a delimiter, and what follows the occurrence is split in the same
way, so occurrences that overlap one that has been cut at do not count. A text has one such split.

* `dropLeading?_eq_some_iff` -- what follows a leading delimiter;
* `Splits`, `Splits.unique` -- the split of a text at a delimiter, and that there is only one;
* `Splits.not_isInfix` -- no piece has the delimiter in it;
* `splits_splitAtAll` -- `splitAtAll` finds the split;
* `splitAtChar_eq_splitOn` -- so does `splitAtChar` for one character;
* `isInfix_trimChars`, `trimChars_trimChars` -- trimming.
-/

namespace MediaIndex

variable {a : Char} {d text rest piece cs : List Char} {pieces pieces' : List (List Char)}

/-! ## 1. The split of a text -/

theorem dropLeading?_eq_some_iff : dropLeading? d cs = some rest ↔ cs = d ++ rest := by
  induction d generalizing cs with
  | nil => rw [dropLeading?, Option.some_inj, List.nil_append]
  | cons a d ih =>
    cases cs with
    | nil => simp [dropLeading?]
    | cons c cs =>
      rw [dropLeading?, List.cons_append, List.cons.injEq]
      split
      next e => rw [ih, and_iff_right e.symm]
      next e => exact iff_of_false (fun h => by cases h) fun h => e h.1.symm

theorem isSome_dropLeading?_iff : (dropLeading? d cs).isSome = true ↔ d <+: cs := by
  rw [Option.isSome_iff_exists]
  exact exists_congr fun rest => dropLeading?_eq_some_iff.trans eq_comm

/-- No occurrence of `d` in the text starts before the place `n`. -/
def StartsFrom (d text : List Char) (n : Nat) : Prop := ∀ u v, text = u ++ d ++ v → n ≤ u.length

/-- The pieces of a text between the occurrences of a delimiter: all of it, when the delimiter is empty or
    does not occur, or else what stands before the first occurrence and the pieces of what follows it. -/
inductive Splits (d : List Char) : List Char → List (List Char) → Prop
  | whole {text : List Char} (h : d = [] ∨ ¬ d <:+: text) : Splits d text [text]
  | cut {piece rest : List Char} {pieces : List (List Char)} (hd : d ≠ [])
      (hfirst : StartsFrom d (piece ++ d ++ rest) piece.length) (hrest : Splits d rest pieces) :
      Splits d (piece ++ d ++ rest) (piece :: pieces)

/-- A text that has been cut is not whole. -/
theorem not_whole (hd : d ≠ []) : ¬ (d = [] ∨ ¬ d <:+: piece ++ d ++ rest) :=
  fun h => h.elim hd fun h => h (List.infix_append piece d rest)

/-- **A text has only one split.** -/
theorem Splits.unique (h : Splits d text pieces) (h' : Splits d text pieces') : pieces = pieces' := by
  induction h generalizing pieces' with
  | whole hw =>
    cases h' with
    | whole _ => rfl
    | cut hd _ _ => exact absurd hw (not_whole hd)
  | @cut piece rest pieces hd hfirst _ ih =>
    generalize e : piece ++ d ++ rest = text at h' hfirst
    cases h' with
    | whole hw => exact absurd (e ▸ hw) (not_whole hd)
    | @cut piece' rest' pieces' _ hfirst' hrest' =>
      -- neither of the first occurrences comes before the other one
      have hle := hfirst piece' rest' rfl
      have hge := hfirst' piece rest e.symm
      obtain ⟨hp, hr⟩ := List.append_inj (by rwa [List.append_assoc, List.append_assoc] at e)
        (Nat.le_antisymm hle hge)
      subst hp
      rw [List.append_cancel_left hr] at ih
      rw [ih hrest']

/-- **No piece has the delimiter in it.** -/
theorem Splits.not_isInfix (h : Splits d text pieces) (hd : d ≠ []) : ∀ piece ∈ pieces, ¬ d <:+: piece := by
  induction h with
  | whole hw =>
    intro piece hm
    rw [List.mem_singleton.mp hm]
    exact hw.resolve_left hd
  | @cut first rest pieces _ hfirst _ ih =>
    intro piece hm
    rcases List.mem_cons.mp hm with rfl | hm
    · intro hx
      obtain ⟨u, v, e⟩ := hx
      have hle := hfirst u (v ++ d ++ rest) (by rw [← e]; simp only [List.append_assoc])
      have hlength := congrArg List.length e
      have hpos := List.length_pos_iff.mpr hd
      rw [List.length_append, List.length_append] at hlength
      omega
    · exact ih piece hm

/-- The pieces hold nothing that the text does not hold. -/
theorem Splits.mem_text (h : Splits d text pieces) (hp : piece ∈ pieces) {c : Char} (hc : c ∈ piece) :
    c ∈ text := by
  induction h with
  | whole _ => exact List.mem_singleton.mp hp ▸ hc
  | cut _ _ _ ih =>
    rcases List.mem_cons.mp hp with rfl | hp
    · exact List.mem_append_left _ (List.mem_append_left _ hc)
    · exact List.mem_append_right _ (ih hp)

/-! ## 2. Finding it -/

/-- What has been read of the piece under way holds no start of the delimiter. -/
theorem splits_splitAtAllFrom (hfirst : StartsFrom (a :: d) (piece ++ cs) piece.length) :
    Splits (a :: d) (piece ++ cs) (splitAtAllFrom a d piece cs) := by
  induction piece, cs using splitAtAllFrom.induct a d with
  | case1 piece =>
    rw [splitAtAllFrom, List.append_nil] at *
    refine .whole (Or.inr fun hx => ?_)
    obtain ⟨u, v, e⟩ := hx
    have hle := hfirst u v e.symm
    have hlength := congrArg List.length e
    rw [List.length_append, List.length_append, List.length_cons] at hlength
    omega
  | case2 piece c cs rest h hlt ih =>
    have e : piece ++ c :: cs = piece ++ (a :: d) ++ rest := by
      rw [dropLeading?_eq_some_iff.mp h, List.append_assoc]
    have hs : splitAtAllFrom a d piece (c :: cs) = piece :: splitAtAllFrom a d [] rest := by
      rw [splitAtAllFrom]
      split
      next rest' h' =>
        rw [h] at h'
        cases h'
        rfl
      next h' =>
        rw [h] at h'
        cases h'
    rw [hs]
    rw [e] at hfirst ⊢
    exact .cut (List.cons_ne_nil a d) hfirst (ih fun _ _ _ => Nat.zero_le _)
  | case3 piece c cs h ih =>
    rw [splitAtAllFrom]
    split
    next rest h' =>
      rw [h] at h'
      cases h'
    next =>
      rw [← List.append_cons] at ih
      refine ih fun u v e => ?_
      have hle := hfirst u v e
      rw [List.length_append, List.length_singleton]
      refine Nat.lt_of_le_of_ne hle fun hlength => ?_
      -- an occurrence at this very place would have been found
      rw [List.append_assoc] at e
      have hsome := dropLeading?_eq_some_iff.mpr (List.append_inj_right e hlength)
      rw [h] at hsome
      cases hsome

/-- **`splitAtAll` finds the split.** -/
theorem splits_splitAtAll (d text : List Char) : Splits d text (splitAtAll d text) := by
  cases d with
  | nil => exact .whole (Or.inl rfl)
  | cons a d =>
    have hs : Splits (a :: d) ([] ++ text) (splitAtAllFrom a d [] text) :=
      splits_splitAtAllFrom fun _ _ _ => Nat.zero_le _
    exact hs

theorem splitAtChar_eq_splitOn (c : Char) (text : List Char) : splitAtChar c text = text.splitOn c := by
  induction text with
  | nil => rfl
  | cons x text ih =>
    rw [splitAtChar, ih, List.splitOn, List.splitOn, List.splitOnP_cons_eq_if_modifyHead]
    by_cases h : x = c
    · rw [if_pos h, if_pos (beq_iff_eq.mpr h)]
    · rw [if_neg h, if_neg fun e => h (beq_iff_eq.mp e)]
      cases hs : text.splitOnP (· == c) with
      | nil => exact absurd hs (List.splitOnP_ne_nil _ _)
      | cons piece pieces => rfl

/-! ## 3. Trimming -/

theorem isInfix_trimChars (cs : List Char) : trimChars cs <:+: cs :=
  (List.rdropWhile_prefix isWhiteSpace _).isInfix.trans (List.dropWhile_suffix isWhiteSpace).isInfix

/-- A text that starts with no white space does not when its end is trimmed. -/
theorem dropWhile_trimEndChars (h : cs.dropWhile isWhiteSpace = cs) :
    (trimEndChars cs).dropWhile isWhiteSpace = trimEndChars cs := by
  have hprefix : trimEndChars cs <+: cs := List.rdropWhile_prefix isWhiteSpace cs
  refine List.dropWhile_eq_self_iff.mpr fun hl => ?_
  rw [List.IsPrefix.getElem hprefix hl]
  exact List.dropWhile_eq_self_iff.mp h (Nat.lt_of_lt_of_le hl hprefix.length_le)

/-- **A trimmed text is left as it is.** -/
theorem trimChars_trimChars (cs : List Char) : trimChars (trimChars cs) = trimChars cs := by
  have hstart : (trimChars cs).dropWhile isWhiteSpace = trimChars cs :=
    dropWhile_trimEndChars (List.dropWhile_idempotent isWhiteSpace _)
  rw [trimChars, hstart]
  exact List.rdropWhile_idempotent isWhiteSpace _

end MediaIndex
