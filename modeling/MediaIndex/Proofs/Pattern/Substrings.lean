import Mathlib.Tactic.SplitIfs
import MediaIndex.Proofs.Text.Sets
import MediaIndex.Proofs.Text.Splitting
import MediaIndex.Query.Basic

/-!
# Substring queries and the capital sigma

A text and a value are brought to lowercase one without the other. Characters do not depend on what stands
around them, but for the capital sigma: at the end of a word it becomes another letter than elsewhere. So a
text that a value contains is found in it for certain, unless one of the capital sigmas in the text is
loose, that is, it depends on what stands before or after the text.

* `lowerIn`, `lowerFrom_append` -- the lowercase form of a piece of a text;
* `hasLooseSigma`, `lowerIn_of_not_loose` -- without loose sigmas the form is that of the piece alone;
* `exists_missed_of_loose` -- one more letter before or after a text with a loose sigma, and it is not found;
* `NodeQuery.substring_finds_iff` -- which texts are always found.
-/

namespace MediaIndex

variable {c x : Char} {p u v l r : List Char}

/-! ## 1. Occurrences -/

/-- **A text occurs in another one when it is a piece of it.** -/
theorem occursIn_iff {d cs : List Char} : occursIn d cs = true ↔ d <:+: cs := by
  induction cs with
  | nil => rw [occursIn, List.isEmpty_iff, List.infix_nil]
  | cons c cs ih => rw [occursIn, Bool.or_eq_true, isSome_dropLeading?_iff, ih, List.infix_cons_iff]

/-! ## 2. The lowercase form of a piece -/

/-- A character that words are blind to. -/
def isPassedOver (c : Char) : Bool := CharProperty.caseIgnorable.contains c.toNat

theorem casedAhead_cons : casedAhead (c :: u) =
    if isPassedOver c then casedAhead u else CharProperty.cased.contains c.toNat := by
  unfold casedAhead isPassedOver
  rw [List.dropWhile_cons]
  split_ifs <;> rfl

theorem casedAhead_append : casedAhead (u ++ v) = if u.all isPassedOver then casedAhead v else casedAhead u := by
  induction u with
  | nil => rfl
  | cons c u ih =>
    rw [List.cons_append, casedAhead_cons, ih, casedAhead_cons, List.all_cons]
    cases isPassedOver c <;> simp

theorem casedAhead_of_all (h : u.all isPassedOver = true) : casedAhead u = false := by
  have e := casedAhead_append (u := u) (v := [])
  rwa [List.append_nil, if_pos h] at e

/-- The lowercase form of a capital sigma; the nearest character comes first on both sides. -/
def lowerSigma (before after : List Char) : Char := if casedAhead before && !casedAhead after then 'ς' else 'σ'

/-- The lowercase form of a piece of a text, of which `before` stands before the piece, the nearest character
    first, and `after` behind it. -/
def lowerIn (before after : List Char) : List Char → List Char
  | [] => []
  | c :: cs =>
    (if c = capitalSigma then [lowerSigma before (cs ++ after)] else lowerChar c) ++ lowerIn (c :: before) after cs

/-- The form of a text is that of its first part followed by that of the rest. -/
theorem lowerFrom_append (p : List Char) :
    lowerFrom u (p ++ v) = lowerIn u v p ++ lowerFrom (p.reverse ++ u) v := by
  induction p generalizing u with
  | nil => rfl
  | cons c p ih =>
    rw [List.cons_append, lowerFrom, ih, lowerIn, List.append_assoc, List.reverse_cons, List.append_assoc]
    rfl

theorem lowerFrom_eq_lowerIn (p : List Char) : lowerFrom u p = lowerIn u [] p := by
  have e := lowerFrom_append (u := u) (v := []) p
  rwa [List.append_nil, lowerFrom, List.append_nil] at e

theorem lowerIn_append (l : List Char) :
    lowerIn u v (l ++ r) = lowerIn u (r ++ v) l ++ lowerIn (l.reverse ++ u) v r := by
  induction l generalizing u with
  | nil => rfl
  | cons c l ih =>
    rw [List.cons_append, lowerIn, ih, lowerIn, List.append_assoc, List.append_assoc, List.reverse_cons,
      List.append_assoc]
    rfl

/-- What stands around a piece does not tell in the length of its form. -/
theorem length_lowerIn (u v u' v' : List Char) (p : List Char) :
    (lowerIn u v p).length = (lowerIn u' v' p).length := by
  induction p generalizing u u' with
  | nil => rfl
  | cons c p ih =>
    rw [lowerIn, lowerIn, List.length_append, List.length_append, ih (c :: u) (c :: u')]
    split <;> rfl

/-! ## 3. Loose sigmas -/

/-- The form of a capital sigma depends on what stands around the text: before it nothing counts and no
    letter follows, or a letter stands before it and nothing behind it counts. -/
def sigmaIsLoose (before after : List Char) : Bool :=
  (before.all isPassedOver && !casedAhead after) || (casedAhead before && after.all isPassedOver)

/-- A capital sigma of the text is loose, where `before` has been read, the nearest character first. -/
def hasLooseSigma (before : List Char) : List Char → Bool
  | [] => false
  | c :: cs => (c == capitalSigma && sigmaIsLoose before cs) || hasLooseSigma (c :: before) cs

theorem lowerSigma_of_not_loose (h : sigmaIsLoose l r = false) : lowerSigma (l ++ u) (r ++ v) = lowerSigma l r := by
  obtain ⟨hbefore, hafter⟩ := Bool.or_eq_false_iff.mp h
  have hl : casedAhead (l ++ u) = if l.all isPassedOver then casedAhead u else casedAhead l := casedAhead_append
  have hr : casedAhead (r ++ v) = if r.all isPassedOver then casedAhead v else casedAhead r := casedAhead_append
  unfold lowerSigma
  by_cases hall : l.all isPassedOver = true
  · -- a letter follows, so what stands before does not count
    have hcased : casedAhead r = true := by simpa [hall] using hbefore
    have hr' : r.all isPassedOver = false := Bool.eq_false_iff.mpr fun h => by simp [casedAhead_of_all h] at hcased
    rw [hr, hr', if_neg Bool.false_ne_true, hcased, Bool.not_true, Bool.and_false, Bool.and_false]
  · rw [hl, if_neg hall]
    cases hcased : casedAhead l with
    | false => rfl
    | true =>
      have hr' : r.all isPassedOver = false := by simpa [hcased] using hafter
      rw [hr, hr', if_neg Bool.false_ne_true]

/-- **Without loose sigmas a piece has the same form wherever it stands.** -/
theorem lowerIn_of_not_loose (h : hasLooseSigma l p = false) : lowerIn (l ++ u) v p = lowerIn l [] p := by
  induction p generalizing l with
  | nil => rfl
  | cons c p ih =>
    obtain ⟨hc, hp⟩ := Bool.or_eq_false_iff.mp h
    have htail : lowerIn (c :: (l ++ u)) v p = lowerIn (c :: l) [] p := ih hp
    rw [lowerIn, lowerIn, htail]
    split
    next e =>
      subst e
      rw [List.append_nil, lowerSigma_of_not_loose (by simpa using hc)]
    next => rfl

/-! ## 4. Letters -/

/-- The letters that are put before or behind a text here. -/
def letters : List Char := ['a', 'b']

theorem isPassedOver_letters : ∀ c ∈ letters, isPassedOver c = false := by
  have hnone : ∀ s ∈ [GeneralCategory.nonspacingMark, GeneralCategory.enclosingMark, GeneralCategory.format,
      GeneralCategory.modifierLetter, GeneralCategory.modifierSymbol, CharProperty.wordInner],
      letters.any (s.contains ·.toNat) = false := by
    unfold CodeSet.contains GeneralCategory.nonspacingMark GeneralCategory.enclosingMark GeneralCategory.format
      GeneralCategory.modifierLetter GeneralCategory.modifierSymbol CharProperty.wordInner
    simp only [List.forall_mem_cons]
    repeat rw [CodeSet.ranges_ofHex_cons]
    decide +kernel
  refine fun c hc => Bool.eq_false_iff.mpr fun h => ?_
  obtain ⟨s, hs, h⟩ := CodeSet.of_contains_unions h
  exact List.any_eq_false.mp (hnone s hs) c hc h

open GeneralCategory CharProperty in
theorem ascending_letterTables :
    ∀ s ∈ [lowercaseLetter, otherLowercase, uppercaseLetter, otherUppercase, titlecaseLetter],
      CodeSet.Ascending s.ranges := by
  have hcheck : ∀ s ∈ [lowercaseLetter, otherLowercase, uppercaseLetter, otherUppercase, titlecaseLetter],
      CodeSet.isAscending s.ranges = true := by
    unfold lowercaseLetter otherLowercase uppercaseLetter otherUppercase titlecaseLetter
    simp only [List.forall_mem_cons]
    repeat rw [CodeSet.ranges_ofHex_cons]
    decide +kernel
  exact fun s hs => CodeSet.ascending_of_isAscending (hcheck s hs)

theorem cased_letters : ∀ c ∈ letters, CharProperty.cased.contains c.toNat = true := by
  obtain ⟨hl, hl', hu, hu', ht⟩ := by
    simpa only [List.forall_mem_cons, List.not_mem_nil, false_implies, implies_true, and_true] using
      ascending_letterTables
  have hall : ∀ s ∈ [CharProperty.lowercase, CharProperty.uppercase, GeneralCategory.titlecaseLetter],
      CodeSet.Ascending s.ranges := by
    simp only [List.forall_mem_cons]
    exact ⟨CodeSet.ascending_union hl hl', CodeSet.ascending_union hu hu', ht, fun _ h => nomatch h⟩
  have hletters : letters.all (GeneralCategory.lowercaseLetter.contains ·.toNat) = true := by
    unfold CodeSet.contains GeneralCategory.lowercaseLetter
    repeat rw [CodeSet.ranges_ofHex_cons]
    decide +kernel
  intro c hc
  have hlower : CharProperty.lowercase.contains c.toNat = true :=
    (CodeSet.contains_union_iff hl hl').mpr (Or.inl (List.all_eq_true.mp hletters c hc))
  exact CodeSet.contains_unions hall List.mem_cons_self hlower

theorem casedAhead_letter (hx : x ∈ letters) : casedAhead (x :: u) = true := by
  rw [casedAhead_cons, isPassedOver_letters x hx, if_neg Bool.false_ne_true, cased_letters x hx]

/-! ## 5. Texts that are missed -/

/-- A text with a loose sigma is what stands before the sigma, the sigma, and what stands behind it. -/
theorem exists_loose_of_hasLooseSigma (h : hasLooseSigma u p = true) :
    ∃ l r, p = l ++ capitalSigma :: r ∧ sigmaIsLoose (l.reverse ++ u) r = true := by
  induction p generalizing u with
  | nil => cases h
  | cons c p ih =>
    rcases Bool.or_eq_true_iff.mp h with h | h
    · obtain ⟨hc, hloose⟩ := Bool.and_eq_true_iff.mp h
      exact ⟨[], p, congrArg (· :: p) (eq_of_beq hc), hloose⟩
    · obtain ⟨l, r, rfl, hloose⟩ := ih h
      refine ⟨c :: l, r, rfl, ?_⟩
      rwa [List.reverse_cons, List.append_assoc, List.singleton_append]

/-- Where one sigma has another form, the whole has. -/
theorem lowerIn_ne {u' v' : List Char}
    (h : lowerSigma (l.reverse ++ u) (r ++ v) ≠ lowerSigma (l.reverse ++ u') (r ++ v')) :
    lowerIn u v (l ++ capitalSigma :: r) ≠ lowerIn u' v' (l ++ capitalSigma :: r) := by
  intro e
  rw [lowerIn_append, lowerIn_append] at e
  obtain ⟨-, e⟩ := List.append_inj e (length_lowerIn _ _ _ _ l)
  rw [lowerIn, lowerIn, if_pos rfl, if_pos rfl] at e
  exact h (List.cons.inj e).1

theorem lowerChar_letters : ∀ c ∈ letters, lowerChar c = [c] ∧ c ≠ capitalSigma := by
  simp only [letters, List.forall_mem_cons]
  exact ⟨by decide, by decide, fun _ h => nomatch h⟩

theorem exists_letter_ne (o : Option Char) : ∃ x ∈ letters, some x ≠ o := by
  by_cases ho : o = some 'a'
  · exact ⟨'b', by decide, by rw [ho]; decide⟩
  · exact ⟨'a', by decide, Ne.symm ho⟩

/-- A text of the same length, which is another one, is found behind a letter only if it begins with it. -/
theorem not_infix_cons {a b : List Char} (hlen : a.length = b.length) (hne : a ≠ b) (hx : some x ≠ a.head?)
    (ha : a ≠ []) : ¬ a <:+: x :: b := by
  rintro h
  rcases List.infix_cons_iff.mp h with h | h
  · obtain ⟨rest, e⟩ := h
    cases a with
    | nil => exact ha rfl
    | cons c a => exact hx (congrArg some (List.cons.inj e).1.symm)
  · exact hne (h.eq_of_length hlen)

theorem not_infix_concat {a b : List Char} (hlen : a.length = b.length) (hne : a ≠ b) (hx : some x ≠ a.getLast?)
    (ha : a ≠ []) : ¬ a <:+: b ++ [x] := by
  rintro h
  rcases List.infix_concat_iff.mp h with h | h
  · rcases List.suffix_concat_iff.mp h with h | ⟨rest, e, -⟩
    · exact ha h
    · exact hx (by rw [e, List.getLast?_concat])
  · exact hne (h.eq_of_length hlen)

/-- **A text with a loose sigma is missed** behind a letter, or before one. -/
theorem exists_missed_of_loose (h : hasLooseSigma [] p = true) :
    ∃ value, p <:+: value ∧ ¬ lowerFrom [] p <:+: lowerFrom [] value := by
  obtain ⟨l, r, rfl, hloose⟩ := exists_loose_of_hasLooseSigma h
  rw [List.append_nil] at hloose
  generalize hp : l ++ capitalSigma :: r = p
  have hform : lowerFrom [] p = lowerIn [] [] p := lowerFrom_eq_lowerIn p
  have hne : lowerFrom [] p ≠ [] := by
    rw [hform, ← hp, lowerIn_append, lowerIn, if_pos rfl]
    exact List.append_ne_nil_of_right_ne_nil _ (List.cons_ne_nil _ _)
  rcases Bool.or_eq_true_iff.mp hloose with hbefore | hafter
  · -- alone the sigma is no final one; behind a letter it is
    obtain ⟨hall, hahead⟩ := Bool.and_eq_true_iff.mp hbefore
    obtain ⟨x, hx, hhead⟩ := exists_letter_ne (lowerFrom [] p).head?
    obtain ⟨hlower, hsigma⟩ := lowerChar_letters x hx
    have hvalue : lowerFrom [] (x :: p) = x :: lowerIn [x] [] p := by
      rw [lowerFrom, if_neg hsigma, hlower, lowerFrom_eq_lowerIn, List.singleton_append]
    have halone : lowerSigma l.reverse r = 'σ' := by
      rw [lowerSigma, casedAhead_of_all hall]
      rfl
    have hbehind : lowerSigma (l.reverse ++ [x]) r = 'ς' := by
      rw [lowerSigma, casedAhead_append, if_pos hall, casedAhead_letter hx, hahead]
      rfl
    have hother : lowerIn [] [] p ≠ lowerIn [x] [] p := by
      rw [← hp]
      refine lowerIn_ne ?_
      rw [List.append_nil, List.append_nil, halone, hbehind]
      decide
    refine ⟨x :: p, (List.suffix_cons x p).isInfix, ?_⟩
    rw [hvalue]
    exact not_infix_cons (hform ▸ length_lowerIn _ _ _ _ p) (hform ▸ hother) hhead hne
  · -- alone the sigma is a final one; before a letter it is none
    obtain ⟨hahead, hall⟩ := Bool.and_eq_true_iff.mp hafter
    obtain ⟨x, hx, hlast⟩ := exists_letter_ne (lowerFrom [] p).getLast?
    obtain ⟨hlower, hsigma⟩ := lowerChar_letters x hx
    have hvalue : lowerFrom [] (p ++ [x]) = lowerIn [] [x] p ++ [x] := by
      rw [lowerFrom_append, lowerFrom, if_neg hsigma, hlower]
      rfl
    have halone : lowerSigma l.reverse r = 'ς' := by
      rw [lowerSigma, hahead, casedAhead_of_all hall]
      rfl
    have hbefore : lowerSigma l.reverse (r ++ [x]) = 'σ' := by
      rw [lowerSigma, casedAhead_append, if_pos hall, casedAhead_letter hx, Bool.not_true, Bool.and_false]
      rfl
    have hother : lowerIn [] [] p ≠ lowerIn [] [x] p := by
      rw [← hp]
      refine lowerIn_ne ?_
      rw [List.append_nil, List.append_nil, halone, hbefore]
      decide
    refine ⟨p ++ [x], (List.prefix_append p [x]).isInfix, ?_⟩
    rw [hvalue]
    exact not_infix_concat (hform ▸ length_lowerIn _ _ _ _ p) (hform ▸ hother) hlast hne

/-! ## 6. Substring queries -/

namespace NodeQuery

theorem accepts_substring_iff (text value : String) : (substring text).matcher.accepts value = true ↔
    lowerFrom [] text.toList <:+: lowerFrom [] value.toList := by
  show occursIn (lowercase text).toList (lowercase value).toList = true ↔ _
  rw [occursIn_iff, lowercase, lowercase, String.toList_ofList, String.toList_ofList]

theorem matches_substring_iff (text : String) (node : GroupNode) (columns : List Column) :
    (substring text).matches node columns = true ↔ ∃ i < max node.display.length 1,
      lowerFrom [] text.toList <:+: lowerFrom [] (node.column i).toList := by
  show ((List.range (max node.display.length 1)).any fun i => _) = true ↔ _
  simp only [List.any_eq_true, List.mem_range, accepts_substring_iff]

/-- **Which texts a substring query always finds.** Whatever the node, and in whatever column the text is a
    piece of what is shown, the query keeps the node, exactly if no capital sigma of the text is loose. -/
theorem substring_finds_iff (text : String) :
    (∀ (node : GroupNode) (columns : List Column) (i : Nat), i < node.display.length →
      text.toList <:+: (node.column i).toList → (substring text).matches node columns = true) ↔
    hasLooseSigma [] text.toList = false := by
  constructor
  · intro hfinds
    refine Bool.eq_false_iff.mpr fun hloose => ?_
    obtain ⟨value, hinfix, hmissed⟩ := exists_missed_of_loose hloose
    let node : GroupNode := { key := GroupKey.compose [String.ofList value], display := [String.ofList value] }
    have hshown : (node.column 0).toList = value := by
      have hvalue : ¬ (String.ofList value).isEmpty = true := by
        rw [String.isEmpty_iff, ← String.toList_inj, String.toList_ofList]
        rintro rfl
        exact hmissed (by rw [List.infix_nil.mp hinfix]; exact List.infix_rfl)
      show (if (String.ofList value).isEmpty then GroupNode.placeholder else String.ofList value).toList = value
      rw [if_neg hvalue, String.toList_ofList]
    have hkept := hfinds node [] 0 Nat.one_pos (hshown.symm ▸ hinfix)
    obtain ⟨i, hi, hfound⟩ := (matches_substring_iff text node []).mp hkept
    obtain rfl : i = 0 := Nat.lt_one_iff.mp hi
    exact hmissed (hshown ▸ hfound)
  · rintro hloose node columns i hi ⟨u, v, e⟩
    refine (matches_substring_iff text node columns).mpr ⟨i, Nat.lt_of_lt_of_le hi (Nat.le_max_left _ _), ?_⟩
    have hform : lowerFrom [] text.toList = lowerIn u.reverse v text.toList := by
      rw [lowerFrom_eq_lowerIn]
      exact (lowerIn_of_not_loose (l := []) hloose).symm
    rw [← e, List.append_assoc, lowerFrom_append, lowerFrom_append, hform, List.append_nil]
    exact ⟨_, _, List.append_assoc _ _ _⟩

/-- A sigma at the end of what is typed is taken for the end of a word, which it is not in the value. -/
theorem substring_misses_word_start :
    "aΣ".toList <:+: (GroupNode.column { key := ⟨"aΣa"⟩, display := ["aΣa"] } 0).toList ∧
      (substring "aΣ").matches { key := ⟨"aΣa"⟩, display := ["aΣa"] } [] = false := by
  have hshown : (GroupNode.column { key := ⟨"aΣa"⟩, display := ["aΣa"] } 0).toList = ['a', 'Σ', 'a'] := by decide
  have htyped : "aΣ".toList = ['a', 'Σ'] := by decide
  have hlower : lowerChar 'a' = ['a'] := rfl
  have hahead (u : List Char) : casedAhead ('a' :: u) = true := casedAhead_letter (by decide)
  have hend : casedAhead [] = false := rfl
  have htext : lowerFrom [] ['a', 'Σ'] = ['a', 'ς'] := by
    simp [lowerFrom, capitalSigma, hlower, hahead, hend]
  have hvalue : lowerFrom [] ['a', 'Σ', 'a'] = ['a', 'σ', 'a'] := by
    simp [lowerFrom, capitalSigma, hlower, hahead]
  rw [hshown, htyped]
  refine ⟨List.infix_append [] ['a', 'Σ'] ['a'], Bool.eq_false_iff.mpr fun h => ?_⟩
  obtain ⟨i, hi, hfound⟩ := (matches_substring_iff _ _ _).mp h
  obtain rfl : i = 0 := Nat.lt_one_iff.mp hi
  rw [hshown, htyped, htext, hvalue] at hfound
  exact absurd hfound (by decide)

end NodeQuery

end MediaIndex
