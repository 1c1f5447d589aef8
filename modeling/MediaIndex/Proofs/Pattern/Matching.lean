import Mathlib.Logic.Function.Iterate
import MediaIndex.Regex.Match

/-!
# Matching is what expressions mean

A walk finds the places that a match can end at. It finds all of them and no others, for every expression
whose counts are in order.

* `MatchesTimes.append`, `MatchesTimes.shorten` -- rounds of a repetition: put together, and those that
  stay in place left out;
* `Regex.Counted` -- no count goes from more to less;
* `testBit_reach` -- the places that are reached, by induction on the expression;
* `isMatch_iff` -- some stretch of the text matches.
-/

namespace MediaIndex.Regex

variable {text : List Char} {r : Regex}

/-! ## 1. Sets of places -/

theorem testBit_ofBits (bs : List Bool) (i : Nat) : (ofBits bs).testBit i = bs[i]?.getD false := by
  induction bs generalizing i with
  | nil => simp [ofBits]
  | cons b bs ih =>
    cases i with
    | zero => cases b <;> simp [ofBits, Nat.testBit_zero]
    | succ i =>
      have hhalf : ((if b then 1 else 0) + 2 * ofBits bs) / 2 = ofBits bs := by
        cases b with
        | false => simp
        | true => simp; omega
      rw [ofBits, Nat.testBit_succ, hhalf, ih, List.getElem?_cons_succ]

theorem testBit_placesBefore (text : List Char) (s : CodeSet) (i : Nat) :
    (placesBefore text s).testBit i = true ↔ ∃ c, text[i]? = some c ∧ s.contains c.toNat = true := by
  rw [placesBefore, testBit_ofBits, List.getElem?_map]
  cases text[i]? <;> simp

/-- Every place up to the end of the text has characters around it, if there are any. -/
theorem getElem?_surroundings (text : List Char) (i : Nat) :
    (surroundings text)[i]? = if i ≤ text.length then some (around text i) else none := by
  have hlen : (surroundings text).length = text.length + 1 := by simp [surroundings]
  split
  · rename_i hi
    refine List.getElem?_zip_eq_some.mpr ⟨?_, ?_⟩
    · cases i with
      | zero => rfl
      | succ i => simp [around, Nat.lt_of_succ_le hi]
    · rcases Nat.lt_or_eq_of_le hi with hlt | rfl
      · simp [around, List.getElem?_append, hlt]
      · simp [around]
  · rename_i hi
    exact List.getElem?_eq_none (by omega)

theorem testBit_placesOf (text : List Char) (l : Look) (i : Nat) : (placesOf text l).testBit i = true ↔
    i ≤ text.length ∧ l.holds (around text i).1 (around text i).2 = true := by
  rw [placesOf, testBit_ofBits, List.getElem?_map, getElem?_surroundings]
  by_cases hi : i ≤ text.length <;> simp [hi]

theorem testBit_allPlaces (text : List Char) (i : Nat) :
    (allPlaces text).testBit i = true ↔ i ≤ text.length := by
  have h : (allPlaces text).testBit i = decide (i < text.length + 1) :=
    Nat.testBit_two_pow_sub_one _ _
  rw [h, decide_eq_true_eq, Nat.lt_succ_iff]

/-- A set of places of the text. -/
def OfPlaces (text : List Char) (s : Nat) : Prop := ∀ i, s.testBit i = true → i ≤ text.length

/-! ## 2. Rounds of a repetition -/

theorem iterate_eq (f : Nat → Nat) (n s : Nat) : iterate f n s = f^[n] s := by
  induction n generalizing s with
  | zero => rfl
  | succ n ih =>
    rw [iterate, Function.iterate_succ_apply]
    split
    · rename_i hfix
      rw [hfix, Function.iterate_fixed hfix]
    · exact ih _

theorem matchesTimes_zero_iff {i j : Nat} :
    MatchesTimes text r 0 i j ↔ i ≤ text.length ∧ i = j := by
  constructor
  · rintro ⟨h⟩
    exact ⟨h, rfl⟩
  · rintro ⟨h, rfl⟩
    exact .zero h

theorem matchesTimes_succ_iff {n i k : Nat} :
    MatchesTimes text r (n + 1) i k ↔ ∃ j, Matches text r i j ∧ MatchesTimes text r n j k := by
  constructor
  · intro h
    cases h with
    | succ hr h => exact ⟨_, hr, h⟩
  · rintro ⟨j, hr, h⟩
    exact .succ hr h

/-- Rounds go on from where they start, within the text, if one round does. -/
theorem MatchesTimes.bounds_of {n i j : Nat}
    (hr : ∀ i j, Matches text r i j → i ≤ j ∧ j ≤ text.length) (h : MatchesTimes text r n i j) :
    i ≤ j ∧ j ≤ text.length := by
  induction n generalizing i with
  | zero =>
    obtain ⟨hi, rfl⟩ := matchesTimes_zero_iff.mp h
    exact ⟨Nat.le_refl i, hi⟩
  | succ n ih =>
    obtain ⟨k, hk, h⟩ := matchesTimes_succ_iff.mp h
    exact ⟨Nat.le_trans (hr i k hk).1 (ih h).1, (ih h).2⟩

/-- **A match goes on from where it starts**, within the text. -/
theorem Matches.bounds {i j : Nat} (h : Matches text r i j) : i ≤ j ∧ j ≤ text.length := by
  induction r generalizing i j with
  | empty =>
    cases h with
    | empty hi => exact ⟨Nat.le_refl i, hi⟩
  | set s =>
    cases h with
    | set hc hs =>
      have hlt := (List.getElem?_eq_some_iff.mp hc).1
      exact ⟨Nat.le_succ i, hlt⟩
  | look l =>
    cases h with
    | look hi hl => exact ⟨Nat.le_refl i, hi⟩
  | cat a b iha ihb =>
    cases h with
    | cat ha hb => exact ⟨Nat.le_trans (iha ha).1 (ihb hb).1, (ihb hb).2⟩
  | alt a b iha ihb =>
    cases h with
    | altLeft h => exact iha h
    | altRight h => exact ihb h
  | repeated r least most ih =>
    cases h with
    | repeated hl hm h => exact h.bounds_of fun i j hr => ih hr

theorem MatchesTimes.bounds {n i j : Nat} (h : MatchesTimes text r n i j) :
    i ≤ j ∧ j ≤ text.length := h.bounds_of fun _ _ hr => hr.bounds

theorem MatchesTimes.append {m n i j k : Nat} (h : MatchesTimes text r m i j)
    (h' : MatchesTimes text r n j k) : MatchesTimes text r (m + n) i k := by
  induction m generalizing i with
  | zero =>
    obtain ⟨-, rfl⟩ := matchesTimes_zero_iff.mp h
    rwa [Nat.zero_add]
  | succ m ih =>
    obtain ⟨l, hr, h⟩ := matchesTimes_succ_iff.mp h
    rw [Nat.add_right_comm]
    exact .succ hr (ih h)

theorem MatchesTimes.split {m n i k : Nat} (h : MatchesTimes text r (m + n) i k) :
    ∃ j, MatchesTimes text r m i j ∧ MatchesTimes text r n j k := by
  induction m generalizing i with
  | zero =>
    rw [Nat.zero_add] at h
    exact ⟨i, .zero (Nat.le_trans h.bounds.1 h.bounds.2), h⟩
  | succ m ih =>
    rw [Nat.add_right_comm] at h
    obtain ⟨l, hr, h⟩ := matchesTimes_succ_iff.mp h
    obtain ⟨j, hm, hn⟩ := ih h
    exact ⟨j, .succ hr hm, hn⟩

/-- **No more rounds are needed than there are places between**: a round that stays in place can be left
    out. -/
theorem MatchesTimes.shorten {n i j : Nat} (h : MatchesTimes text r n i j) :
    ∃ m ≤ j - i, MatchesTimes text r m i j := by
  induction n generalizing i with
  | zero => exact ⟨0, Nat.zero_le _, by rwa [matchesTimes_zero_iff] at h ⊢⟩
  | succ n ih =>
    obtain ⟨k, hr, h⟩ := matchesTimes_succ_iff.mp h
    obtain ⟨m, hm, h'⟩ := ih h
    rcases Nat.eq_or_lt_of_le hr.bounds.1 with rfl | hlt
    · exact ⟨m, hm, h'⟩
    · have hkj := h'.bounds.1
      exact ⟨m + 1, by omega, .succ hr h'⟩

/-! ## 3. Places that are reached -/

section Rounds

variable {step : Nat → Nat}
  (hstep : ∀ s, OfPlaces text s → ∀ j, (step s).testBit j = true ↔
    ∃ i, s.testBit i = true ∧ Matches text r i j)

include hstep

theorem ofPlaces_step {s : Nat} (hs : OfPlaces text s) : OfPlaces text (step s) := by
  intro j hj
  obtain ⟨i, -, hm⟩ := (hstep s hs j).mp hj
  exact hm.bounds.2

/-- A step taken `n` times reaches what `n` rounds match. -/
theorem testBit_iterate {s : Nat} (hs : OfPlaces text s) (n j : Nat) :
    (step^[n] s).testBit j = true ↔ ∃ i, s.testBit i = true ∧ MatchesTimes text r n i j := by
  induction n generalizing s with
  | zero =>
    simp only [Function.iterate_zero, id, matchesTimes_zero_iff]
    exact ⟨fun h => ⟨j, h, hs j h, rfl⟩, fun ⟨i, h, _, e⟩ => e ▸ h⟩
  | succ n ih =>
    rw [Function.iterate_succ_apply, ih (ofPlaces_step hstep hs)]
    constructor
    · rintro ⟨k, hk, h⟩
      obtain ⟨i, hi, hr⟩ := (hstep s hs k).mp hk
      exact ⟨i, hi, .succ hr h⟩
    · rintro ⟨i, hi, h⟩
      obtain ⟨k, hr, h⟩ := matchesTimes_succ_iff.mp h
      exact ⟨k, (hstep s hs k).mpr ⟨i, hi, hr⟩, h⟩

/-- A step added `n` times reaches what up to `n` rounds match. -/
theorem testBit_iterate_or {s : Nat} (hs : OfPlaces text s) (n j : Nat) :
    ((fun s => s ||| step s)^[n] s).testBit j = true ↔
      ∃ i, s.testBit i = true ∧ ∃ m ≤ n, MatchesTimes text r m i j := by
  induction n generalizing s with
  | zero =>
    simp only [Function.iterate_zero, id, Nat.le_zero]
    constructor
    · exact fun h => ⟨j, h, 0, rfl, .zero (hs j h)⟩
    · rintro ⟨i, hi, m, rfl, h⟩
      exact (matchesTimes_zero_iff.mp h).2 ▸ hi
  | succ n ih =>
    have hnext : OfPlaces text (s ||| step s) := by
      intro i hi
      rw [Nat.testBit_or, Bool.or_eq_true] at hi
      exact hi.elim (hs i) (ofPlaces_step hstep hs i)
    rw [Function.iterate_succ_apply, ih hnext]
    simp only [Nat.testBit_or, Bool.or_eq_true, hstep s hs]
    constructor
    · rintro ⟨k, hk | ⟨i, hi, hr⟩, m, hm, h⟩
      · exact ⟨k, hk, m, Nat.le_succ_of_le hm, h⟩
      · exact ⟨i, hi, m + 1, Nat.succ_le_succ hm, .succ hr h⟩
    · rintro ⟨i, hi, m, hm, h⟩
      cases m with
      | zero => exact ⟨i, Or.inl hi, 0, Nat.zero_le n, h⟩
      | succ m =>
        obtain ⟨k, hr, h⟩ := matchesTimes_succ_iff.mp h
        exact ⟨k, Or.inr ⟨i, hi, hr⟩, m, Nat.le_of_succ_le_succ hm, h⟩

end Rounds

/-- No count of a repetition goes from more to less. -/
def Counted : Regex → Prop
  | .cat a b => a.Counted ∧ b.Counted
  | .alt a b => a.Counted ∧ b.Counted
  | .repeated r least most => r.Counted ∧ ∀ m, most = some m → least ≤ m
  | _ => True

/-- A repetition is its least number of rounds and then some more, of which as many do as the text has
    places or the counts leave. -/
theorem matches_repeated_iff {least : Nat} {most : Option Nat} (hc : ∀ m, most = some m → least ≤ m)
    {i j : Nat} : Matches text (.repeated r least most) i j ↔
      ∃ k, MatchesTimes text r least i k ∧
        ∃ m ≤ most.elim (text.length + 1) (· - least), MatchesTimes text r m k j := by
  constructor
  · intro h
    cases h with
    | repeated hl hm h =>
      rename_i n
      obtain ⟨rest, rfl⟩ := Nat.exists_eq_add_of_le hl
      obtain ⟨k, hfirst, hrest⟩ := h.split
      cases most with
      | none =>
        obtain ⟨m, hle, h⟩ := hrest.shorten
        have hj := h.bounds.2
        refine ⟨k, hfirst, m, ?_, h⟩
        show m ≤ text.length + 1
        omega
      | some most =>
        have hle := hm most rfl
        refine ⟨k, hfirst, rest, ?_, hrest⟩
        show rest ≤ most - least
        omega
  · rintro ⟨k, hfirst, m, hm, hrest⟩
    refine .repeated (Nat.le_add_right least m) (fun most e => ?_) (hfirst.append hrest)
    subst e
    have hle := hc most rfl
    have hm : m ≤ most - least := hm
    omega

/-- **The places that are reached from some places are those where a match ends that starts at one of
    them.** -/
theorem testBit_reach (hc : r.Counted) {s : Nat} (hs : OfPlaces text s) (j : Nat) :
    (r.reach text s).testBit j = true ↔ ∃ i, s.testBit i = true ∧ Matches text r i j := by
  induction r generalizing s j with
  | empty =>
    refine ⟨fun h => ⟨j, h, .empty (hs j h)⟩, ?_⟩
    rintro ⟨i, hi, ⟨_⟩⟩
    exact hi
  | set c =>
    have e : (Regex.set c).reach text s = (s &&& placesBefore text c) <<< 1 := rfl
    rw [e, Nat.testBit_shiftLeft, Bool.and_eq_true, decide_eq_true_eq, Nat.testBit_and, Bool.and_eq_true,
      testBit_placesBefore]
    constructor
    · rintro ⟨hj, hi, c, hc, hin⟩
      obtain ⟨i, rfl⟩ := Nat.exists_eq_add_of_le' hj
      exact ⟨i, hi, .set hc hin⟩
    · rintro ⟨i, hi, h⟩
      cases h with
      | set hc hin => exact ⟨Nat.le_add_left 1 i, hi, _, hc, hin⟩
  | look l =>
    have e : (Regex.look l).reach text s = s &&& placesOf text l := rfl
    rw [e, Nat.testBit_and, Bool.and_eq_true, testBit_placesOf]
    constructor
    · rintro ⟨hj, hi, hl⟩
      exact ⟨j, hj, .look hi hl⟩
    · rintro ⟨i, hi, h⟩
      cases h with
      | look h hl => exact ⟨hi, h, hl⟩
  | cat a b iha ihb =>
    have e : (Regex.cat a b).reach text s = b.reach text (a.reach text s) := rfl
    rw [e, ihb hc.2 (ofPlaces_step (fun s hs j => iha hc.1 hs j) hs)]
    constructor
    · rintro ⟨k, hk, hb⟩
      obtain ⟨i, hi, ha⟩ := (iha hc.1 hs k).mp hk
      exact ⟨i, hi, .cat ha hb⟩
    · rintro ⟨i, hi, h⟩
      cases h with
      | cat ha hb => exact ⟨_, (iha hc.1 hs _).mpr ⟨i, hi, ha⟩, hb⟩
  | alt a b iha ihb =>
    have e : (Regex.alt a b).reach text s = a.reach text s ||| b.reach text s := rfl
    rw [e, Nat.testBit_or, Bool.or_eq_true, iha hc.1 hs, ihb hc.2 hs]
    constructor
    · rintro (⟨i, hi, h⟩ | ⟨i, hi, h⟩)
      · exact ⟨i, hi, .altLeft h⟩
      · exact ⟨i, hi, .altRight h⟩
    · rintro ⟨i, hi, h⟩
      cases h with
      | altLeft h => exact Or.inl ⟨i, hi, h⟩
      | altRight h => exact Or.inr ⟨i, hi, h⟩
  | repeated r least most ih =>
    have hstep : ∀ s, OfPlaces text s → ∀ j, (r.reach text s).testBit j = true ↔
        ∃ i, s.testBit i = true ∧ Matches text r i j := fun s hs j => ih hc.1 hs j
    have e : (Regex.repeated r least most).reach text s =
        (fun s => s ||| r.reach text s)^[most.elim (text.length + 1) (· - least)]
          ((r.reach text)^[least] s) := by
      rw [← iterate_eq, ← iterate_eq]
      cases most <;> rfl
    have hfirst : OfPlaces text ((r.reach text)^[least] s) := fun k hk =>
      have ⟨_, _, h⟩ := (testBit_iterate hstep hs least k).mp hk
      h.bounds.2
    rw [e, testBit_iterate_or hstep hfirst]
    simp only [testBit_iterate hstep hs, matches_repeated_iff hc.2]
    constructor
    · rintro ⟨k, ⟨i, hi, h⟩, hrest⟩
      exact ⟨i, hi, k, h, hrest⟩
    · rintro ⟨i, hi, k, h, hrest⟩
      exact ⟨k, ⟨i, hi, h⟩, hrest⟩

/-- **An expression whose counts are in order is found in a text exactly when some stretch of the text
    matches it.** -/
theorem isMatch_iff (hc : r.Counted) (text : List Char) :
    r.isMatch text = true ↔ ∃ i j, Matches text r i j := by
  have hall : OfPlaces text (allPlaces text) := fun i hi => (testBit_allPlaces text i).mp hi
  rw [isMatch, bne_iff_ne]
  constructor
  · intro h
    obtain ⟨j, hj⟩ := Nat.exists_testBit_of_ne_zero h
    obtain ⟨i, -, h⟩ := (testBit_reach hc hall j).mp hj
    exact ⟨i, j, h⟩
  · rintro ⟨i, j, h⟩
    have hi := (testBit_allPlaces text i).mpr (Nat.le_trans h.bounds.1 h.bounds.2)
    have hj := (testBit_reach hc hall j).mpr ⟨i, hi, h⟩
    intro hnone
    rw [hnone, Nat.zero_testBit] at hj
    cases hj

end MediaIndex.Regex
