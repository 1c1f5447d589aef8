import Mathlib.Data.List.Forall2
import MediaIndex.Proofs.Pattern.Matching
import MediaIndex.Proofs.Text.Folding
import MediaIndex.Query.Basic

/-!
# Glob patterns take values piece by piece

A value is accepted when it falls into consecutive pieces of which every character of the pattern takes
one. The pattern is written as a regular expression, with a backslash before what has a meaning of its
own there, and read back.

* `Glob.Divides` -- the pieces; `accepts_iff_divides` -- acceptance says just this;
* `Glob.isMatch_toRegex` -- the expression is found in the values that are accepted;
* `Glob.ofPattern_source` -- what is written is read as that expression;
* `NodeQuery.wildcard_accepts_iff_divides` -- what a wildcard query accepts.
-/

namespace MediaIndex.Glob

open Regex

variable {p v text : List Char} {a c : Char}

/-! ## 1. Pieces of a value -/

/-- What a character of a pattern takes of a value, where `wild` are the characters that a wildcard may
    take: a star takes any run of them, a question mark one, and any other character one that is the same up
    to simple case folding. -/
def Takes (wild : Char → Bool) (a : Char) (piece : List Char) : Prop :=
  if a = '*' then ∀ c ∈ piece, wild c = true
  else if a = '?' then ∃ c, piece = [c] ∧ wild c = true
  else ∃ c, piece = [c] ∧ SimpleFold.sameFold a c = true

/-- The value falls into consecutive pieces, of which each character of the pattern takes one. -/
def Divides (wild : Char → Bool) (pattern value : List Char) : Prop :=
  ∃ pieces : List (List Char), pieces.flatten = value ∧ List.Forall₂ (Takes wild) pattern pieces

theorem divides_nil_iff {wild : Char → Bool} : Divides wild [] v ↔ v = [] := by
  constructor
  · rintro ⟨pieces, rfl, h⟩
    cases h
    rfl
  · rintro rfl
    exact ⟨[], rfl, .nil⟩

theorem divides_cons_iff {wild : Char → Bool} : Divides wild (a :: p) v ↔
    ∃ piece rest, v = piece ++ rest ∧ Takes wild a piece ∧ Divides wild p rest := by
  constructor
  · rintro ⟨pieces, rfl, h⟩
    cases h with
    | cons ha h => exact ⟨_, _, List.flatten_cons, ha, _, rfl, h⟩
  · rintro ⟨piece, rest, rfl, ha, pieces, rfl, h⟩
    exact ⟨piece :: pieces, List.flatten_cons, .cons ha h⟩

theorem Takes.imp {wild wild' : Char → Bool} {piece : List Char}
    (hw : ∀ c ∈ piece, wild c = true → wild' c = true) (h : Takes wild a piece) : Takes wild' a piece := by
  unfold Takes at h ⊢
  split_ifs at h ⊢
  · exact fun c hc => hw c hc (h c hc)
  · obtain ⟨c, rfl, hc⟩ := h
    exact ⟨c, rfl, hw c List.mem_cons_self hc⟩
  · exact h

/-- What wildcards may take counts for the characters of the value only. -/
theorem Divides.imp {wild wild' : Char → Bool} (hw : ∀ c ∈ v, wild c = true → wild' c = true)
    (h : Divides wild p v) : Divides wild' p v := by
  induction p generalizing v with
  | nil => exact divides_nil_iff.mpr (divides_nil_iff.mp h)
  | cons a p ih =>
    obtain ⟨piece, rest, rfl, ha, h⟩ := divides_cons_iff.mp h
    refine divides_cons_iff.mpr ⟨piece, rest, rfl, ha.imp fun c hc => ?_, ih (fun c hc => ?_) h⟩
    · exact hw c (List.mem_append_left _ hc)
    · exact hw c (List.mem_append_right _ hc)

theorem accepts_star_iff : Accepts ('*' :: p) v ↔
    ∃ piece rest, v = piece ++ rest ∧ (∀ c ∈ piece, isPlain c = true) ∧ Accepts p rest := by
  constructor
  · intro h
    induction v with
    | nil =>
      cases h with
      | starDone h => exact ⟨[], [], rfl, fun c hc => absurd hc List.not_mem_nil, h⟩
    | cons c v ih =>
      cases h with
      | starDone h => exact ⟨[], c :: v, rfl, fun c hc => absurd hc List.not_mem_nil, h⟩
      | starMore hc h =>
        obtain ⟨piece, rest, rfl, hp, h⟩ := ih h
        exact ⟨c :: piece, rest, rfl, List.forall_mem_cons.mpr ⟨hc, hp⟩, h⟩
      | same hs => exact absurd rfl hs
  · rintro ⟨piece, rest, rfl, hp, h⟩
    induction piece with
    | nil => exact .starDone h
    | cons c piece ih =>
      obtain ⟨hc, hp⟩ := List.forall_mem_cons.mp hp
      exact .starMore hc (ih hp)

/-- **A pattern accepts what its first character takes, and then what the rest accepts.** -/
theorem accepts_cons_iff : Accepts (a :: p) v ↔
    ∃ piece rest, v = piece ++ rest ∧ Takes isPlain a piece ∧ Accepts p rest := by
  by_cases hs : a = '*'
  · subst hs
    exact accepts_star_iff
  by_cases hq : a = '?'
  · subst hq
    simp only [Takes, if_neg hs, if_pos]
    constructor
    · intro h
      cases h with
      | one hc h => exact ⟨_, _, rfl, ⟨_, rfl, hc⟩, h⟩
      | same _ hq => exact absurd rfl hq
    · rintro ⟨_, rest, rfl, ⟨c, rfl, hc⟩, h⟩
      exact .one hc h
  · simp only [Takes, if_neg hs, if_neg hq]
    constructor
    · intro h
      cases h with
      | starDone => exact absurd rfl hs
      | starMore => exact absurd rfl hs
      | one => exact absurd rfl hq
      | same _ _ hc h => exact ⟨_, _, rfl, ⟨_, rfl, hc⟩, h⟩
    · rintro ⟨_, rest, rfl, ⟨c, rfl, hc⟩, h⟩
      exact .same hs hq hc h

theorem accepts_iff_divides : Accepts p v ↔ Divides isPlain p v := by
  induction p generalizing v with
  | nil =>
    rw [divides_nil_iff]
    constructor
    · rintro ⟨⟩
      rfl
    · rintro rfl
      exact .nil
  | cons a p ih => simp only [accepts_cons_iff, divides_cons_iff, ih]

/-! ## 2. What the expression matches -/

theorem contains_plainSet (c : Char) : plainSet.contains c.toNat = isPlain c := by
  have hlast : c.toNat ≤ CodeSet.lastCode := by
    have hvalid : c.toNat.isValidChar := c.valid
    unfold Nat.isValidChar at hvalid
    unfold CodeSet.lastCode
    omega
  have hfeed : isPlain c = true ↔ c.toNat ≠ 10 := by
    rw [isPlain, bne_iff_ne, ne_eq, ← Char.toNat_inj]
    rfl
  rw [Bool.eq_iff_iff, hfeed, CodeSet.contains_iff]
  show CodeSet.Held [⟨0, 9⟩, ⟨11, CodeSet.lastCode⟩] c.toNat ↔ _
  rw [CodeSet.held_cons_iff, CodeSet.held_cons_iff]
  simp only [CodeSet.Held, List.not_mem_nil, false_and, exists_false, or_false]
  omega

theorem matches_set_iff {s : CodeSet} {i k : Nat} : Matches text (.set s) i k ↔
    ∃ c rest, text.drop i = c :: rest ∧ k = i + 1 ∧ s.contains c.toNat = true := by
  constructor
  · intro h
    cases h with
    | set hc hs =>
      rw [← List.head?_drop, List.head?_eq_some_iff] at hc
      obtain ⟨rest, e⟩ := hc
      exact ⟨_, rest, e, rfl, hs⟩
  · rintro ⟨c, rest, e, rfl, hs⟩
    refine .set ?_ hs
    rw [← List.head?_drop, e, List.head?_cons]

theorem matchesTimes_set_iff {s : CodeSet} {n i k : Nat} : MatchesTimes text (.set s) n i k ↔
    i ≤ text.length ∧ ∃ piece rest, text.drop i = piece ++ rest ∧ piece.length = n ∧ k = i + n ∧
      ∀ c ∈ piece, s.contains c.toNat = true := by
  induction n generalizing i with
  | zero =>
    rw [matchesTimes_zero_iff]
    constructor
    · rintro ⟨hi, rfl⟩
      exact ⟨hi, [], text.drop i, rfl, rfl, rfl, fun c hc => absurd hc List.not_mem_nil⟩
    · rintro ⟨hi, -, -, -, -, rfl, -⟩
      exact ⟨hi, rfl⟩
  | succ n ih =>
    simp only [matchesTimes_succ_iff, matches_set_iff, ih]
    constructor
    · rintro ⟨_, ⟨c, rest, e, rfl, hc⟩, hi, piece, rest', e', rfl, rfl, hp⟩
      have hrest : rest = piece ++ rest' := by
        rw [← e', ← List.drop_drop, e, List.drop_one, List.tail_cons]
      exact ⟨by omega, c :: piece, rest', by rw [e, hrest, List.cons_append], rfl, by omega,
        List.forall_mem_cons.mpr ⟨hc, hp⟩⟩
    · rintro ⟨hi, _ | ⟨c, piece⟩, rest, e, hlen, rfl, hp⟩
      · cases hlen
      · obtain ⟨hc, hp⟩ := List.forall_mem_cons.mp hp
        have hlt : i < text.length := by
          refine Nat.lt_of_not_le fun hle => ?_
          rw [List.drop_eq_nil_of_le hle] at e
          cases e
        refine ⟨i + 1, ⟨c, piece ++ rest, e, rfl, hc⟩, hlt, piece, rest, ?_, Nat.succ.inj hlen, by omega, hp⟩
        rw [← List.drop_drop, e, List.drop_one, List.cons_append, List.tail_cons]

/-- **The expression for a character of a pattern matches what the character takes.** -/
theorem matches_charRegex_iff {i k : Nat} : Matches text (charRegex a) i k ↔ i ≤ text.length ∧
    ∃ piece rest, text.drop i = piece ++ rest ∧ k = i + piece.length ∧ Takes isPlain a piece := by
  -- a place before a character of the text is in the text
  have hle {c : Char} {rest : List Char} (e : text.drop i = c :: rest) : i ≤ text.length := by
    refine Nat.le_of_not_le fun hle => ?_
    rw [List.drop_eq_nil_of_le hle] at e
    cases e
  have hone (s : CodeSet) (P : Char → Prop) (hP : ∀ c : Char, s.contains c.toNat = true ↔ P c) :
      Matches text (.set s) i k ↔ i ≤ text.length ∧ ∃ piece rest, text.drop i = piece ++ rest ∧
        k = i + piece.length ∧ ∃ c, piece = [c] ∧ P c := by
    rw [matches_set_iff]
    constructor
    · rintro ⟨c, rest, e, rfl, hc⟩
      exact ⟨hle e, [c], rest, e, rfl, c, rfl, (hP c).mp hc⟩
    · rintro ⟨-, _, rest, e, rfl, c, rfl, hc⟩
      exact ⟨c, rest, e, rfl, (hP c).mpr hc⟩
  by_cases hs : a = '*'
  · subst hs
    show Matches text (.repeated (.set plainSet) 0 none) i k ↔ _
    simp only [Takes, if_pos]
    constructor
    · intro h
      cases h with
      | repeated _ _ h =>
        obtain ⟨hi, piece, rest, e, rfl, rfl, hp⟩ := matchesTimes_set_iff.mp h
        exact ⟨hi, piece, rest, e, rfl, fun c hc => contains_plainSet c ▸ hp c hc⟩
    · rintro ⟨hi, piece, rest, e, rfl, hp⟩
      refine .repeated (Nat.zero_le piece.length) (fun _ e => nomatch e) ?_
      exact matchesTimes_set_iff.mpr ⟨hi, piece, rest, e, rfl, rfl, fun c hc => contains_plainSet c ▸ hp c hc⟩
  by_cases hq : a = '?'
  · subst hq
    show Matches text (.set plainSet) i k ↔ _
    simp only [Takes, if_neg hs, if_pos]
    exact hone _ _ fun c => by rw [contains_plainSet]
  · have e : charRegex a = .set (CodeSet.ofCodes (SimpleFold.orbit a.toNat)) := by
      unfold charRegex
      split
      · exact absurd rfl hs
      · exact absurd rfl hq
      · rfl
    rw [e]
    simp only [Takes, if_neg hs, if_neg hq]
    exact hone _ _ fun c => SimpleFold.contains_orbit

/-- From a place on the rest of a pattern matches up to the end of the text, if it accepts what is left. -/
theorem matches_tailRegex_iff {i j : Nat} : Matches text (tailRegex p) i j ↔
    i ≤ text.length ∧ j = text.length ∧ Accepts p (text.drop i) := by
  induction p generalizing i with
  | nil =>
    have hnil : Accepts [] (text.drop i) ↔ text.length ≤ i := by
      rw [accepts_iff_divides, divides_nil_iff, List.drop_eq_nil_iff]
    rw [hnil, tailRegex]
    constructor
    · intro h
      cases h with
      | look hi hl =>
        have hend := List.getElem?_eq_none_iff.mp (Option.isNone_iff_eq_none.mp hl)
        exact ⟨hi, Nat.le_antisymm hi hend, hend⟩
    · rintro ⟨hi, rfl, hend⟩
      obtain rfl := Nat.le_antisymm hi hend
      exact .look hi (Option.isNone_iff_eq_none.mpr (List.getElem?_eq_none_iff.mpr hend))
  | cons a p ih =>
    rw [accepts_cons_iff]
    constructor
    · intro h
      cases h with
      | cat ha htail =>
        obtain ⟨hi, piece, rest, e, rfl, ht⟩ := matches_charRegex_iff.mp ha
        obtain ⟨-, rfl, hp⟩ := ih.mp htail
        rw [← List.drop_drop, e, List.drop_left] at hp
        exact ⟨hi, rfl, piece, rest, e, ht, hp⟩
    · rintro ⟨hi, rfl, piece, rest, e, ht, hp⟩
      have hlen := congrArg List.length e
      rw [List.length_drop, List.length_append] at hlen
      refine .cat (matches_charRegex_iff.mpr ⟨hi, piece, rest, e, rfl, ht⟩) (ih.mpr ⟨by omega, rfl, ?_⟩)
      rwa [← List.drop_drop, e, List.drop_left]

theorem counted_tailRegex (p : List Char) : (tailRegex p).Counted := by
  have hchar (a : Char) : (charRegex a).Counted := by
    unfold charRegex
    split
    · exact ⟨trivial, fun _ e => nomatch e⟩
    · trivial
    · trivial
  induction p with
  | nil => trivial
  | cons a p ih => exact ⟨hchar a, ih⟩

/-- **The expression for a pattern is found in the values that the pattern accepts, and in no others.** -/
theorem isMatch_toRegex (p v : List Char) : (toRegex p).isMatch v = true ↔ Accepts p v := by
  have hcounted : (toRegex p).Counted := ⟨trivial, counted_tailRegex p⟩
  rw [isMatch_iff hcounted]
  constructor
  · rintro ⟨i, j, h⟩
    cases h with
    | cat hstart h =>
      cases hstart with
      | look hi hl =>
        -- there is no character before the start of a text only
        have hzero : i = 0 := by
          cases i with
          | zero => rfl
          | succ i =>
            have hl : (v[i]?).isNone = true := hl
            rw [Option.isNone_iff_eq_none, List.getElem?_eq_none_iff] at hl
            omega
        subst hzero
        exact (matches_tailRegex_iff.mp h).2.2
  · intro h
    exact ⟨0, v.length, .cat (.look (Nat.zero_le _) rfl) (matches_tailRegex_iff.mpr ⟨Nat.zero_le _, rfl, h⟩)⟩

/-! ## 3. How the expression is written and read -/

/-- A character with a backslash before it, if it has a meaning of its own in expressions. -/
def escaped (c : Char) : List Char := if c ∈ metaCharacters then ['\\', c] else [c]

/-- What is written for a character of a pattern. -/
def written (c : Char) : List Char :=
  match c with
  | '*' => ['.', '*']
  | '?' => ['.']
  | c => escaped c

/-- The pattern written as an expression; case is ignored in it. -/
def source (pattern : List Char) : List Char := '^' :: (pattern.flatMap written ++ ['$'])

theorem written_of_ne (hs : c ≠ '*') (hq : c ≠ '?') : written c = escaped c := by
  unfold written
  split
  · exact absurd rfl hs
  · exact absurd rfl hq
  · rfl

/-- A reader that ignores case and has read some parts of a sequence, last part first. -/
def reading (parts : List Piece) : PatternReader := { flags := { ignoreCase := true }, branches := { parts } }

/-- What is read for a character of a pattern. -/
def part (c : Char) : Piece := { regex := charRegex c, depth := if c = '*' then 1 else 0 }

theorem part_of_ne (hs : c ≠ '*') (hq : c ≠ '?') :
    part c = { regex := .set (CodeSet.ofCodes (SimpleFold.orbit c.toNat)) } := by
  unfold part charRegex
  split
  · exact absurd rfl hs
  · exact absurd rfl hq
  · rw [if_neg hs]

theorem step_dot (parts : List Piece) (cs : List Char) :
    (reading parts).step '.' cs = .ok (reading (part '?' :: parts), cs) := rfl

/-- A repetition of any character; a question mark would make it lazy. -/
theorem step_star (parts : List Piece) {cs : List Char} (hcs : cs.head? ≠ some '?') :
    (reading (part '?' :: parts)).step '*' cs = .ok (reading (part '*' :: parts), cs) := by
  cases cs with
  | nil => rfl
  | cons c cs =>
    have hc : c ≠ '?' := fun e => hcs (e ▸ rfl)
    show (reading (part '?' :: parts)).repeatLast 0 none (c :: cs) = _
    unfold PatternReader.repeatLast
    split
    · rename_i heq
      exact absurd (List.cons.inj heq).1 hc
    · rfl

theorem literal_reading (parts : List Piece) (hs : c ≠ '*') (hq : c ≠ '?') :
    (reading parts).flags.literal c false = .ok (part c).regex := by
  rw [part_of_ne hs hq]
  simp [Flags.literal, reading]

theorem step_itself (hc : c ∉ metaCharacters) (hs : c ≠ '*') (hq : c ≠ '?') (parts : List Piece) (cs : List Char) :
    (reading parts).step c cs = .ok (reading (part c :: parts), cs) := by
  unfold PatternReader.step
  split
  case h_13 =>
    rw [literal_reading parts hs hq, part_of_ne hs hq]
    rfl
  all_goals exact absurd (by decide) hc

theorem escape_of_mem_metaCharacters {f : Flags} {cs : List Char} (hc : c ∈ metaCharacters) :
    f.escape (c :: cs) = .ok (.literal c false, cs) := by
  have hnone : metaCharacters.any Char.isDigit = false := by decide
  have hdigit : ¬ c.isDigit = true := List.any_eq_false.mp hnone c hc
  have hmay : mayBeEscaped c = true := by
    rw [mayBeEscaped, List.contains_iff_mem.mpr hc, Bool.true_or]
  unfold Flags.escape
  simp only [if_neg hdigit]
  split
  case h_24 => rw [if_pos hmay]
  all_goals exact absurd hc (by decide)

theorem step_escaped (hc : c ∈ metaCharacters) (hs : c ≠ '*') (hq : c ≠ '?') (parts : List Piece)
    (cs : List Char) : (reading parts).step '\\' (c :: cs) = .ok (reading (part c :: parts), cs) := by
  have hescape : (reading parts).flags.escape (c :: cs) = .ok (.literal c false, cs) :=
    escape_of_mem_metaCharacters hc
  unfold PatternReader.step
  simp only [hescape, literal_reading parts hs hq, bind, Except.bind]
  rw [part_of_ne hs hq]
  rfl

/-- Nothing that is written for a pattern begins with a question mark. -/
theorem head?_written_ne (p : List Char) : (p.flatMap written ++ ['$']).head? ≠ some '?' := by
  cases p with
  | nil => decide
  | cons c p =>
    rw [List.flatMap_cons, List.append_assoc]
    by_cases hs : c = '*'
    · subst hs
      exact fun e => nomatch e
    by_cases hq : c = '?'
    · subst hq
      exact fun e => nomatch e
    rw [written_of_ne hs hq, escaped]
    split
    · exact fun e => nomatch e
    · exact fun e => hq (Option.some.inj e)

/-- Reads one part with one round. -/
theorem readWithin_of_step {r r' : PatternReader} {cs rest : List Char} (hr : r.flags.skip (c :: cs) = c :: cs)
    (h : r.step c cs = .ok (r', rest)) (fuel : Nat) :
    r.readWithin (fuel + 1) (c :: cs) = r'.readWithin fuel rest := by
  rw [PatternReader.readWithin, hr]
  show (r.step c cs >>= fun x => x.1.readWithin fuel x.2) = _
  rw [h]
  rfl

/-- What is written for a character is read as its part, with no more rounds than it is long. -/
theorem readWithin_written (c : Char) (parts : List Piece) {rest : List Char} (hrest : rest.head? ≠ some '?') :
    ∃ n ≤ (written c).length, ∀ fuel, (reading parts).readWithin (fuel + n) (written c ++ rest) =
      (reading (part c :: parts)).readWithin fuel rest := by
  by_cases hs : c = '*'
  · subst hs
    refine ⟨2, Nat.le_refl 2, fun fuel => ?_⟩
    refine (readWithin_of_step rfl (step_dot parts _) (fuel + 1)).trans ?_
    exact readWithin_of_step rfl (step_star parts hrest) fuel
  by_cases hq : c = '?'
  · subst hq
    exact ⟨1, Nat.le_refl 1, readWithin_of_step rfl (step_dot parts rest)⟩
  rw [written_of_ne hs hq, escaped]
  split
  next hc => exact ⟨1, Nat.le_succ 1, readWithin_of_step rfl (step_escaped hc hs hq parts rest)⟩
  next hc => exact ⟨1, Nat.le_refl 1, readWithin_of_step rfl (step_itself hc hs hq parts rest)⟩

/-- A whole pattern is read part by part, up to the end of the value. -/
theorem readWithin_flatMap_written (p : List Char) (parts : List Piece) {fuel : Nat}
    (hfuel : (p.flatMap written ++ ['$']).length ≤ fuel) :
    (reading parts).readWithin fuel (p.flatMap written ++ ['$']) =
      .ok (reading ({ regex := .look .textEnd } :: ((p.map part).reverse ++ parts))) := by
  induction p generalizing parts fuel with
  | nil =>
    obtain ⟨fuel, rfl⟩ := Nat.exists_eq_add_of_le' hfuel
    refine (readWithin_of_step rfl rfl fuel).trans ?_
    cases fuel with
    | zero => rfl
    | succ => rfl
  | cons c p ih =>
    obtain ⟨n, hn, hread⟩ := readWithin_written c parts (head?_written_ne p)
    rw [List.flatMap_cons, List.append_assoc, List.length_append] at hfuel
    obtain ⟨fuel, rfl⟩ : ∃ k, fuel = k + n :=
      Nat.exists_eq_add_of_le' (Nat.le_trans hn (Nat.le_trans (Nat.le_add_right _ _) hfuel))
    rw [List.flatMap_cons, List.append_assoc, hread, ih _ (by omega), List.map_cons, List.reverse_cons,
      List.append_assoc, List.singleton_append]

theorem cats_tail (p : List Char) : cats (p.map charRegex ++ [.look .textEnd]) = tailRegex p := by
  induction p with
  | nil => rfl
  | cons c p ih =>
    rw [tailRegex, ← ih]
    cases p with
    | nil => rfl
    | cons => rfl

/-- The part that the setting before an expression is read as. -/
def settingPart : Piece := { regex := .empty, repeatable := false }

/-- The parts of what is written for a pattern: the setting, the start of the text, one part for every
    character, and the end of the text. -/
def parts (pattern : List Char) : List Piece :=
  settingPart :: { regex := .look .textStart } :: (pattern.map part ++ [{ regex := .look .textEnd }])

theorem readWithin_source (p : List Char) :
    (reading [settingPart]).readWithin ((source p).length + 1) (source p) = .ok (reading (parts p).reverse) := by
  refine (readWithin_of_step rfl rfl (source p).length).trans ?_
  refine (readWithin_flatMap_written p [{ regex := .look .textStart }, settingPart] (Nat.le_succ _)).trans ?_
  simp [parts]

/-- Only a repeated part is deep, and no part is repeated twice. -/
theorem depth_le_of_mem_parts {q : Piece} (hq : q ∈ parts p) : q.depth ≤ 1 := by
  simp only [parts, List.mem_cons, List.mem_append, List.mem_map, List.not_mem_nil, or_false] at hq
  obtain rfl | rfl | ⟨c, -, rfl⟩ | rfl := hq
  · exact Nat.zero_le 1
  · exact Nat.zero_le 1
  · show (if c = '*' then 1 else 0) ≤ 1
    split_ifs <;> decide
  · exact Nat.zero_le 1

theorem cats_parts (p : List Char) : cats ((parts p).map (·.regex)) = .cat .empty (toRegex p) := by
  simp only [parts, List.map_cons, List.map_append, List.map_map, List.map_nil]
  show Regex.cat .empty (cats (.look .textStart :: (p.map charRegex ++ [.look .textEnd]))) = _
  rw [toRegex, ← cats_tail]
  cases p with
  | nil => rfl
  | cons => rfl

/-- **What is written for a pattern can be read, and means the expression for the pattern.** -/
theorem ofPattern_source (p : List Char) :
    Regex.ofPattern (String.ofList (source p)) = .ok (.cat .empty (toRegex p)) := by
  have hpiece : (reading (parts p).reverse).branches.toPiece =
      { regex := .cat .empty (toRegex p), depth := ((parts p).map (·.depth)).foldl max 0 + 1 } := by
    show Piece.ofSequence (parts p).reverse.reverse = _
    rw [List.reverse_reverse, ← cats_parts]
    rfl
  have hdepth : ((parts p).map (·.depth)).foldl max 0 ≤ 1 := by
    refine List.foldlRecOn (motive := (· ≤ 1)) _ max (Nat.zero_le 1) fun n hn d hd => Nat.max_le.mpr ⟨hn, ?_⟩
    obtain ⟨q, hq, rfl⟩ := List.mem_map.mp hd
    exact depth_le_of_mem_parts hq
  have hlimit : ¬ nestingLimit < ((parts p).map (·.depth)).foldl max 0 + 1 := by
    unfold nestingLimit
    omega
  unfold Regex.ofPattern
  rw [String.length_ofList, String.toList_ofList]
  show ((reading [settingPart]).readWithin ((source p).length + 1) (source p) >>= _) = _
  rw [readWithin_source]
  show (if _ < (reading (parts p).reverse).branches.toPiece.depth then _ else _) = _
  rw [hpiece, if_neg hlimit]
  rfl

example : source ['a', '*', '.', '?'] = "^a.*\\..$".toList := by decide

end MediaIndex.Glob

namespace MediaIndex

/-! ## 4. Wildcard queries -/

/-- Matching nothing first changes nothing. -/
theorem Regex.isMatch_cat_empty {r : Regex} (hr : r.Counted) (text : List Char) :
    (Regex.cat .empty r).isMatch text = r.isMatch text := by
  rw [Bool.eq_iff_iff, isMatch_iff hr, isMatch_iff (r := .cat .empty r) ⟨trivial, hr⟩]
  constructor
  · rintro ⟨i, j, h⟩
    cases h with
    | cat hempty h => exact ⟨_, j, h⟩
  · rintro ⟨i, j, h⟩
    exact ⟨i, j, .cat (.empty (Nat.le_trans h.bounds.1 h.bounds.2)) h⟩

theorem NodeQuery.accepts_wildcard_iff {pattern value : String} :
    (NodeQuery.wildcard pattern).matcher.accepts value = true ↔
      Glob.Divides Glob.isPlain pattern.toList value.toList :=
  (Glob.isMatch_toRegex _ _).trans Glob.accepts_iff_divides

/-- **What a wildcard query accepts.** The expression that is written for the pattern can be read and decides
    which values are accepted. They are those that fall into one piece for every character of the pattern: a
    star takes any run of characters and a question mark one, line feeds excepted, and every other character
    one that is the same up to simple case folding. Of values without line feeds any character counts. -/
theorem NodeQuery.wildcard_accepts_iff_divides (pattern value : String) :
    (∃ r, Regex.ofPattern (String.ofList (Glob.source pattern.toList)) = .ok r ∧
      (NodeQuery.wildcard pattern).matcher.accepts value = r.isMatch value.toList) ∧
    ((NodeQuery.wildcard pattern).matcher.accepts value = true ↔
      Glob.Divides Glob.isPlain pattern.toList value.toList) ∧
    ('\n' ∉ value.toList → ((NodeQuery.wildcard pattern).matcher.accepts value = true ↔
      Glob.Divides (fun _ => true) pattern.toList value.toList)) := by
  have hcounted : (Glob.toRegex pattern.toList).Counted := ⟨trivial, Glob.counted_tailRegex _⟩
  refine ⟨⟨_, Glob.ofPattern_source _, (Regex.isMatch_cat_empty hcounted _).symm⟩, accepts_wildcard_iff,
    fun hfeed => ?_⟩
  rw [accepts_wildcard_iff]
  constructor
  · exact Glob.Divides.imp fun _ _ _ => rfl
  · exact Glob.Divides.imp fun c hc _ => bne_iff_ne.mpr fun e => hfeed (e ▸ hc)

/-- A final sigma takes a capital one, a question mark and a star the rest. -/
theorem NodeQuery.wildcard_accepts_sigma :
    '\n' ∉ "Σοφία".toList ∧
      (∃ r, Regex.ofPattern (String.ofList (Glob.source "ς?φ*".toList)) = .ok r ∧
        r.isMatch "Σοφία".toList = true) ∧
      (NodeQuery.wildcard "ς?φ*").matcher.accepts "Σοφία" = true ∧
      Glob.Divides Glob.isPlain "ς?φ*".toList "Σοφία".toList ∧
      Glob.Divides (fun _ => true) "ς?φ*".toList "Σοφία".toList := by
  have hfeed : '\n' ∉ "Σοφία".toList := by decide
  have hsigma : SimpleFold.sameFold 'ς' 'Σ' = true := by
    -- the table is read line by line, for a literal text does not reduce well
    unfold SimpleFold.sameFold SimpleFold.fold CaseTable.toFolded
    repeat rw [CaseRow.listOfHex_cons]
    decide +kernel
  have hend : ∀ c ∈ ['ί', 'α'], Glob.isPlain c = true := List.all_eq_true.mp (by decide)
  have hdivides : Glob.Divides Glob.isPlain ['ς', '?', 'φ', '*'] ['Σ', 'ο', 'φ', 'ί', 'α'] :=
    ⟨[['Σ'], ['ο'], ['φ'], ['ί', 'α']], rfl, .cons ⟨'Σ', rfl, hsigma⟩
      (.cons ⟨'ο', rfl, rfl⟩ (.cons ⟨'φ', rfl, SimpleFold.sameFold_self _⟩ (.cons hend .nil)))⟩
  obtain ⟨⟨r, hread, hmatch⟩, hplain, hany⟩ := NodeQuery.wildcard_accepts_iff_divides "ς?φ*" "Σοφία"
  have haccepts := hplain.mpr hdivides
  exact ⟨hfeed, ⟨r, hread, hmatch.symm.trans haccepts⟩, haccepts, hdivides, (hany hfeed).mp haccepts⟩

/-- A star does not take a line feed, so a pattern of a star alone does not accept every value. -/
theorem NodeQuery.star_misses_line_feed :
    Glob.Divides (fun _ => true) "*".toList "a\nb".toList ∧
      (NodeQuery.wildcard "*").matcher.accepts "a\nb" = false :=
  ⟨⟨["a\nb".toList], rfl, .cons (fun _ _ => rfl) .nil⟩, by decide⟩

end MediaIndex
