import MediaIndex.Proofs.Toml.Strings
import MediaIndex.Toml.Statement

/-!
# Written values read back

The values that are written are texts, truth values, numbers that count something, and lists with nothing in
them. Each stands at the end of its line, and nothing but a line break follows it: a number would go on with
digits, or turn out to be the start of a date, if anything else did.

* `Numeral.read_toDigits` -- decimal digits read as the number they write;
* `Moment.not_starts` -- and are not taken for a date or a time;
* `Value.Written`, `written_text`, `written_boolean`, `written_count`, `written_empty` -- **each value reads
  back**.
-/

namespace MediaIndex.Toml

variable {c : Char} {cs ds front left rest text : List Char} {bound n k : Nat}

/-! ## 1. Decimal digits before a line break -/

theorem digitChar_ne_zero : ∀ n < 10, n ≠ 0 → n.digitChar ≠ '0' := by
  decide

/-- Only zero is written with a zero in front. -/
theorem head_toDigits_ne (h : n ≠ 0) : ∃ d ds, Nat.toDigits 10 n = d :: ds ∧ d ≠ '0' := by
  induction n using Nat.strongRecOn with
  | ind n ih =>
    rw [Nat.toDigits_eq_if (by decide)]
    split
    next hlt => exact ⟨_, _, rfl, digitChar_ne_zero n hlt h⟩
    next hlt =>
      obtain ⟨d, ds, hds, hd⟩ := ih (n / 10) (by omega) (by omega)
      exact ⟨d, ds ++ [(n % 10).digitChar], by rw [hds]; rfl, hd⟩

theorem isDigit_of_mem_toDigits (h : c ∈ Nat.toDigits 10 n) : c.isDigit = true :=
  Nat.isDigit_of_mem_toDigits (by decide) le_rfl h

/-- Every number has a first digit. -/
theorem exists_toDigits (n : Nat) : ∃ d ds, Nat.toDigits 10 n = d :: ds ∧ d.isDigit = true := by
  obtain ⟨d, ds, hds⟩ := List.exists_cons_of_ne_nil (Nat.toDigits_ne_nil (n := n) (b := 10))
  have hmem : d ∈ Nat.toDigits 10 n := by rw [hds]; exact List.mem_cons_self
  exact ⟨d, ds, hds, isDigit_of_mem_toDigits hmem⟩

/-- What stands in digits before a line break is a digit or that line break. -/
theorem isDigit_or_of_eq (h : ∀ d ∈ ds, d.isDigit = true) (front : List Char)
    (e : ds ++ '\n' :: rest = front ++ c :: left) (hlen : front.length ≤ ds.length) :
    c.isDigit = true ∨ c = '\n' := by
  induction ds generalizing front with
  | nil =>
    obtain rfl := List.eq_nil_of_length_eq_zero (Nat.le_zero.mp hlen)
    exact .inr (List.cons.inj e).1.symm
  | cons d ds ih =>
    obtain ⟨hd, hds⟩ := List.forall_mem_cons.mp h
    cases front with
    | nil => exact .inl ((List.cons.inj e).1 ▸ hd)
    | cons a front => exact ih hds front (List.cons.inj e).2 (Nat.le_of_succ_le_succ hlen)

namespace Numeral

theorem digitsOf_append (h : ∀ d ∈ ds, d.isDigit = true) :
    digitsOf Char.isDigit (ds ++ '\n' :: rest) = some (ds, '\n' :: rest) := by
  induction ds with
  | nil => simp [digitsOf]
  | cons d ds ih =>
    obtain ⟨hd, hds⟩ := List.forall_mem_cons.mp h
    rw [List.cons_append, digitsOf, if_pos hd, ih hds]
    · rfl
    · exact fun _ _ e => absurd e (Reader.ne_of_test hd rfl)
    · exact fun e => absurd e (Reader.ne_of_test hd rfl)

theorem wholePart_toDigits (n : Nat) (rest : List Char) :
    wholePart (Nat.toDigits 10 n ++ '\n' :: rest) = some (Nat.toDigits 10 n, '\n' :: rest) := by
  by_cases hn : n = 0
  · subst hn
    rfl
  · obtain ⟨d, ds, hds, hd⟩ := head_toDigits_ne hn
    have hall : ∀ c ∈ d :: ds, c.isDigit = true := fun c hc => isDigit_of_mem_toDigits (hds ▸ hc)
    rw [hds, List.cons_append, wholePart, digits, if_pos (hall d List.mem_cons_self)]
    · exact digitsOf_append hall
    · intro _ e
      exact hd (List.cons.inj e).1

theorem decimalValue_toDigits (n : Nat) : decimalValue (Nat.toDigits 10 n) = n :=
  Nat.ofDigitChars_ten_toDigits

theorem value_toDigits (h : inRange n = true) :
    value false (Nat.toDigits 10 n) [] none = some (.integer n) := by
  simp [value, signed, decimalValue_toDigits, h]

/-- Digits start with no sign, and are no name of a number. -/
theorem sign_of_isDigit (h : c.isDigit = true) : sign (c :: cs) = (false, c :: cs) := by
  unfold sign
  split
  next e => exact absurd (List.cons.inj e).1 (Reader.ne_of_test h rfl)
  next e => exact absurd (List.cons.inj e).1 (Reader.ne_of_test h rfl)
  next => rfl

theorem decimal_toDigits (h : inRange n = true) :
    decimal false (Nat.toDigits 10 n ++ '\n' :: rest) = some (.integer n, '\n' :: rest) := by
  obtain ⟨d, ds, hds, hd⟩ := exists_toDigits n
  have hread : wholePart (d :: (ds ++ '\n' :: rest)) = some (d :: ds, '\n' :: rest) := by
    rw [← List.cons_append, ← hds, wholePart_toDigits]
  have hvalue : value false (d :: ds) [] none = some (.integer n) := by
    rw [← hds, value_toDigits h]
  have hend : fraction ('\n' :: rest) = some ([], '\n' :: rest) ∧
      exponent ('\n' :: rest) = some (none, '\n' :: rest) := ⟨rfl, rfl⟩
  rw [hds, List.cons_append, decimal]
  · refine Option.bind_eq_some_iff.mpr ⟨_, hread, ?_⟩
    refine Option.bind_eq_some_iff.mpr ⟨_, hend.1, ?_⟩
    refine Option.bind_eq_some_iff.mpr ⟨_, hend.2, ?_⟩
    exact Option.bind_eq_some_iff.mpr ⟨_, hvalue, rfl⟩
  · exact fun _ e => absurd (List.cons.inj e).1 (Reader.ne_of_test hd rfl)
  · exact fun _ e => absurd (List.cons.inj e).1 (Reader.ne_of_test hd rfl)

/-- **A number that counts something reads back from its digits.** -/
theorem read_toDigits (h : inRange n = true) (rest : List Char) :
    read (Nat.toDigits 10 n ++ '\n' :: rest) = some (.integer n, '\n' :: rest) := by
  have hall : ∀ c ∈ Nat.toDigits 10 n, c.isDigit = true := fun _ => isDigit_of_mem_toDigits
  have hsecond {a b : Char} {cs : List Char} (e : Nat.toDigits 10 n ++ '\n' :: rest = a :: b :: cs) :
      b.isDigit = true ∨ b = '\n' :=
    isDigit_or_of_eq hall [a] e Nat.length_toDigits_pos
  unfold read
  split
  next e => exact absurd (hsecond e) (by decide)
  next e => exact absurd (hsecond e) (by decide)
  next e => exact absurd (hsecond e) (by decide)
  next =>
    obtain ⟨d, ds, hds, hd⟩ := exists_toDigits n
    have hsign : sign (Nat.toDigits 10 n ++ '\n' :: rest) = (false, Nat.toDigits 10 n ++ '\n' :: rest) := by
      rw [hds]
      exact sign_of_isDigit hd
    simp only [hsign, decimal_toDigits h]

end Numeral

/-! ## 2. Digits are no date or time -/

/-- A fixed number of digits is taken off the digits only, and what follows them is the next one or the line
    break. -/
theorem isDigit_or_of_exactly (h : ∀ d ∈ ds, d.isDigit = true)
    (e : Reader.exactly k Char.isDigit (ds ++ '\n' :: rest) = some (front, c :: left)) :
    c.isDigit = true ∨ c = '\n' := by
  unfold Reader.exactly at e
  dsimp only at e
  split at e
  next htake =>
    obtain ⟨hlen, hall⟩ := Bool.and_eq_true_iff.mp htake
    have hle : k ≤ ds.length := by
      by_contra hk
      obtain ⟨m, hm⟩ : ∃ m, k - ds.length = m + 1 := ⟨k - ds.length - 1, by omega⟩
      rw [List.take_append, hm, List.take_succ_cons] at hall
      simp at hall
    have hsplit : ds ++ '\n' :: rest = (ds ++ '\n' :: rest).take k ++ c :: left := by
      rw [← (Prod.mk.inj (Option.some.inj e)).2, List.take_append_drop]
    refine isDigit_or_of_eq h _ hsplit (le_trans (List.length_take_le _ _) hle)
  next => cases e

namespace Moment

theorem not_startsDate (h : ∀ d ∈ ds, d.isDigit = true) : startsDate (ds ++ '\n' :: rest) = false := by
  unfold startsDate
  split
  next e => exact absurd (isDigit_or_of_exactly h e) (by decide)
  next => rfl

theorem not_startsTime (h : ∀ d ∈ ds, d.isDigit = true) : startsTime (ds ++ '\n' :: rest) = false := by
  unfold startsTime
  split
  next e =>
    obtain ⟨⟨_, cs⟩, htake, e⟩ := Option.bind_eq_some_iff.mp e
    dsimp only at e
    split at e
    next =>
      cases e
      exact absurd (isDigit_or_of_exactly h htake) (by decide)
    next => cases e
  next => rfl

theorem not_starts (h : ∀ d ∈ ds, d.isDigit = true) (rest : List Char) :
    starts (ds ++ '\n' :: rest) = false := by
  rw [starts, not_startsDate h, not_startsTime h]
  rfl

end Moment

/-! ## 3. Values -/

/-- A value written at the end of a line reads back. -/
structure Value.Written (v : Value) (text : List Char) : Prop where
  /-- No blank stands at the front, for it would not belong to the value. -/
  solid : text.head?.all (!isBlank ·) = true
  reads (bound : Nat) (rest : List Char) (hb : (text ++ '\n' :: rest).length ≤ bound) :
    value bound depthLimit (text ++ '\n' :: rest) = some (v, '\n' :: rest)

theorem value_eq_simpleValue (h : c ≠ '[' ∧ c ≠ '\x7b') :
    value bound depthLimit (c :: cs) = simpleValue bound (c :: cs) := by
  rw [depthLimit, value]
  dsimp only
  split
  next e => exact absurd (List.cons.inj e).1 h.1
  next e => exact absurd (List.cons.inj e).1 h.2
  next => rfl

theorem simpleValue_quoted (h : c = '"' ∨ c = '\'') :
    simpleValue bound (c :: cs) = (Quoted.read bound (c :: cs)).map fun (s, cs) => (.text s, cs) := by
  rcases h with rfl | rfl <;> rfl

/-- A string is written with a quote in front. -/
theorem exists_writeAs (form : Quoted.Form) (cs : List Char) :
    ∃ c more, Quoted.writeAs form cs = c :: more ∧ (c = '"' ∨ c = '\'') := by
  cases form with
  | basic => exact ⟨_, _, rfl, .inl rfl⟩
  | literal => exact ⟨_, _, rfl, .inr rfl⟩
  | basicBlock => exact ⟨_, _, rfl, .inl rfl⟩
  | literalBlock => exact ⟨_, _, rfl, .inr rfl⟩

/-- **A text reads back**, whatever characters it has. -/
theorem written_text (s : String) : Value.Written (.text s) (Quoted.write s).toList := by
  rw [Quoted.write, String.toList_ofList]
  obtain ⟨c, more, htext, hc⟩ := exists_writeAs (Quoted.formOf s.toList) s.toList
  constructor
  · rw [htext]
    rcases hc with rfl | rfl <;> rfl
  · intro bound rest hb
    have hread : Quoted.read bound (Quoted.writeAs (Quoted.formOf s.toList) s.toList ++ '\n' :: rest) =
        some (String.ofList s.toList, '\n' :: rest) :=
      Quoted.read_writeAs (Quoted.formOf_holds s.toList) ⟨by simp, by simp⟩ hb
    rw [htext, List.cons_append] at hread ⊢
    rw [value_eq_simpleValue (by rcases hc with rfl | rfl <;> decide), simpleValue_quoted hc, hread,
      String.ofList_toList]
    rfl

theorem written_boolean (b : Bool) : Value.Written (.boolean b) (toString b).toList := by
  cases b with
  | false => exact ⟨by decide, fun _ _ _ => rfl⟩
  | true => exact ⟨by decide, fun _ _ _ => rfl⟩

theorem simpleValue_of_isDigit (h : c.isDigit = true) (hmoment : Moment.starts (c :: cs) = false) :
    simpleValue bound (c :: cs) = Numeral.read (c :: cs) := by
  unfold simpleValue
  split
  next e => exact absurd (List.cons.inj e).1 (Reader.ne_of_test h rfl)
  next e => exact absurd (List.cons.inj e).1 (Reader.ne_of_test h rfl)
  next =>
    have hquote : ¬ ((c :: cs).head?.any fun c => c == '"' || c == '\'') = true := by
      simp only [List.head?_cons, Option.any_some, Bool.or_eq_true, beq_iff_eq]
      exact not_or.mpr ⟨Reader.ne_of_test h rfl, Reader.ne_of_test h rfl⟩
    rw [if_neg hquote, hmoment]
    rfl

/-- **A number that counts something reads back**, if TOML has room for it. -/
theorem written_count (h : Numeral.inRange n = true) :
    Value.Written (.integer n) (toString n).toList := by
  rw [Nat.toString_eq_ofList_toDigits, String.toList_ofList]
  have hall : ∀ c ∈ Nat.toDigits 10 n, c.isDigit = true := fun _ => isDigit_of_mem_toDigits
  obtain ⟨d, ds, hds, hd⟩ := exists_toDigits n
  constructor
  · have hblank : isBlank d = false := by
      simp [isBlank, Reader.ne_of_test hd (d := ' ') rfl, Reader.ne_of_test hd (d := '\t') rfl]
    rw [hds, List.head?_cons, Option.all_some, hblank]
    rfl
  · intro bound rest hb
    have hread := Numeral.read_toDigits h rest
    have hmoment := Moment.not_starts hall rest
    have hvalue : d ≠ '[' ∧ d ≠ '\x7b' := ⟨Reader.ne_of_test hd rfl, Reader.ne_of_test hd rfl⟩
    rw [hds, List.cons_append] at hread hmoment ⊢
    rw [value_eq_simpleValue hvalue, simpleValue_of_isDigit hd hmoment, hread]

/-- A closing bracket is no value. -/
theorem simpleValue_bracket (bound : Nat) (cs : List Char) : simpleValue bound (']' :: cs) = none := by
  have hexactly (k : Nat) : Reader.exactly (k + 1) Char.isDigit (']' :: cs) = none := by
    simp [Reader.exactly, show ']'.isDigit = false by decide]
  have hmoment : Moment.starts (']' :: cs) = false := by
    simp [Moment.starts, Moment.startsDate, Moment.startsTime, Moment.twoDigits, hexactly]
  have hnumeral : Numeral.read (']' :: cs) = none := rfl
  simp [simpleValue, hmoment, hnumeral]

/-- A list with nothing in it. -/
theorem written_empty : Value.Written (.array []) "[]".toList := by
  refine ⟨by decide, fun bound rest _ => ?_⟩
  have hnone : Reader.separated bound ',' (element (value bound 79)) (']' :: '\n' :: rest) = none := by
    have : value bound 79 (']' :: '\n' :: rest) = none := simpleValue_bracket bound _
    have helement : element (value bound 79) (']' :: '\n' :: rest) = none :=
      Option.bind_eq_none_iff.mpr fun _ h => by cases this.symm.trans h
    rw [Reader.separated, helement]
    rfl
  show array bound (value bound 79) (']' :: '\n' :: rest) = _
  rw [array, hnone]
  rfl

end MediaIndex.Toml
