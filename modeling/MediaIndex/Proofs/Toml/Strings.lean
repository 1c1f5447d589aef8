import MediaIndex.Proofs.Text.Readings
import MediaIndex.Toml.Quoted

/-!
# A written string reads back

A string is written in one of four forms, and `Quoted.read` tells the form by the quotes. Between the quotes
a character stands for itself or has an escape; between tripled ones a quote may stand for itself too, as
long as no three of them stand in a row, and quotes that end the string stand right before the closing ones.

* `escape_written` -- the two ways a character is written between double quotes;
* `Between`, `Between.readings` -- what may stand between tripled quotes, and what it reads as;
* `between_writeBlock`, `between_literal` -- what is written there is such a text;
* `read_writeAs` -- **every string reads back from the form it is written in**.
-/

namespace MediaIndex.Toml

variable {c quote : Char} {cs text rest more : List Char} {bound n q k : Nat}

/-! ## 1. Characters -/

theorem isPlain_iff : isPlain c = true ↔ c = '\t' ∨ (' ' ≤ c ∧ c ≠ '\x7f') := by
  simp [isPlain]

theorem ne_of_isPlain (h : isPlain c = true) : c ≠ '\n' ∧ c ≠ '\r' := by
  constructor <;> (rintro rfl; exact absurd h (by decide))

/-- A text that starts with a plain character starts with no line break. -/
theorem lineBreak?_of_isPlain (h : isPlain c = true) : lineBreak? (c :: cs) = none := by
  obtain ⟨hn, hr⟩ := ne_of_isPlain h
  unfold lineBreak?
  split
  next e => exact absurd (List.cons.inj e).1 hn
  next e => exact absurd (List.cons.inj e).1 hr
  next => rfl

namespace Quoted

theorem isPlain_of_not_needsEscape (h : needsEscape c = false) (hn : c ≠ '\n') : isPlain c = true := by
  simpa [needsEscape, hn] using h

/-- Only controls need an escape, and their code points have few digits. -/
theorem toNat_lt_of_needsEscape (h : needsEscape c = true) : c.toNat < 128 := by
  by_contra hc
  have hle : ' ' ≤ c := by
    rw [Char.le_def, UInt32.le_iff_toNat_le]
    exact le_trans (by decide : (' ' : Char).toNat ≤ 128) (not_lt.mp hc)
  have hne : c ≠ '\x7f' := by rintro rfl; exact hc (by decide)
  have : isPlain c = true := isPlain_iff.mpr (.inr ⟨hle, hne⟩)
  simp [needsEscape, this] at h

/-- Four digits write every code point that needs them. -/
theorem fourDigits_written : ∀ n < 128, (fourDigits n).length = 4 ∧ (fourDigits n).all isHexDigit = true ∧
    charOfCode? (hexValue (fourDigits n)) = some (Char.ofNat n) := by
  decide +kernel

theorem codePoint_fourDigits (h : c.toNat < 128) :
    codePoint 4 (fourDigits c.toNat ++ rest) = some (c, rest) := by
  obtain ⟨hlen, hall, hcode⟩ := fourDigits_written c.toNat h
  rw [Char.ofNat_toNat] at hcode
  simp [codePoint, Reader.exactly_append hlen hall, hcode]

/-- **A character stands for itself between double quotes, or has an escape that reads as it.** -/
theorem escape_written (c : Char) :
    (writeChar c = [c] ∧ isPlain c = true ∧ c ≠ '"' ∧ c ≠ '\\') ∨
    ∃ e es, writeChar c = '\\' :: e :: es ∧ isPlain e = true ∧ isBlank e = false ∧
      ∀ rest, escape (e :: es ++ rest) = some (c, rest) := by
  unfold writeChar
  split
  case h_8 hn _ _ hquote hslash =>
    split
    next h =>
      exact .inr ⟨'u', _, rfl, by decide, by decide, fun rest =>
        codePoint_fourDigits (toNat_lt_of_needsEscape h)⟩
    next h =>
      have hplain := isPlain_of_not_needsEscape (Bool.eq_false_iff.mpr h) hn
      exact .inl ⟨rfl, hplain, hquote, hslash⟩
  all_goals exact .inr ⟨_, _, rfl, by decide, by decide, fun _ => rfl⟩

/-! ## 2. Single quotes of either kind -/

theorem basicChar_writeChar (c : Char) : basicChar (writeChar c ++ rest) = some (c, rest) := by
  rcases escape_written c with ⟨hw, hplain, hquote, hslash⟩ | ⟨e, es, hw, -, -, hread⟩
  · rw [hw, List.singleton_append]
    unfold basicChar
    split
    next e => exact absurd (List.cons.inj e).1 hslash
    next e => exact absurd (List.cons.inj e).1 hquote
    next e =>
      obtain ⟨rfl, rfl⟩ := List.cons.inj e
      rw [if_pos hplain]
    next e => cases e
  · rw [hw]
    exact hread rest

theorem writeChar_ne_nil (c : Char) : writeChar c ≠ [] := by
  rcases escape_written c with ⟨hw, -⟩ | ⟨e, es, hw, -⟩ <;> simp [hw]

theorem readings_basicChar (cs : List Char) :
    Reader.Readings basicChar cs (cs.flatMap writeChar ++ '"' :: rest) ('"' :: rest) := by
  induction cs with
  | nil => exact .stop rfl
  | cons c cs ih =>
    rw [List.flatMap_cons, List.append_assoc]
    exact .cons (basicChar_writeChar c) (writeChar_ne_nil c) ih

theorem basic_written (hb : (cs.flatMap writeChar ++ '"' :: rest).length ≤ bound) :
    basic bound (cs.flatMap writeChar ++ '"' :: rest) = some (String.ofList cs, rest) := by
  simp [basic, (readings_basicChar cs).many_eq hb, Reader.char]

theorem literal_written (h : ∀ c ∈ cs, isPlain c = true ∧ c ≠ '\'') :
    literal (cs ++ '\'' :: rest) = some (String.ofList cs, rest) := by
  have hspan : Reader.span (fun c => isPlain c && c != '\'') (cs ++ '\'' :: rest) = (cs, '\'' :: rest) :=
    Reader.span_append (fun c hc => by simp [h c hc]) (by simp)
  simp [literal, hspan, Reader.char]

theorem basic_ne (hrest : rest.head? ≠ some '"') (more : List Char) :
    cs.flatMap writeChar ++ '"' :: rest ≠ '"' :: '"' :: more := by
  intro e
  cases cs with
  | nil => simp [(List.cons.inj e).2] at hrest
  | cons c cs =>
    rcases escape_written c with ⟨hw, -, hquote, -⟩ | ⟨_, _, hw, -⟩
    · rw [List.flatMap_cons, hw] at e
      exact hquote (List.cons.inj e).1
    · rw [List.flatMap_cons, hw] at e
      cases e

theorem literal_ne (h : ∀ c ∈ cs, isPlain c = true ∧ c ≠ '\'') (hrest : rest.head? ≠ some '\'')
    (more : List Char) : cs ++ '\'' :: rest ≠ '\'' :: '\'' :: more := by
  intro e
  cases cs with
  | nil => simp [(List.cons.inj e).2] at hrest
  | cons c cs => exact (h c List.mem_cons_self).2 (List.cons.inj e).1

/-- The first quote opens the string when no two more follow it. -/
theorem read_quote (h : ∀ more, cs ≠ '"' :: '"' :: more) : read bound ('"' :: cs) = basic bound cs := by
  unfold read
  split
  next e => exact absurd (List.cons.inj e).2 (h _)
  next e => rw [(List.cons.inj e).2]
  next e => cases e
  next e => cases e
  next hne _ _ => exact absurd rfl (hne cs)

theorem read_apostrophe (h : ∀ more, cs ≠ '\'' :: '\'' :: more) : read bound ('\'' :: cs) = literal cs := by
  unfold read
  split
  next e => cases e
  next e => cases e
  next e => exact absurd (List.cons.inj e).2 (h _)
  next e => rw [(List.cons.inj e).2]
  next hne => exact absurd rfl (hne cs)

/-! ## 3. Tripled quotes -/

/-- Between tripled quotes: a text that reads as `cs`, behind `q` quotes that stand right before it. No three
    of these quotes and its own stand in a row, and every other character is read by itself. -/
inductive Between (quote : Char) (part : Reader (List Char)) : Nat → List Char → List Char → Prop
  | nil {q : Nat} (hq : q ≤ 2) : Between quote part q [] []
  | quote {q : Nat} {cs text : List Char} (h : Between quote part (q + 1) cs text) :
      Between quote part q (quote :: cs) (quote :: text)
  | other {q : Nat} {c d : Char} {cs u text : List Char} (hq : q ≤ 2) (hd : d ≠ quote)
      (hplain : c ≠ '\n' → isPlain d = true)
      (hread : ∀ more, part (d :: u ++ more) = some ([c], more)) (h : Between quote part 0 cs text) :
      Between quote part q (c :: cs) (d :: u ++ text)

/-- A quote counts as a character unless it is the first of three. -/
structure CountsQuotes (quote : Char) (part : Reader (List Char)) : Prop where
  three (cs : List Char) : part (quote :: quote :: quote :: cs) = none
  counts {cs : List Char} (h : ∀ more, cs ≠ quote :: quote :: more) :
    part (quote :: cs) = some ([quote], cs)

variable {part : Reader (List Char)} {parts : List (List Char)} {left : List Char}

/-- Up to two quotes before something else. -/
theorem CountsQuotes.readings (hp : CountsQuotes quote part) (hq : q ≤ 2) (hc : c ≠ quote)
    (h : Reader.Readings part parts (c :: more) left) :
    Reader.Readings part (List.replicate q [quote] ++ parts) (List.replicate q quote ++ c :: more) left := by
  have hone : Reader.Readings part ([quote] :: parts) (quote :: c :: more) left := by
    refine .next (hp.counts fun xs e => hc (List.cons.inj e).1) (Nat.lt_succ_self _) h
  obtain rfl | rfl | rfl : q = 0 ∨ q = 1 ∨ q = 2 := by omega
  · exact h
  · exact hone
  · refine .next (hp.counts fun xs e => hc ?_) (Nat.lt_succ_self _) hone
    exact (List.cons.inj (List.cons.inj e).2).1

/-- **What stands between tripled quotes is read up to the quotes at the end**: the closing ones, and those
    of the string that stand right before them. -/
theorem Between.readings (hp : CountsQuotes quote part) (h : Between quote part q cs text) (rest : List Char) :
    ∃ parts k, k ≤ 2 ∧ parts.flatten ++ List.replicate k quote = List.replicate q quote ++ cs ∧
      Reader.Readings part parts (List.replicate q quote ++ (text ++ (List.replicate 3 quote ++ rest)))
        (List.replicate (k + 3) quote ++ rest) := by
  -- the `q` quotes are pending: they are read once another character follows, or left for the end
  induction h with
  | @nil q hq =>
    refine ⟨[], q, hq, by simp, ?_⟩
    rw [List.nil_append, ← List.append_assoc, List.replicate_append_replicate]
    exact .stop (hp.three _)
  | @quote q cs text h ih =>
    obtain ⟨parts, k, hk, hflat, hread⟩ := ih
    have hmove (xs : List Char) :
        List.replicate (q + 1) quote ++ xs = List.replicate q quote ++ quote :: xs := by
      rw [List.replicate_succ', List.append_assoc, List.singleton_append]
    exact ⟨parts, k, hk, hflat.trans (hmove cs), hmove _ ▸ hread⟩
  | @other q c d cs u text hq hd hplain hread h ih =>
    obtain ⟨parts, k, hk, hflat, hrest⟩ := ih
    refine ⟨List.replicate q [quote] ++ [c] :: parts, k, hk, ?_, ?_⟩
    · simp only [List.replicate_zero, List.nil_append] at hflat
      simp [List.flatten_replicate_singleton, hflat]
    · rw [List.append_assoc, List.cons_append]
      refine hp.readings hq hd ?_
      rw [← List.cons_append]
      exact .cons (hread _) (List.cons_ne_nil d u) hrest

theorem closing_replicate (hk : k ≤ 2) (hrest : rest.head? ≠ some quote) :
    closing quote (List.replicate (k + 3) quote ++ rest) = some (List.replicate k quote, rest) := by
  have hstop : rest.takeWhile (· == quote) = [] := by
    cases rest with
    | nil => rfl
    | cons c rest => simpa using hrest
  have htake : (List.replicate (k + 3) quote ++ rest).takeWhile (· == quote) =
      List.replicate (k + 3) quote := by
    rw [List.takeWhile_append_of_pos (by simp), hstop, List.append_nil]
  have hmin : min k 2 = k := by omega
  simp [closing, htake, hmin]

/-- A line break behind the opening quotes is dropped, and it is there only when the text has any. -/
theorem opening_eq {breaks : Bool} (h : breaks = false → lineBreak? cs = none) :
    (lineBreak? ((if breaks then ['\n'] else []) ++ cs)).getD ((if breaks then ['\n'] else []) ++ cs) = cs := by
  cases breaks with
  | true => rfl
  | false => simp [h rfl]

theorem Between.lineBreak?_eq_none (h : Between quote part q cs text) (hquote : isPlain quote = true)
    (rest : List Char) (hn : cs.contains '\n' = false) :
    lineBreak? (text ++ (List.replicate 3 quote ++ rest)) = none := by
  cases h with
  | nil => exact lineBreak?_of_isPlain hquote
  | quote => exact lineBreak?_of_isPlain hquote
  | other _ _ hplain =>
    refine lineBreak?_of_isPlain (hplain ?_)
    rintro rfl
    simp at hn

theorem Between.block_eq (hp : CountsQuotes quote part) (h : Between quote part 0 cs text)
    (hquote : isPlain quote = true) (hrest : rest.head? ≠ some quote)
    (hb : (tripled quote (cs.contains '\n') text ++ rest).length ≤ bound) :
    ∃ body, tripled quote (cs.contains '\n') text ++ rest = quote :: quote :: quote :: body ∧
      block bound quote part body = some (String.ofList cs, rest) := by
  obtain ⟨parts, k, hk, hflat, hread⟩ := h.readings hp rest
  rw [List.replicate_zero, List.nil_append] at hflat hread
  have hopen := opening_eq (h.lineBreak?_eq_none hquote rest)
  have hmany : Reader.many bound part (text ++ (List.replicate 3 quote ++ rest)) =
      (parts, List.replicate (k + 3) quote ++ rest) := by
    refine hread.many_eq (le_trans ?_ hb)
    simp only [tripled, List.length_append]
    omega
  refine ⟨(if cs.contains '\n' then ['\n'] else []) ++ (text ++ (List.replicate 3 quote ++ rest)), ?_, ?_⟩
  · simp [tripled, List.append_assoc]
  · simp only [block, hopen, hmany, closing_replicate hk hrest, hflat, Option.bind_eq_bind, Option.bind_some]
    rfl

/-! ## 4. The text between tripled quotes -/

/-- A quote that is not the first of three is like any other character. -/
theorem basicBlockPart_itself (hc : isPlain c = true ∨ c = '\n') (hslash : c ≠ '\\')
    (hquote : c = '"' → ∀ more, cs ≠ '"' :: '"' :: more) : basicBlockPart (c :: cs) = some ([c], cs) := by
  unfold basicBlockPart
  split
  next e => exact absurd (List.cons.inj e).1 hslash
  next e => exact absurd (List.cons.inj e).2 (hquote (List.cons.inj e).1 _)
  next e =>
    obtain ⟨rfl, -⟩ := List.cons.inj e
    exact absurd hc (by decide)
  next e =>
    obtain ⟨rfl, rfl⟩ := List.cons.inj e
    rw [if_pos (by simpa using hc)]
  next e => cases e

theorem literalBlockPart_itself (hc : isPlain c = true ∨ c = '\n')
    (hquote : c = '\'' → ∀ more, cs ≠ '\'' :: '\'' :: more) :
    literalBlockPart (c :: cs) = some ([c], cs) := by
  unfold literalBlockPart
  split
  next e => exact absurd (List.cons.inj e).2 (hquote (List.cons.inj e).1 _)
  next e =>
    obtain ⟨rfl, -⟩ := List.cons.inj e
    exact absurd hc (by decide)
  next e =>
    obtain ⟨rfl, rfl⟩ := List.cons.inj e
    rw [if_pos (by simpa using hc)]
  next e => cases e

theorem countsQuotes_basicBlockPart : CountsQuotes '"' basicBlockPart where
  three _ := rfl
  counts h := basicBlockPart_itself (.inl (by decide)) (by decide) fun _ => h

theorem countsQuotes_literalBlockPart : CountsQuotes '\'' literalBlockPart where
  three _ := rfl
  counts h := literalBlockPart_itself (.inl (by decide)) fun _ => h

/-- What an escape starts with is neither a line break nor the blanks before one. -/
theorem basicBlockPart_escape {e : Char} {es : List Char} (he : isPlain e = true) (hblank : isBlank e = false)
    (hread : escape (e :: es ++ more) = some (c, more)) :
    basicBlockPart ('\\' :: (e :: es) ++ more) = some ([c], more) := by
  have hjoin : lineJoin? (e :: (es ++ more)) = none := by
    simp [lineJoin?, skipBlanks, hblank, lineBreak?_of_isPlain he]
  rw [List.cons_append] at hread
  simp [basicBlockPart, hjoin, hread]

/-- The first character of a written one tells it from a quote that stands for itself. -/
theorem between_writeChar (hq : q ≤ 2) (c : Char) (h : Between '"' basicBlockPart 0 cs text) :
    Between '"' basicBlockPart q (c :: cs) (writeChar c ++ text) := by
  rcases escape_written c with ⟨hw, hplain, hquote, hslash⟩ | ⟨e, es, hw, he, hblank, hread⟩
  · rw [hw]
    exact .other hq hquote (fun _ => hplain)
      (fun _ => basicBlockPart_itself (.inl hplain) hslash fun e => absurd e hquote) h
  · rw [hw]
    exact .other hq (by decide) (fun _ => by decide)
      (fun more => basicBlockPart_escape he hblank (hread more)) h

theorem between_writeBlock (hq : q ≤ 2) : Between '"' basicBlockPart q cs (writeBlock q cs) := by
  induction q, cs using writeBlock.induct with
  | case1 q => exact .nil hq
  | case2 q cs hlt ih =>
    rw [writeBlock, if_pos hlt]
    exact .quote (ih (by omega))
  | case3 q cs hlt ih =>
    rw [writeBlock, if_neg hlt]
    exact between_writeChar hq '"' (ih (by omega))
  | case4 q cs ih =>
    rw [writeBlock]
    exact .other (u := []) hq (by decide) (fun hn => absurd rfl hn)
      (fun _ => basicBlockPart_itself (.inr rfl) (by decide) fun e => by cases e) (ih (by omega))
  | case5 q c cs hquote hn ih =>
    rw [writeBlock]
    · exact between_writeChar hq c (ih (by omega))
    · exact hquote
    · exact hn

/-- The longest run of a character, behind `run` of it and a longest one. -/
def longestFrom (c : Char) (run longest : Nat) : List Char → Nat
  | [] => longest
  | a :: cs =>
    if a = c then longestFrom c (run + 1) (max longest (run + 1)) cs else longestFrom c 0 longest cs

theorem longestRun_eq (c : Char) (cs : List Char) : longestRun c cs = longestFrom c 0 0 cs := by
  suffices ∀ run longest, (cs.foldl (fun p a =>
      if a = c then (p.1 + 1, max p.2 (p.1 + 1)) else (0, p.2)) (run, longest)).2 =
      longestFrom c run longest cs from this 0 0
  induction cs with
  | nil => exact fun _ _ => rfl
  | cons a cs ih =>
    intro run longest
    rw [List.foldl_cons, longestFrom]
    dsimp only
    split
    · exact ih _ _
    · exact ih _ _

theorem le_longestFrom (cs : List Char) (c : Char) (run longest : Nat) :
    longest ≤ longestFrom c run longest cs := by
  induction cs generalizing run longest with
  | nil => exact le_rfl
  | cons a cs ih =>
    rw [longestFrom]
    split
    · exact le_trans (le_max_left _ _) (ih _ _)
    · exact ih _ _

/-- The induction is on the text, behind a run of `q` quotes. -/
theorem between_literal {longest : Nat} (hq : q ≤ longest) (hcs : ∀ c ∈ cs, needsEscape c = false)
    (h : longestFrom '\'' q longest cs ≤ 2) : Between '\'' literalBlockPart q cs cs := by
  have hq2 : q ≤ 2 := le_trans hq (le_trans (le_longestFrom ..) h)
  induction cs generalizing q longest with
  | nil => exact .nil hq2
  | cons c cs ih =>
    obtain ⟨hc, hmore⟩ := List.forall_mem_cons.mp hcs
    rw [longestFrom] at h
    split at h
    next hquote =>
      subst hquote
      have hrun : q + 1 ≤ max longest (q + 1) := le_max_right _ _
      exact .quote (ih hrun hmore h (le_trans hrun (le_trans (le_longestFrom ..) h)))
    next hquote =>
      have hitself : isPlain c = true ∨ c = '\n' := by
        by_cases hn : c = '\n'
        · exact .inr hn
        · exact .inl (isPlain_of_not_needsEscape hc hn)
      exact .other (u := []) hq2 hquote (fun hn => hitself.resolve_right hn)
        (fun _ => literalBlockPart_itself hitself fun e => absurd e hquote)
        (ih (Nat.zero_le _) hmore h (Nat.zero_le 2))

/-! ## 5. Every form -/

/-- What a form can hold: one without escapes leaves every character to stand for itself. -/
def Form.Holds : Form → List Char → Prop
  | .basic, _ => True
  | .literal, cs => ∀ c ∈ cs, isPlain c = true ∧ c ≠ '\''
  | .basicBlock, _ => True
  | .literalBlock, cs => (∀ c ∈ cs, needsEscape c = false) ∧ longestRun '\'' cs ≤ 2

/-- **The form that is chosen for a text can hold it.** -/
theorem formOf_holds (cs : List Char) : (formOf cs).Holds cs := by
  have hescapes (h : (!cs.any needsEscape) = true) : ∀ c ∈ cs, needsEscape c = false := by
    simpa using h
  unfold formOf
  dsimp only
  split_ifs with h1 h2 h3 h4 h5
  · trivial
  · simp only [Bool.and_eq_true] at h2
    obtain ⟨⟨he, hn⟩, hquote⟩ := h2
    intro c hc
    refine ⟨isPlain_of_not_needsEscape (hescapes he c hc) ?_, ?_⟩
    · rintro rfl
      simp [hc] at hn
    · rintro rfl
      simp [hc] at hquote
  · trivial
  · simp only [Bool.and_eq_true, decide_eq_true_eq] at h4
    exact ⟨hescapes h4.1, h4.2⟩
  · trivial
  · trivial

/-- **Every string reads back from the form it is written in**, when no quote follows it. -/
theorem read_writeAs {form : Form} (h : form.Holds cs)
    (hrest : rest.head? ≠ some '"' ∧ rest.head? ≠ some '\'') (hb : (writeAs form cs ++ rest).length ≤ bound) :
    read bound (writeAs form cs ++ rest) = some (String.ofList cs, rest) := by
  cases form with
  | basic =>
    have htext : writeAs .basic cs ++ rest = '"' :: (cs.flatMap writeChar ++ '"' :: rest) := by
      simp [writeAs]
    rw [htext] at hb ⊢
    rw [read_quote (basic_ne hrest.1), basic_written (le_trans (Nat.le_succ _) hb)]
  | literal =>
    have htext : writeAs .literal cs ++ rest = '\'' :: (cs ++ '\'' :: rest) := by
      simp [writeAs]
    rw [htext, read_apostrophe (literal_ne h hrest.2), literal_written h]
  | basicBlock =>
    obtain ⟨body, htext, hbody⟩ := (between_writeBlock (Nat.zero_le 2)).block_eq countsQuotes_basicBlockPart
      (by decide) hrest.1 hb
    exact (congrArg (read bound) htext).trans hbody
  | literalBlock =>
    obtain ⟨hcs, hrun⟩ := h
    rw [longestRun_eq] at hrun
    obtain ⟨body, htext, hbody⟩ := (between_literal le_rfl hcs hrun).block_eq countsQuotes_literalBlockPart
      (by decide) hrest.2 hb
    exact (congrArg (read bound) htext).trans hbody

end Quoted

end MediaIndex.Toml
