import Mathlib.Data.List.Forall2
import MediaIndex.Proofs.Toml.Values

/-!
# Written lines read back

A document is written line by line, each with one statement or none, and each line break ends a line. So the
lines can be read back one at a time, whatever stands after them.

* `key_written` -- a key of bare parts with points between them;
* `Says`, `says_header`, `says_element`, `says_assign` -- what a line reads as, and the lines there are;
* `statements_of_says` -- **a document reads as the statements of its lines**.
-/

namespace MediaIndex.Toml

variable {c : Char} {cs gap rest text : List Char} {key part : String} {more path : List String} {v : Value}
  {bound : Nat}

/-! ## 1. Keys -/

/-- A key needs no quotes. -/
def isBareKey (key : String) : Bool := !key.toList.isEmpty && key.toList.all isKeyChar

theorem not_isKeyChar_of_isBlank (h : isBlank c = true) : isKeyChar c = false := by
  rcases (by simpa [isBlank] using h : c = ' ' ∨ c = '\t') with rfl | rfl <;> decide

theorem not_isBlank_of_isKeyChar (h : isKeyChar c = true) : isBlank c = false := by
  by_contra hblank
  rw [not_isKeyChar_of_isBlank (Bool.not_eq_false _ ▸ hblank)] at h
  cases h

theorem skipBlanks_cons (h : isBlank c = false) : skipBlanks (c :: cs) = c :: cs := by
  simp [skipBlanks, h]

theorem skipBlanks_append (hgap : ∀ c ∈ gap, isBlank c = true) : skipBlanks (gap ++ cs) = skipBlanks cs :=
  List.dropWhile_append_of_pos hgap

theorem isBareKey_iff :
    isBareKey key = true ↔ key.toList ≠ [] ∧ ∀ c ∈ key.toList, isKeyChar c = true := by
  simp [isBareKey]

theorem exists_cons_of_isBareKey (h : isBareKey key = true) :
    ∃ c cs, key.toList = c :: cs ∧ isKeyChar c = true := by
  obtain ⟨hne, hall⟩ := isBareKey_iff.mp h
  obtain ⟨c, cs, e⟩ := List.exists_cons_of_ne_nil hne
  exact ⟨c, cs, e, hall c (by rw [e]; exact List.mem_cons_self)⟩

theorem keyPart_written (h : isBareKey part = true) (hrest : ∀ c ∈ rest.head?, isKeyChar c = false) :
    keyPart bound (part.toList ++ rest) = some (part, rest) := by
  obtain ⟨c, cs, htext, hc⟩ := exists_cons_of_isBareKey h
  have hspan := Reader.span_append (isBareKey_iff.mp h).2 hrest
  rw [htext, List.cons_append] at hspan ⊢
  unfold keyPart
  split
  next e => exact absurd (List.cons.inj e).1 (Reader.ne_of_test hc rfl)
  next e => exact absurd (List.cons.inj e).1 (Reader.ne_of_test hc rfl)
  next =>
    rw [hspan]
    show some (String.ofList (c :: cs), rest) = some (part, rest)
    rw [← htext, String.ofList_toList]

/-- What may stand behind a part of a key, blanks apart. -/
def EndsKey (c : Char) : Prop := isKeyChar c = false ∧ isBlank c = false

theorem spacedKeyPart_written (h : isBareKey part = true) (hgap : ∀ c ∈ gap, isBlank c = true)
    (hc : EndsKey c) :
    spacedKeyPart bound (part.toList ++ (gap ++ c :: rest)) = some (part, c :: rest) := by
  obtain ⟨a, as, e, ha⟩ := exists_cons_of_isBareKey h
  have hskip : skipBlanks (part.toList ++ (gap ++ c :: rest)) = part.toList ++ (gap ++ c :: rest) := by
    rw [e, List.cons_append, skipBlanks_cons (not_isBlank_of_isKeyChar ha)]
  have hnext : ∀ d ∈ (gap ++ c :: rest).head?, isKeyChar d = false := by
    cases gap with
    | nil =>
      rintro _ ⟨⟩
      exact hc.1
    | cons d gap =>
      rintro _ ⟨⟩
      exact not_isKeyChar_of_isBlank (hgap _ List.mem_cons_self)
  simp only [spacedKeyPart, hskip, keyPart_written h hnext, Option.bind_eq_bind, Option.bind_some,
    skipBlanks_append hgap, skipBlanks_cons hc.2]
  rfl

/-- A key as it is written: its parts with points between. -/
def keyText (part : String) (more : List String) : List Char :=
  part.toList ++ more.flatMap fun part => '.' :: part.toList

theorem parts_written (bound : Nat) (h : isBareKey part = true) (hmore : ∀ part ∈ more, isBareKey part = true)
    (hgap : ∀ c ∈ gap, isBlank c = true) (hc : EndsKey c) (hpoint : c ≠ '.') :
    ∃ left, spacedKeyPart bound (keyText part more ++ (gap ++ c :: rest)) = some (part, left) ∧
      Reader.Readings (Reader.after '.' (spacedKeyPart bound)) more left (c :: rest) ∧
      left.length ≤ (keyText part more ++ (gap ++ c :: rest)).length := by
  -- the blanks follow the last part; an earlier one is followed by its point at once
  induction more generalizing part with
  | nil =>
    refine ⟨c :: rest, ?_, .stop ?_, ?_⟩
    · simpa [keyText] using spacedKeyPart_written h hgap hc
    · simp [Reader.after, Reader.char, hpoint]
    · simp [keyText]
      omega
  | cons second more ih =>
    obtain ⟨hsecond, hmore⟩ := List.forall_mem_cons.mp hmore
    obtain ⟨left, hread, hreadings, hlen⟩ := ih hsecond hmore
    have htext : keyText part (second :: more) ++ (gap ++ c :: rest) =
        part.toList ++ ([] ++ '.' :: (keyText second more ++ (gap ++ c :: rest))) := by
      simp [keyText]
    refine ⟨'.' :: (keyText second more ++ (gap ++ c :: rest)), ?_, ?_, ?_⟩
    · rw [htext]
      exact spacedKeyPart_written h (List.forall_mem_nil _) ⟨by decide, by decide⟩
    · exact .next hread (Nat.lt_succ_of_le hlen) hreadings
    · rw [htext]
      simp

/-- The keys of a path can be written without quotes, and there are not too many of them. -/
structure IsBarePath (part : String) (more : List String) : Prop where
  bare : (part :: more).all isBareKey = true
  short : (part :: more).length < depthLimit

theorem isBarePath_of_isBareKey (h : isBareKey part = true) : IsBarePath part [] where
  bare := by simpa using h
  short := show 1 < depthLimit by decide

theorem IsBarePath.parts (h : IsBarePath part more) :
    isBareKey part = true ∧ ∀ part ∈ more, isBareKey part = true :=
  List.forall_mem_cons.mp (List.all_eq_true.mp h.bare)

/-- **A key reads back**, when it has fewer parts than the limit. -/
theorem key_written (gap : List Char) (h : IsBarePath part more) (hgap : ∀ c ∈ gap, isBlank c = true)
    (hc : EndsKey c) (hpoint : c ≠ '.') (hb : (keyText part more ++ (gap ++ c :: rest)).length ≤ bound) :
    Toml.key bound (keyText part more ++ (gap ++ c :: rest)) = some (part :: more, c :: rest) := by
  obtain ⟨hpart, hmore⟩ := h.parts
  obtain ⟨left, hread, hreadings, hlen⟩ := parts_written bound hpart hmore hgap hc hpoint
  have hparts := Reader.separated_eq hread hreadings (le_trans hlen hb)
  simp only [Toml.key, hparts, Option.bind_eq_bind, Option.bind_some, if_pos h.short]
  rfl

/-! ## 2. Lines -/

/-- A line reads as a statement or none, whatever stands behind its line break. -/
def Says (text : List Char) (s : Option Statement) : Prop :=
  ∀ bound rest, (text ++ '\n' :: rest).length ≤ bound → line bound (text ++ '\n' :: rest) = some (s, rest)

/-- A line whose statement is followed by its line break. -/
theorem line_eq {s : Option Statement} (hc : isBlank c = false)
    (h : statement? bound (c :: cs) = some (s, '\n' :: rest)) : line bound (c :: cs) = some (s, rest) := by
  have hskip : skipBlanks (c :: cs) = c :: cs := skipBlanks_cons hc
  simp only [line, List.isEmpty_cons, hskip, h, Option.bind_eq_bind, Option.bind_some]
  rfl

theorem says_nil : Says [] none := fun _ _ _ => rfl

theorem IsBarePath.key_bracket (h : IsBarePath part more)
    (hb : (keyText part more ++ ']' :: rest).length ≤ bound) :
    Toml.key bound (keyText part more ++ ']' :: rest) = some (part :: more, ']' :: rest) :=
  key_written [] h (List.forall_mem_nil _) ⟨by decide, by decide⟩ (by decide) hb

theorem IsBarePath.exists_cons (h : IsBarePath part more) :
    ∃ c cs, keyText part more = c :: cs ∧ isKeyChar c = true := by
  obtain ⟨c, cs, e, hc⟩ := exists_cons_of_isBareKey h.parts.1
  exact ⟨c, cs ++ more.flatMap fun part => '.' :: part.toList, by rw [keyText, e, List.cons_append], hc⟩

/-- A table header takes its path up to the bracket. -/
theorem says_header (h : IsBarePath part more) :
    Says ('[' :: (keyText part more ++ [']'])) (some (.header (part :: more))) := by
  intro bound rest hb
  have htext : '[' :: (keyText part more ++ [']']) ++ '\n' :: rest =
      '[' :: (keyText part more ++ ']' :: '\n' :: rest) := by simp
  rw [htext] at hb ⊢
  refine line_eq (by decide) ?_
  have hkey : Toml.key bound (keyText part more ++ ']' :: '\n' :: rest) =
      some (part :: more, ']' :: '\n' :: rest) := h.key_bracket (le_trans (Nat.le_succ _) hb)
  obtain ⟨c, cs, e, hc⟩ := h.exists_cons
  rw [e, List.cons_append] at hkey ⊢
  rw [statement?, tableHeader, hkey]
  · rfl
  · exact fun _ e => absurd (List.cons.inj e).1 (Reader.ne_of_test hc rfl)

/-- The header of an element of an array of tables has its brackets doubled. -/
theorem says_element (h : IsBarePath part more) :
    Says ('[' :: '[' :: (keyText part more ++ [']', ']'])) (some (.element (part :: more))) := by
  intro bound rest hb
  have htext : '[' :: '[' :: (keyText part more ++ [']', ']']) ++ '\n' :: rest =
      '[' :: '[' :: (keyText part more ++ ']' :: ']' :: '\n' :: rest) := by simp
  rw [htext] at hb ⊢
  refine line_eq (by decide) ?_
  have hkey : Toml.key bound (keyText part more ++ ']' :: ']' :: '\n' :: rest) =
      some (part :: more, ']' :: ']' :: '\n' :: rest) :=
    h.key_bracket (le_trans (Nat.le_add_right _ 2) hb)
  rw [statement?, elementHeader, hkey]
  rfl

/-- A value follows its key and an equals sign. -/
theorem pair_written (hk : isBareKey key = true) (hv : v.Written text)
    (hb : (key.toList ++ ' ' :: '=' :: ' ' :: (text ++ '\n' :: rest)).length ≤ bound) :
    pair bound (value bound depthLimit) (key.toList ++ ' ' :: '=' :: ' ' :: (text ++ '\n' :: rest)) =
      some (([key], v), '\n' :: rest) := by
  have hkey : Toml.key bound (key.toList ++ ' ' :: '=' :: ' ' :: (text ++ '\n' :: rest)) =
      some ([key], '=' :: ' ' :: (text ++ '\n' :: rest)) := by
    have htext : key.toList ++ ' ' :: '=' :: ' ' :: (text ++ '\n' :: rest) =
        keyText key [] ++ ([' '] ++ '=' :: ' ' :: (text ++ '\n' :: rest)) := by simp [keyText]
    rw [htext] at hb ⊢
    exact key_written [' '] (isBarePath_of_isBareKey hk) (List.forall_mem_singleton.mpr rfl)
      ⟨by decide, by decide⟩ (by decide) hb
  have hskip : skipBlanks (' ' :: (text ++ '\n' :: rest)) = text ++ '\n' :: rest := by
    cases text with
    | nil => rfl
    | cons c text => exact skipBlanks_cons (by simpa using hv.solid)
  have hvalue : value bound depthLimit (text ++ '\n' :: rest) = some (v, '\n' :: rest) := by
    refine hv.reads bound rest (le_trans ?_ hb)
    simp only [List.length_append, List.length_cons]
    omega
  refine Option.bind_eq_some_iff.mpr ⟨_, hkey, ?_⟩
  refine Option.bind_eq_some_iff.mpr ⟨_, rfl, ?_⟩
  exact Option.bind_eq_some_iff.mpr ⟨_, hskip ▸ hvalue, rfl⟩

theorem says_assign (hk : isBareKey key = true) (hv : v.Written text) :
    Says (key.toList ++ ' ' :: '=' :: ' ' :: text) (some (.assign [key] v)) := by
  intro bound rest hb
  have htext : key.toList ++ ' ' :: '=' :: ' ' :: text ++ '\n' :: rest =
      key.toList ++ ' ' :: '=' :: ' ' :: (text ++ '\n' :: rest) := by simp
  rw [htext] at hb ⊢
  have hpair := pair_written hk hv hb
  obtain ⟨c, cs, e, hc⟩ := exists_cons_of_isBareKey hk
  have hkeep : ¬ ((c :: (cs ++ ' ' :: '=' :: ' ' :: (text ++ '\n' :: rest))).head?.all
      fun c => c == '#' || c == '\n' || c == '\r') = true := by
    simp only [List.head?_cons, Option.all_some, Bool.or_eq_true, beq_iff_eq]
    have hne : (c ≠ '#' ∧ c ≠ '\n') ∧ c ≠ '\r' :=
      ⟨⟨Reader.ne_of_test hc rfl, Reader.ne_of_test hc rfl⟩, Reader.ne_of_test hc rfl⟩
    simpa only [not_or] using hne
  rw [e, List.cons_append] at hpair ⊢
  refine line_eq (not_isBlank_of_isKeyChar hc) ?_
  rw [statement?, if_neg hkeep, hpair]
  · rfl
  · exact fun _ e => absurd (List.cons.inj e).1 (Reader.ne_of_test hc rfl)
  · exact fun _ e => absurd (List.cons.inj e).1 (Reader.ne_of_test hc rfl)

/-! ## 3. Documents -/

/-- A document: lines, each with its line break. -/
def documentOf (lines : List (List Char)) : List Char := lines.flatMap fun line => line ++ ['\n']

theorem readings_lines {lines : List (List Char)} {said : List (Option Statement)}
    (h : List.Forall₂ Says lines said) (hb : (documentOf lines).length ≤ bound) :
    Reader.Readings (line bound) said (documentOf lines) [] := by
  induction h with
  | nil => exact .stop rfl
  | @cons text s lines said hs h ih =>
    have htext : documentOf (text :: lines) = text ++ '\n' :: documentOf lines := by simp [documentOf]
    rw [htext] at hb ⊢
    have hlt : (documentOf lines).length < (text ++ '\n' :: documentOf lines).length := by
      simp only [List.length_append, List.length_cons]
      omega
    exact .next (hs bound _ hb) hlt (ih (by omega))

/-- **A document reads as the statements of its lines**, if it starts with no byte order mark. -/
theorem statements_of_says {lines : List (List Char)} {said : List (Option Statement)}
    (h : List.Forall₂ Says lines said) (hmark : Reader.char '\ufeff' (documentOf lines) = none) :
    statements (documentOf lines) = some (said.filterMap id) := by
  simp only [statements, hmark, Option.getD_none, (readings_lines h le_rfl).many_eq le_rfl]

end MediaIndex.Toml
