import MediaIndex.Column
import MediaIndex.Proofs.Pattern.WordOrder

/-!
# Lists of columns that are written and read back

A list of columns is written as entries with commas between them, `field=name` each. White space around an
entry and around its first `=` does not count, and neither does a blank entry. Reading refuses a list exactly
for an entry that is not blank but has a blank field, whatever the other entries are.

* `trimChars_append`, `trimChars_eq_nil_iff` -- the white space around a text;
* `splitAtFirst_eq_some_iff` -- what stands before and after the first occurrence of a character;
* `mapM_eq_ok_iff`, `mapM_eq_error_iff` -- reading one thing after another until one is refused;
* `Column.ofChars_trimChars`, `parseList_eq` -- the entries are read as they stand;
* `Column.Lists`, `Lists.parseList_eq_ok` -- columns that are written are read back;
* `Column.Fieldless`, `validate_ofChars_eq_error_iff` -- the entries that are refused;
* `Column.lists_read_back` -- both, for every list of columns and every text.
-/

namespace MediaIndex

variable {c : Char} {cs front rest gap gap' : List Char}

/-! ## 1. White space around a text -/

theorem trimEndChars_append (h : IsBlank gap) : trimEndChars (cs ++ gap) = trimEndChars cs := by
  have hgap : ∀ c ∈ gap.reverse, isWhiteSpace c = true := fun c hc => h c (List.mem_reverse.mp hc)
  rw [trimEndChars, List.reverse_append, List.dropWhile_append_of_pos hgap, ← trimEndChars]

/-- **White space around a text is trimmed.** -/
theorem trimChars_append (h : IsBlank gap) (h' : IsBlank gap') :
    trimChars (gap ++ cs ++ gap') = trimChars cs := by
  rw [trimChars, List.append_assoc, List.dropWhile_append_of_pos h, List.dropWhile_append]
  split
  next hcs =>
    have hblank : gap'.dropWhile isWhiteSpace = [] := List.dropWhile_eq_nil_iff.mpr h'
    rw [hblank, trimChars, List.isEmpty_iff.mp hcs]
  next => exact trimEndChars_append h'

/-- **A text is trimmed to nothing exactly when it is blank.** -/
theorem trimChars_eq_nil_iff : trimChars cs = [] ↔ IsBlank cs := by
  constructor
  · intro h
    have hblank : IsBlank (cs.dropWhile isWhiteSpace) := fun c hc => by
      have hr := List.dropWhile_eq_nil_iff.mp (List.reverse_eq_nil_iff.mp h)
      exact hr c (List.mem_reverse.mpr hc)
    rw [← List.takeWhile_append_dropWhile (p := isWhiteSpace) (l := cs)]
    intro c hc
    rcases List.mem_append.mp hc with hc | hc
    · exact List.mem_takeWhile_imp hc
    · exact hblank c hc
  · intro h
    have hall : trimChars (cs ++ [] ++ []) = trimChars [] := trimChars_append h isBlank_nil
    rwa [List.append_nil, List.append_nil] at hall

/-- A text is its trimmed form with white space around it. -/
theorem exists_trimmed (cs : List Char) :
    ∃ gap gap', IsBlank gap ∧ IsBlank gap' ∧ cs = gap ++ trimChars cs ++ gap' := by
  refine ⟨cs.takeWhile isWhiteSpace, (cs.dropWhile isWhiteSpace).rtakeWhile isWhiteSpace,
    fun c hc => List.mem_takeWhile_imp hc, fun c hc => List.mem_rtakeWhile_imp hc, ?_⟩
  rw [trimChars, trimEndChars, ← List.rdropWhile, List.append_assoc, List.rdropWhile_append_rtakeWhile,
    List.takeWhile_append_dropWhile]

theorem IsBlank.not_mem (h : IsBlank gap) (hc : isWhiteSpace c = false) : c ∉ gap := by
  intro hm
  rw [h c hm] at hc
  cases hc

/-! ## 2. The first occurrence of a character -/

theorem splitAtFirst_eq_some_iff :
    splitAtFirst c cs = some (front, rest) ↔ cs = front ++ c :: rest ∧ c ∉ front := by
  induction cs generalizing front with
  | nil => simp [splitAtFirst]
  | cons x cs ih =>
    rw [splitAtFirst]
    split
    next e =>
      subst e
      cases front with
      | nil => simp
      | cons y front => simp_all
    next e =>
      cases front with
      | nil => simp [e]
      | cons y front =>
        simp only [Option.map_eq_some_iff, Prod.exists, Prod.mk.injEq, List.cons.injEq, List.cons_append,
          List.mem_cons, not_or]
        constructor
        · rintro ⟨front, rest, h, ⟨rfl, rfl⟩, rfl⟩
          obtain ⟨rfl, hnot⟩ := ih.mp h
          exact ⟨⟨rfl, rfl⟩, Ne.symm e, hnot⟩
        · rintro ⟨⟨rfl, rfl⟩, -, hnot⟩
          exact ⟨front, rest, ih.mpr ⟨rfl, hnot⟩, ⟨rfl, rfl⟩, rfl⟩

theorem splitAtFirst_eq_none_iff : splitAtFirst c cs = none ↔ c ∉ cs := by
  induction cs with
  | nil => simp [splitAtFirst]
  | cons x cs ih =>
    rw [splitAtFirst]
    split
    next e => simp [e]
    next e => simp [ih, Ne.symm e]

/-- The entries are what stands between the occurrences of a character. -/
structure Divided (c : Char) (text : List Char) (entries : List (List Char)) : Prop where
  ne_nil : entries ≠ []
  not_mem : ∀ entry ∈ entries, c ∉ entry
  joined : [c].intercalate entries = text

theorem not_mem_of_mem_splitAtChar {entry : List Char} (h : entry ∈ splitAtChar c cs) : c ∉ entry := by
  induction cs generalizing entry with
  | nil =>
    rw [List.mem_singleton.mp h]
    exact List.not_mem_nil
  | cons x cs ih =>
    rw [splitAtChar] at h
    split at h
    next =>
      rcases List.mem_cons.mp h with rfl | h
      · exact List.not_mem_nil
      · exact ih h
    next e =>
      split at h
      next =>
        rw [List.mem_singleton.mp h, List.mem_singleton]
        exact Ne.symm e
      next first others hsplit =>
        rw [hsplit] at ih
        rcases List.mem_cons.mp h with rfl | h
        · exact List.not_mem_cons_of_ne_of_not_mem (Ne.symm e) (ih List.mem_cons_self)
        · exact ih (List.mem_cons_of_mem _ h)

/-- **A text is divided in one way**, the one that `splitAtChar` finds. -/
theorem divided_iff {entries : List (List Char)} : Divided c cs entries ↔ entries = splitAtChar c cs := by
  constructor
  · intro h
    rw [splitAtChar_eq_splitOn, ← h.joined, List.splitOn_intercalate c h.not_mem h.ne_nil]
  · intro e
    subst e
    refine ⟨?_, fun entry h => not_mem_of_mem_splitAtChar h, ?_⟩
    · rw [splitAtChar_eq_splitOn]
      exact List.splitOn_ne_nil c cs
    · rw [splitAtChar_eq_splitOn, List.intercalate_splitOn]

/-! ## 3. One thing after another -/

section Traverse

variable {α β ε : Type} {f : α → Except ε β} {l : List α} {bs : List β} {e : ε}

/-- All are read when each of them is. -/
theorem mapM_eq_ok_iff : l.mapM f = .ok bs ↔ List.Forall₂ (fun a b => f a = .ok b) l bs := by
  induction l generalizing bs with
  | nil => cases bs <;> simp [pure, Except.pure]
  | cons a l ih =>
    rw [List.mapM_cons]
    cases hf : f a with
    | error e => cases bs <;> simp [bind, Except.bind, hf]
    | ok b =>
      cases hl : l.mapM f with
      | error e => cases bs <;> simp [bind, Except.bind, hf, hl, ← ih]
      | ok bs' => cases bs <;> simp [bind, Except.bind, pure, Except.pure, hf, hl, ← ih]

theorem exists_of_mem_left {R : α → β → Prop} (h : List.Forall₂ R l bs) {a : α} (hm : a ∈ l) :
    ∃ b ∈ bs, R a b := by
  induction h with
  | nil => exact absurd hm List.not_mem_nil
  | cons hr _ ih =>
    rcases List.mem_cons.mp hm with rfl | hm
    · exact ⟨_, List.mem_cons_self, hr⟩
    · obtain ⟨b, hb, hr⟩ := ih hm
      exact ⟨b, List.mem_cons_of_mem _ hb, hr⟩

theorem exists_of_mem_right {R : α → β → Prop} (h : List.Forall₂ R l bs) {b : β} (hm : b ∈ bs) :
    ∃ a ∈ l, R a b := exists_of_mem_left h.flip hm

/-- **The first one that is refused decides**, and nothing after it counts. -/
theorem mapM_eq_error_iff : l.mapM f = .error e ↔ ∃ before a after, l = before ++ a :: after ∧
    (∀ b ∈ before, ∃ read, f b = .ok read) ∧ f a = .error e := by
  induction l with
  | nil => simp [pure, Except.pure]
  | cons a l ih =>
    rw [List.mapM_cons]
    constructor
    · intro h
      cases hf : f a with
      | error e' =>
        rw [hf] at h
        cases h
        exact ⟨[], a, l, rfl, List.forall_mem_nil _, hf⟩
      | ok b =>
        cases hl : l.mapM f with
        | ok bs =>
          rw [hf, hl] at h
          cases h
        | error e' =>
          rw [hf, hl] at h
          cases h
          obtain ⟨before, a', after, rfl, hbefore, he⟩ := ih.mp hl
          exact ⟨a :: before, a', after, rfl, List.forall_mem_cons.mpr ⟨⟨b, hf⟩, hbefore⟩, he⟩
    · intro h
      obtain ⟨before, a', after, hl, hbefore, he⟩ := h
      cases before with
      | nil =>
        obtain ⟨rfl, rfl⟩ := List.cons.inj hl
        rw [he]
        rfl
      | cons b before =>
        obtain ⟨rfl, rfl⟩ := List.cons.inj hl
        obtain ⟨⟨read, hread⟩, hbefore⟩ := List.forall_mem_cons.mp hbefore
        rw [hread, ih.mpr ⟨before, a', after, rfl, hbefore, he⟩]
        rfl

/-- What is left out counts for nothing. -/
theorem mapM_filter_eq_error_iff {p : α → Bool} : (l.filter p).mapM f = .error e ↔
    ∃ before a after, l = before ++ a :: after ∧
      (∀ b ∈ before, p b = true → ∃ read, f b = .ok read) ∧ p a = true ∧ f a = .error e := by
  rw [mapM_eq_error_iff]
  constructor
  · intro h
    obtain ⟨kept, a, others, hl, hkept, he⟩ := h
    obtain ⟨before, rest, rfl, rfl, hrest⟩ := List.filter_eq_append_iff.mp hl
    obtain ⟨left, after, rfl, hleft, ha, rfl⟩ := List.filter_eq_cons_iff.mp hrest
    refine ⟨before ++ left, a, after, by simp, fun b hb hp => ?_, ha, he⟩
    rcases List.mem_append.mp hb with hb | hb
    · exact hkept b (List.mem_filter.mpr ⟨hb, hp⟩)
    · exact absurd hp (hleft b hb)
  · intro h
    obtain ⟨before, a, after, rfl, hbefore, ha, he⟩ := h
    refine ⟨before.filter p, a, after.filter p, ?_, fun b hb => ?_, he⟩
    · rw [List.filter_append, List.filter_cons_of_pos ha]
    · exact hbefore b (List.mem_filter.mp hb).1 (List.mem_filter.mp hb).2

end Traverse

namespace Column

variable {column : Column} {columns : List Column} {entry : List Char} {entries : List (List Char)} {e : EmptyField}
  {text : String}

/-! ## 4. Entries -/

/-- **White space around an entry does not count.** -/
theorem ofChars_trimChars (cs : List Char) : ofChars (trimChars cs) = ofChars cs := by
  obtain ⟨gap, gap', hgap, hgap', e⟩ := exists_trimmed cs
  cases hs : splitAtFirst '=' (trimChars cs) with
  | some parts =>
    obtain ⟨field, name⟩ := parts
    obtain ⟨ht, hfield⟩ := splitAtFirst_eq_some_iff.mp hs
    have hcs : splitAtFirst '=' cs = some (gap ++ field, name ++ gap') := by
      refine splitAtFirst_eq_some_iff.mpr ⟨?_, ?_⟩
      · rw [e, ht]
        simp
      · rw [List.mem_append, not_or]
        exact ⟨hgap.not_mem (by decide), hfield⟩
    have hstart : trimChars (gap ++ field ++ []) = trimChars field := trimChars_append hgap isBlank_nil
    have hstop : trimChars ([] ++ name ++ gap') = trimChars name := trimChars_append isBlank_nil hgap'
    rw [List.append_nil] at hstart
    rw [List.nil_append] at hstop
    simp only [ofChars, hs, hcs, hstart, hstop]
  | none =>
    have hcs : splitAtFirst '=' cs = none := by
      rw [splitAtFirst_eq_none_iff] at hs ⊢
      rw [e]
      simp only [List.mem_append, not_or]
      exact ⟨⟨hgap.not_mem (by decide), hs⟩, hgap'.not_mem (by decide)⟩
    simp only [ofChars, hs, hcs, trimChars_trimChars]

/-- Each entry is read as it stands, unless it is blank. -/
theorem parseList_eq (text : String) : parseList text =
    ((splitAtChar ',' text.toList).filter (trimChars · ≠ [])).mapM fun entry => (ofChars entry).validate := by
  rw [parseList, List.filter_map, List.mapM_map]
  have hread : (fun entry => (ofChars entry).validate) ∘ trimChars = fun entry => (ofChars entry).validate := by
    funext entry
    rw [Function.comp_apply, ofChars_trimChars]
  rw [hread]
  rfl

theorem validate_eq_ok_iff {c c' : Column} : c.validate = .ok c' ↔ c.namesField = true ∧ c' = c := by
  unfold validate
  cases c.namesField with
  | true => simp [eq_comm]
  | false => simp

/-- What is written is never the implicit column. -/
theorem isUnclassified_ofChars (cs : List Char) : (ofChars cs).isUnclassified = false := by
  unfold ofChars
  split <;> rfl

/-! ## 5. Columns that are written -/

/-- A field and a name that can be written in a list. -/
structure Plain (field name : List Char) : Prop where
  field_ne : field ≠ []
  field_trimmed : trimChars field = field
  name_trimmed : trimChars name = name
  comma_not_mem : ',' ∉ field ∧ ',' ∉ name
  equals_not_mem : '=' ∉ field

/-- The entries write the columns, with white space around both parts of an entry and any number of blank
    entries. -/
inductive Lists : List (List Char) → List Column → Prop
  | nil : Lists [] []
  | blank {gap : List Char} {entries : List (List Char)} {columns : List Column} (hgap : IsBlank gap)
      (h : Lists entries columns) : Lists (gap :: entries) columns
  | column {start before after stop field name : List Char} {entries : List (List Char)}
      {columns : List Column} (hfield : IsBlank start ∧ IsBlank before) (hname : IsBlank after ∧ IsBlank stop)
      (hplain : Plain field name) (h : Lists entries columns) :
      Lists ((start ++ field ++ before ++ '=' :: (after ++ name ++ stop)) :: entries)
        (.ofField (String.ofList field) (String.ofList name) :: columns)

theorem comma_not_mem_blank (h : IsBlank gap) : ',' ∉ gap := h.not_mem (by decide)

/-- No entry has a comma in it. -/
theorem Lists.comma_not_mem (h : Lists entries columns) : ∀ entry ∈ entries, ',' ∉ entry := by
  induction h with
  | nil => exact List.forall_mem_nil _
  | blank hgap _ ih => exact List.forall_mem_cons.mpr ⟨comma_not_mem_blank hgap, ih⟩
  | column hfield hname hplain _ ih =>
    refine List.forall_mem_cons.mpr ⟨?_, ih⟩
    simp only [List.mem_append, List.mem_cons, not_or]
    exact ⟨⟨⟨comma_not_mem_blank hfield.1, hplain.comma_not_mem.1⟩, comma_not_mem_blank hfield.2⟩, by decide,
      ⟨comma_not_mem_blank hname.1, hplain.comma_not_mem.2⟩, comma_not_mem_blank hname.2⟩

/-- An entry that writes a column is read as the column. -/
theorem Plain.ofChars_eq {field name start before after stop : List Char} (h : Plain field name)
    (hfield : IsBlank start ∧ IsBlank before) (hname : IsBlank after ∧ IsBlank stop) :
    ofChars (start ++ field ++ before ++ '=' :: (after ++ name ++ stop)) =
      .ofField (String.ofList field) (String.ofList name) := by
  have hs : splitAtFirst '=' (start ++ field ++ before ++ '=' :: (after ++ name ++ stop)) =
      some (start ++ field ++ before, after ++ name ++ stop) := by
    refine splitAtFirst_eq_some_iff.mpr ⟨rfl, ?_⟩
    simp only [List.mem_append, not_or]
    exact ⟨⟨hfield.1.not_mem (by decide), h.equals_not_mem⟩, hfield.2.not_mem (by decide)⟩
  simp only [ofChars, hs, trimChars_append hfield.1 hfield.2, trimChars_append hname.1 hname.2,
    h.field_trimmed, h.name_trimmed]

theorem namesField_ofField_iff {field name : List Char} :
    (ofField (String.ofList field) (String.ofList name)).namesField = true ↔ field ≠ [] := by
  simp [namesField, isUnclassified, Column.field, ← String.toList_inj]

/-- Such an entry is not blank. -/
theorem not_isBlank_of_mem_equals (h : '=' ∈ entry) : ¬ IsBlank entry :=
  fun hblank => hblank.not_mem (by decide) h

theorem Lists.mapM_eq (h : Lists entries columns) :
    (entries.filter (trimChars · ≠ [])).mapM (fun entry => (ofChars entry).validate) = .ok columns := by
  rw [mapM_eq_ok_iff]
  induction h with
  | nil => exact .nil
  | blank hgap _ ih =>
    rwa [List.filter_cons_of_neg]
    simpa using trimChars_eq_nil_iff.mpr hgap
  | column hfield hname hplain _ ih =>
    rw [List.filter_cons_of_pos]
    · refine .cons (validate_eq_ok_iff.mpr ?_) ih
      rw [hplain.ofChars_eq hfield hname]
      exact ⟨namesField_ofField_iff.mpr hplain.field_ne, rfl⟩
    · refine decide_eq_true fun hnil => ?_
      exact not_isBlank_of_mem_equals (List.mem_append_right _ List.mem_cons_self) (trimChars_eq_nil_iff.mp hnil)

/-- **Columns that are written are read back.** -/
theorem Lists.parseList_eq_ok (h : Lists entries columns) :
    parseList (String.ofList ([','].intercalate entries)) = .ok columns := by
  rw [parseList_eq, String.toList_ofList]
  by_cases hne : entries = []
  · subst hne
    cases h
    rfl
  · rw [← divided_iff.mp ⟨hne, h.comma_not_mem, rfl⟩]
    exact h.mapM_eq

/-! ## 6. Entries that are refused -/

/-- The entry is not blank, but what stands before its first `=`, or all of it when there is none, is. -/
def Fieldless (entry : List Char) : Prop := ¬ IsBlank entry ∧ IsBlank (entry.takeWhile (· ≠ '='))

theorem fieldless_iff : Fieldless entry ↔ ∃ gap name, IsBlank gap ∧ entry = gap ++ '=' :: name := by
  constructor
  · intro h
    obtain ⟨hne, hblank⟩ := h
    refine ⟨entry.takeWhile (· ≠ '='), (entry.dropWhile (· ≠ '=')).tail, hblank, ?_⟩
    have hdrop : entry.dropWhile (· ≠ '=') ≠ [] := fun hnil => by
      have hall := List.takeWhile_append_dropWhile (p := (· ≠ '=')) (l := entry)
      rw [hnil, List.append_nil] at hall
      exact hne (hall ▸ hblank)
    have hhead := List.head_dropWhile_not (p := (· ≠ '=')) (l := entry) hdrop
    have hcons := List.cons_head_tail hdrop
    have he : (entry.dropWhile (· ≠ '=')).head hdrop = '=' := by simpa using hhead
    rw [he] at hcons
    rw [hcons, List.takeWhile_append_dropWhile]
  · intro h
    obtain ⟨gap, name, hgap, rfl⟩ := h
    refine ⟨not_isBlank_of_mem_equals (List.mem_append_right _ List.mem_cons_self), ?_⟩
    have hall : ∀ c ∈ gap, decide (c ≠ '=') = true := fun c hc =>
      decide_eq_true fun e => hgap.not_mem (by decide) (e ▸ hc)
    rw [List.takeWhile_append_of_pos hall, List.takeWhile_cons_of_neg (by simp), List.append_nil]
    exact hgap

theorem validate_ofField_eq_error_iff {field name : List Char} :
    (ofField (String.ofList field) (String.ofList name)).validate = .error e ↔
      field = [] ∧ e.name = String.ofList name := by
  obtain ⟨told⟩ := e
  unfold validate
  by_cases h : field = []
  · rw [if_neg fun hn => namesField_ofField_iff.mp hn h]
    simp [h, Column.name, eq_comm]
  · rw [if_pos (namesField_ofField_iff.mpr h)]
    simp [h]

/-- **An entry that is not blank is refused exactly when its field is**, and told of by its name. -/
theorem validate_ofChars_eq_error_iff (hne : ¬ IsBlank entry) : (ofChars entry).validate = .error e ↔
    ∃ gap name, IsBlank gap ∧ entry = gap ++ '=' :: name ∧ e.name = trim (String.ofList name) := by
  cases hs : splitAtFirst '=' entry with
  | none =>
    have hnot := splitAtFirst_eq_none_iff.mp hs
    simp only [ofChars, hs, validate_ofField_eq_error_iff, trimChars_eq_nil_iff]
    refine iff_of_false (fun h => hne h.1) fun h => ?_
    obtain ⟨gap, name, -, rfl, -⟩ := h
    exact hnot (List.mem_append_right _ List.mem_cons_self)
  | some parts =>
    obtain ⟨field, name⟩ := parts
    obtain ⟨he, hfield⟩ := splitAtFirst_eq_some_iff.mp hs
    simp only [ofChars, hs, validate_ofField_eq_error_iff, trimChars_eq_nil_iff]
    constructor
    · intro h
      exact ⟨field, name, h.1, he, by rw [h.2, trim, String.toList_ofList]⟩
    · intro h
      obtain ⟨gap, name', hgap, he', hname⟩ := h
      -- the first `=` is the one behind the white space
      have hsplit := splitAtFirst_eq_some_iff.mpr ⟨he', hgap.not_mem (c := '=') (by decide)⟩
      rw [hs] at hsplit
      cases hsplit
      exact ⟨hgap, by rw [hname, trim, String.toList_ofList]⟩

/-! ## 7. Every text -/

/-- What reading a list of columns comes to, `entries` being what stands between its commas. -/
structure Reads (text : String) (entries : List (List Char)) : Prop where
  /-- The text is divided in this way only. -/
  divided_iff : ∀ other, Divided ',' text.toList other ↔ other = entries
  refused_iff : (∃ e, parseList text = .error e) ↔ ∃ entry ∈ entries, Fieldless entry
  /-- The first entry that is refused is told of, by its name. -/
  error_iff : ∀ e, parseList text = .error e ↔ ∃ before gap name after,
    entries = before ++ (gap ++ '=' :: name) :: after ∧ (∀ entry ∈ before, ¬ Fieldless entry) ∧
    IsBlank gap ∧ e.name = trim (String.ofList name)
  valid : ∀ columns, parseList text = .ok columns →
    ∀ column ∈ columns, column.validate = .ok column ∧ column.isUnclassified = false

theorem Fieldless.exists_error (h : Fieldless entry) : ∃ e, (ofChars entry).validate = .error e := by
  obtain ⟨gap, name, hgap, rfl⟩ := fieldless_iff.mp h
  exact ⟨⟨trim (String.ofList name)⟩, (validate_ofChars_eq_error_iff h.1).mpr ⟨gap, name, hgap, rfl, rfl⟩⟩

/-- An entry that is not refused is blank or a column. -/
theorem not_fieldless_iff : ¬ Fieldless entry ↔
    (decide (trimChars entry ≠ []) = true → ∃ column, (ofChars entry).validate = .ok column) := by
  rw [decide_eq_true_iff, ne_eq, trimChars_eq_nil_iff]
  constructor
  · intro h hne
    cases he : (ofChars entry).validate with
    | ok column => exact ⟨column, rfl⟩
    | error e =>
      obtain ⟨gap, name, hgap, rfl, -⟩ := (validate_ofChars_eq_error_iff hne).mp he
      exact absurd (fieldless_iff.mpr ⟨gap, name, hgap, rfl⟩) h
  · intro h hf
    obtain ⟨column, hc⟩ := h hf.1
    obtain ⟨e, he⟩ := hf.exists_error
    rw [he] at hc
    cases hc

theorem parseList_eq_error_iff : parseList text = .error e ↔ ∃ before gap name after,
    splitAtChar ',' text.toList = before ++ (gap ++ '=' :: name) :: after ∧
      (∀ entry ∈ before, ¬ Fieldless entry) ∧ IsBlank gap ∧ e.name = trim (String.ofList name) := by
  rw [parseList_eq, mapM_filter_eq_error_iff]
  simp only [← not_fieldless_iff]
  constructor
  · intro h
    obtain ⟨before, entry, after, hl, hbefore, hne, he⟩ := h
    have hne : ¬ IsBlank entry := trimChars_eq_nil_iff.not.mp (of_decide_eq_true hne)
    obtain ⟨gap, name, hgap, rfl, hname⟩ := (validate_ofChars_eq_error_iff hne).mp he
    exact ⟨before, gap, name, after, hl, hbefore, hgap, hname⟩
  · intro h
    obtain ⟨before, gap, name, after, hl, hbefore, hgap, hname⟩ := h
    have hne : ¬ IsBlank (gap ++ '=' :: name) :=
      not_isBlank_of_mem_equals (List.mem_append_right _ List.mem_cons_self)
    exact ⟨before, _, after, hl, hbefore, decide_eq_true (trimChars_eq_nil_iff.not.mpr hne),
      (validate_ofChars_eq_error_iff hne).mpr ⟨gap, name, hgap, rfl, hname⟩⟩

/-- **Every text is read or refused by what stands between its commas.** -/
theorem reads_splitAtChar (text : String) : Reads text (splitAtChar ',' text.toList) where
  divided_iff _ := divided_iff
  error_iff _ := parseList_eq_error_iff
  refused_iff := by
    constructor
    · intro h
      obtain ⟨e, he⟩ := h
      obtain ⟨before, gap, name, after, hl, -, hgap, -⟩ := parseList_eq_error_iff.mp he
      refine ⟨gap ++ '=' :: name, ?_, fieldless_iff.mpr ⟨gap, name, hgap, rfl⟩⟩
      rw [hl]
      exact List.mem_append_right _ List.mem_cons_self
    · intro h
      obtain ⟨entry, hm, hf⟩ := h
      cases hp : parseList text with
      | error e => exact ⟨e, rfl⟩
      | ok columns =>
        -- all entries that are not blank have been read, this one too
        rw [parseList_eq, mapM_eq_ok_iff] at hp
        have hne : decide (trimChars entry ≠ []) = true := decide_eq_true (trimChars_eq_nil_iff.not.mpr hf.1)
        obtain ⟨column, -, hc⟩ := exists_of_mem_left hp (List.mem_filter.mpr ⟨hm, hne⟩)
        obtain ⟨e, he⟩ := hf.exists_error
        rw [he] at hc
        cases hc
  valid columns h column hm := by
    rw [parseList_eq, mapM_eq_ok_iff] at h
    obtain ⟨entry, -, hc⟩ := exists_of_mem_right h hm
    obtain ⟨hnames, rfl⟩ := validate_eq_ok_iff.mp hc
    exact ⟨validate_eq_ok_iff.mpr ⟨hnames, rfl⟩, isUnclassified_ofChars entry⟩

/-- **Lists of columns are read back**, and what is refused is an entry with a blank field, in every text. -/
theorem lists_read_back :
    (∀ entries columns, Lists entries columns →
      parseList (String.ofList ([','].intercalate entries)) = .ok columns) ∧
    ∀ text, ∃ entries, Reads text entries :=
  ⟨fun _ _ h => h.parseList_eq_ok, fun text => ⟨_, reads_splitAtChar text⟩⟩

/-- Two columns with white space around their parts, one with an empty name, and blank entries between them. -/
def spacedEntries : List (List Char) :=
  [[' '] ++ "artist".toList ++ ['\n'] ++ '=' :: (['\t'] ++ "Album = Artist".toList ++ []),
    [], [' ', '\u3000'],
    [] ++ "date of".toList ++ [] ++ '=' :: ([' '] ++ "Year".toList ++ [' ']),
    [] ++ "genre".toList ++ [] ++ '=' :: ([] ++ "".toList ++ [' '])]

theorem lists_read_back_spaced :
    Lists spacedEntries [.ofField "artist" "Album = Artist", .ofField "date of" "Year", .ofField "genre" ""] ∧
      parseList " artist\n=\tAlbum = Artist,, \u3000,date of= Year ,genre= " =
        .ok [.ofField "artist" "Album = Artist", .ofField "date of" "Year", .ofField "genre" ""] := by
  have hblank (gap : List Char) (h : gap.all isWhiteSpace = true) : IsBlank gap := List.all_eq_true.mp h
  have h := Lists.column ⟨hblank [' '] rfl, hblank ['\n'] rfl⟩ ⟨hblank ['\t'] rfl, hblank [] rfl⟩
      (⟨by decide, by decide, by decide, by decide, by decide⟩ : Plain "artist".toList "Album = Artist".toList) <|
    .blank isBlank_nil <| .blank (hblank [' ', '\u3000'] rfl) <|
    .column ⟨hblank [] rfl, hblank [] rfl⟩ ⟨hblank [' '] rfl, hblank [' '] rfl⟩
      (⟨by decide, by decide, by decide, by decide, by decide⟩ : Plain "date of".toList "Year".toList) <|
    .column ⟨hblank [] rfl, hblank [] rfl⟩ ⟨hblank [] rfl, hblank [' '] rfl⟩
      (⟨by decide, by decide, by decide, by decide, by decide⟩ : Plain "genre".toList "".toList) .nil
  rw [String.ofList_toList, String.ofList_toList, String.ofList_toList, String.ofList_toList,
    String.ofList_toList, String.ofList_toList] at h
  have htext : " artist\n=\tAlbum = Artist,, \u3000,date of= Year ,genre= " =
      String.ofList ([','].intercalate spacedEntries) := by decide +kernel
  rw [htext]
  exact ⟨h, lists_read_back.1 spacedEntries _ h⟩

end Column

end MediaIndex
