import MediaIndex.Proofs.Grouping.Partition
import MediaIndex.Proofs.Text.Splitting

/-!
# The values of a field

The text of a field goes through three hands: the separators are taken out of it, it is split at a delimiter
and its pieces are trimmed and joined, and what is joined is taken apart again. Nothing is lost or merged on
the way, since no piece holds the separator they are joined with.

* `Joinable.partsOf_intercalate` -- what is joined is taken apart into what it was joined from;
* `entriesOf`, `valuesOf_of_splits` -- the trimmed pieces of a text that are not empty, and the values they make;
* `FieldValues` -- what the values of a field are, told by the pieces of its text;
* `fieldExtractor_of_absent` -- a text without the delimiter is trimmed and not split;
* `values_of_field` -- the values of every item, column and delimiter.
-/

namespace MediaIndex

variable {delimiter : String} {text : List Char} {pieces : List (List Char)}

/-! ## 1. Joining and taking apart -/

/-- The pieces can be told apart when they are joined. -/
def Joinable (pieces : List (List Char)) : Prop :=
  ∀ piece ∈ pieces, piece ≠ [] ∧ valueSeparator ∉ piece ∧ keySeparator ∉ piece

/-- **What is joined is taken apart into what it was joined from.** -/
theorem Joinable.partsOf_intercalate (h : Joinable pieces) :
    partsOf ([valueSeparator].intercalate pieces) = pieces := by
  cases pieces with
  | nil => rfl
  | cons piece rest =>
    have hsplit := List.splitOn_intercalate valueSeparator (fun p hp => (h p hp).2.1)
      (List.cons_ne_nil piece rest)
    have hclean : (piece :: rest).map (·.filter (· ≠ keySeparator)) = (piece :: rest).map id := by
      refine List.map_congr_left fun p hp => List.filter_eq_self.mpr fun c hc => decide_eq_true ?_
      exact fun e => (h p hp).2.2 (e ▸ hc)
    rw [partsOf, splitAtChar_eq_splitOn, hsplit, hclean, List.map_id]
    exact List.filter_eq_self.mpr fun p hp => decide_eq_true (h p hp).1

theorem Joinable.valuesOf_intercalate (h : Joinable pieces) :
    valuesOf (String.ofList ([valueSeparator].intercalate pieces)) =
      if pieces = [] then [""] else (pieces.map String.ofList).eraseDups := by
  rw [valuesOf, String.toList_ofList, h.partsOf_intercalate]
  simp only [List.isEmpty_iff]

/-! ## 2. The pieces of a field -/

theorem ne_of_mem_stripSeparators {c : Char} (h : c ∈ stripSeparators text) :
    c ≠ valueSeparator ∧ c ≠ keySeparator := by
  simpa [stripSeparators] using (List.mem_filter.mp h).2

/-- The trimmed pieces that are not empty. -/
def entriesOf (pieces : List (List Char)) : List String :=
  (pieces.map fun piece => trim (String.ofList piece)).filter (· ≠ "")

theorem entriesOf_eq (pieces : List (List Char)) :
    entriesOf pieces = ((pieces.map trimChars).filter (· ≠ [])).map String.ofList := by
  have hmap : (pieces.map fun piece => trim (String.ofList piece)) =
      (pieces.map trimChars).map String.ofList := by
    simp [trim]
  rw [entriesOf, hmap, List.filter_map]
  refine congrArg _ (List.filter_congr fun cs _ => ?_)
  simp only [Function.comp_apply, ne_eq, ← String.toList_inj, String.toList_ofList, String.toList_empty]

/-- A trimmed piece of a text without separators holds none. -/
theorem ne_of_mem_trimChars (h : Splits delimiter.toList (stripSeparators text) pieces) {piece : List Char}
    (hp : piece ∈ pieces) {c : Char} (hc : c ∈ trimChars piece) : c ≠ valueSeparator ∧ c ≠ keySeparator :=
  ne_of_mem_stripSeparators (h.mem_text hp ((isInfix_trimChars piece).subset hc))

/-- So such pieces can be told apart. -/
theorem joinable_of_splits (h : Splits delimiter.toList (stripSeparators text) pieces) :
    Joinable ((pieces.map trimChars).filter (· ≠ [])) := by
  intro piece hm
  obtain ⟨hm, hne⟩ := List.mem_filter.mp hm
  obtain ⟨whole, hw, rfl⟩ := List.mem_map.mp hm
  exact ⟨of_decide_eq_true hne, fun hc => (ne_of_mem_trimChars h hw hc).1 rfl,
    fun hc => (ne_of_mem_trimChars h hw hc).2 rfl⟩

/-- **The values of a text are its entries**, each once, or the empty value. -/
theorem valuesOf_of_splits (h : Splits delimiter.toList (stripSeparators text) pieces) :
    valuesOf (String.ofList ([valueSeparator].intercalate ((pieces.map trimChars).filter (· ≠ [])))) =
      if entriesOf pieces = [] then [""] else (entriesOf pieces).eraseDups := by
  rw [(joinable_of_splits h).valuesOf_intercalate, entriesOf_eq]
  simp only [List.map_eq_nil_iff]

/-! ## 3. The values -/

/-- What the values of a field are, `text` being that of the field without separators and `pieces` what
    stands between the occurrences of the delimiter. -/
structure FieldValues (delimiter : String) (text : List Char) (pieces : List (List Char))
    (values : List String) : Prop where
  /-- The pieces are the one split of the text. -/
  splits_iff : ∀ other, Splits delimiter.toList text other ↔ other = pieces
  /-- The values are the entries, each where it first occurs, or the empty value. -/
  values_eq : values = if entriesOf pieces = [] then [""] else (entriesOf pieces).eraseDups
  nodup : values.Nodup
  ne_nil : values ≠ []
  trimmed : ∀ value ∈ values, trim value = value
  clean : ∀ value ∈ values, valueSeparator ∉ value.toList ∧ keySeparator ∉ value.toList
  undivided : delimiter ≠ "" → ∀ value ∈ values, ¬ delimiter.toList <:+: value.toList

/-- A value is empty or one of the trimmed pieces. -/
theorem eq_empty_or_trim_of_mem {values : List String}
    (e : values = if entriesOf pieces = [] then [""] else (entriesOf pieces).eraseDups) :
    ∀ value ∈ values, value = "" ∨ ∃ piece ∈ pieces, value = String.ofList (trimChars piece) := by
  intro value hm
  subst e
  split at hm
  · exact Or.inl (List.mem_singleton.mp hm)
  · rw [List.mem_eraseDups, entriesOf, List.mem_filter] at hm
    obtain ⟨piece, hp, rfl⟩ := List.mem_map.mp hm.1
    exact Or.inr ⟨piece, hp, by rw [trim, String.toList_ofList]⟩

/-- A field that the delimiter does not occur in is trimmed and not split. -/
theorem fieldExtractor_of_absent {item : Item} {column : Column}
    (h : delimiter = "" ∨ ¬ delimiter.toList <:+: stripSeparators (item.field column.field).toList) :
    fieldExtractor delimiter item column =
      trim (String.ofList (stripSeparators (item.field column.field).toList)) := by
  have hw : Splits delimiter.toList (stripSeparators (item.field column.field).toList) _ :=
    .whole (h.imp_left fun e => by simp [e])
  rw [fieldExtractor, piecesOf, (splits_splitAtAll _ _).unique hw, trim, String.toList_ofList]
  by_cases hblank : trimChars (stripSeparators (item.field column.field).toList) = []
  · simp [hblank]
  · simp [hblank]

/-- **The values of a field are the distinct trimmed pieces of its text**, for every item, column and
    delimiter; they hold neither separators nor the delimiter, and there is always one. -/
theorem values_of_field (delimiter : String) (item : Item) (column : Column) :
    ∃ pieces, FieldValues delimiter (stripSeparators (item.field column.field).toList) pieces
      (valuesOf (fieldExtractor delimiter item column)) := by
  obtain ⟨pieces, hs, hpieces⟩ : ∃ pieces,
      Splits delimiter.toList (stripSeparators (item.field column.field).toList) pieces ∧
      piecesOf delimiter.toList (stripSeparators (item.field column.field).toList) =
        (pieces.map trimChars).filter (· ≠ []) := ⟨_, splits_splitAtAll _ _, rfl⟩
  have hvalues : valuesOf (fieldExtractor delimiter item column) =
      if entriesOf pieces = [] then [""] else (entriesOf pieces).eraseDups := by
    rw [fieldExtractor, hpieces, valuesOf_of_splits hs]
  have hmem := eq_empty_or_trim_of_mem hvalues
  refine ⟨pieces, fun other => ⟨fun h => h.unique hs, fun e => e ▸ hs⟩, hvalues, nodup_valuesOf _,
    valuesOf_ne_nil _, fun value hm => ?_, fun value hm => ?_, fun hd value hm => ?_⟩
  · rcases hmem value hm with rfl | ⟨piece, -, rfl⟩
    · rfl
    · rw [trim, String.toList_ofList, trimChars_trimChars]
  · rcases hmem value hm with rfl | ⟨piece, hp, rfl⟩
    · decide
    · rw [String.toList_ofList]
      exact ⟨fun hc => (ne_of_mem_trimChars hs hp hc).1 rfl, fun hc => (ne_of_mem_trimChars hs hp hc).2 rfl⟩
  · have hne : delimiter.toList ≠ [] := fun e => hd (String.toList_inj.mp e)
    rcases hmem value hm with rfl | ⟨piece, hp, rfl⟩
    · exact fun hx => hne (List.infix_nil.mp hx)
    · rw [String.toList_ofList]
      exact fun hx => hs.not_isInfix hne piece hp (hx.trans (isInfix_trimChars piece))

/-- Pieces that are blank do not count, and neither does a piece that was there before. -/
example : valuesOf (fieldExtractor "; " (Item.withField ⟨1, ∅⟩ "genre" " Rock; ; Jazz;Pop;  Rock")
    (.ofField "genre" "Genre")) = ["Rock", "Jazz;Pop"] := by decide +kernel

end MediaIndex
