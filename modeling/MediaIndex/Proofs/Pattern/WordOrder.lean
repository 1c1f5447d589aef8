import Mathlib.Data.List.Forall2
import Mathlib.Data.Nat.Digits.Defs
import Mathlib.Tactic.SplitIfs
import MediaIndex.Proofs.Pattern.Globs
import MediaIndex.Proofs.Text.Bytes
import MediaIndex.Proofs.Text.Splitting
import MediaIndex.Query.Written

/-!
# The words of a query come in any order

A query is typed as words with white space between them, and a word is a filter, a part of the pattern, or
nothing at all. Only the parts of the pattern need to stand in order: bounds may stand anywhere, and of
the columns the first one counts.

* `Worded`, `worded_iff` -- the words of a text, and that `wordsFrom` finds them;
* `IsNumeral`, `readNumber_eq_some_iff` -- which numbers can be written;
* `Word.Reads`, `Word.reads_iff` -- what a word is;
* `Spells`, `spells_iff` -- what the words of a text are;
* `Rearranged.matches_eq` -- the filters of rearranged words keep the same nodes;
* `parseAtBytes?`, `parseAtBytes?_eq` -- the regular expression is cut out of the pattern by the number of
  its bytes, and no cut falls inside a character;
* `NodeQuery.words_in_any_order` -- all this for two typed queries.
-/

namespace MediaIndex

variable {c : Char} {cs ds gap word text number body : List Char} {words words' : List (List Char)} {n : Nat}

/-! ## 1. The words of a text -/

/-- White space only. -/
def IsBlank (cs : List Char) : Prop := ∀ c ∈ cs, isWhiteSpace c = true

/-- No white space. -/
def IsSolid (cs : List Char) : Prop := ∀ c ∈ cs, isWhiteSpace c = false

/-- A word has at least one character, and no white space. -/
def IsWord (cs : List Char) : Prop := cs ≠ [] ∧ IsSolid cs

/-- The words of a text. There may be white space before each of them and behind the last one, and there is
    some between two. -/
inductive Worded : List (List Char) → List Char → Prop
  | blank {gap : List Char} (hgap : IsBlank gap) : Worded [] gap
  | last {gap word : List Char} (hgap : IsBlank gap) (hword : IsWord word) : Worded [word] (gap ++ word)
  | next {gap word text : List Char} {c : Char} {words : List (List Char)} (hgap : IsBlank gap)
      (hword : IsWord word) (hc : isWhiteSpace c = true) (h : Worded words text) :
      Worded (word :: words) (gap ++ (word ++ c :: text))

theorem IsBlank.cons (hc : isWhiteSpace c = true) (h : IsBlank gap) : IsBlank (c :: gap) :=
  List.forall_mem_cons.mpr ⟨hc, h⟩

theorem isBlank_nil : IsBlank [] := List.forall_mem_nil _

theorem isSolid_nil : IsSolid [] := List.forall_mem_nil _

/-- More white space before the words. -/
theorem Worded.cons (hc : isWhiteSpace c = true) (h : Worded words text) : Worded words (c :: text) := by
  cases h with
  | blank hgap => exact .blank (hgap.cons hc)
  | last hgap hword => exact .last (hgap.cons hc) hword
  | next hgap hword hsep h => exact .next (hgap.cons hc) hword hsep h

theorem wordsFrom_blank_append (h : IsBlank gap) : wordsFrom [] (gap ++ cs) = wordsFrom [] cs := by
  induction gap with
  | nil => rfl
  | cons c gap ih =>
    obtain ⟨hc, hgap⟩ := List.forall_mem_cons.mp h
    simp [wordsFrom, hc, ih hgap]

theorem wordsFrom_blank (h : IsBlank gap) : wordsFrom [] gap = [] := by
  rw [← List.append_nil gap, wordsFrom_blank_append h]
  rfl

theorem wordsFrom_append (h : IsSolid ds) : wordsFrom word (ds ++ cs) = wordsFrom (word ++ ds) cs := by
  induction ds generalizing word with
  | nil => simp
  | cons c ds ih =>
    obtain ⟨hc, hds⟩ := List.forall_mem_cons.mp h
    simp [wordsFrom, hc, ih hds]

theorem wordsFrom_append_blank (h : IsBlank gap) : wordsFrom word (cs ++ gap) = wordsFrom word cs := by
  induction cs generalizing word with
  | nil =>
    cases gap with
    | nil => rfl
    | cons c gap =>
      obtain ⟨hc, hgap⟩ := List.forall_mem_cons.mp h
      simp [wordsFrom, hc, wordsFrom_blank hgap]
  | cons c cs ih => simp [wordsFrom, ih]

theorem Worded.wordsFrom_eq (h : Worded words text) : wordsFrom [] text = words := by
  induction h with
  | blank hgap => exact wordsFrom_blank hgap
  | @last gap word hgap hword =>
    have h : wordsFrom [] (word ++ []) = wordsFrom ([] ++ word) [] := wordsFrom_append hword.2
    rw [List.append_nil] at h
    rw [wordsFrom_blank_append hgap, h, List.nil_append, wordsFrom, if_neg hword.1]
  | next hgap hword hc h ih =>
    rw [wordsFrom_blank_append hgap, wordsFrom_append hword.2]
    simp [wordsFrom, hc, hword.1, ih]

/-- The induction is on what is left to read, behind the part `word` of the word under way. -/
theorem worded_wordsFrom (h : IsSolid word) : Worded (wordsFrom word text) (word ++ text) := by
  induction text generalizing word with
  | nil =>
    by_cases hword : word = []
    · simpa [wordsFrom, hword] using Worded.blank isBlank_nil
    · simpa [wordsFrom, hword] using Worded.last isBlank_nil ⟨hword, h⟩
  | cons c text ih =>
    by_cases hc : isWhiteSpace c = true
    · have hrest : Worded (wordsFrom [] text) text := ih isSolid_nil
      by_cases hword : word = []
      · simpa [wordsFrom, hc, hword] using hrest.cons hc
      · simpa [wordsFrom, hc, hword] using Worded.next isBlank_nil ⟨hword, h⟩ hc hrest
    · rw [wordsFrom, if_neg hc, List.append_cons word c text]
      refine ih fun x hx => ?_
      rcases List.mem_append.mp hx with hx | hx
      · exact h x hx
      · simpa [List.mem_singleton.mp hx] using hc

/-- **`wordsFrom` finds the words of a text.** -/
theorem worded_iff : Worded words text ↔ wordsFrom [] text = words := by
  constructor
  · exact Worded.wordsFrom_eq
  · intro e
    subst e
    exact worded_wordsFrom isSolid_nil

/-- The white space around a text is none of its words. -/
theorem wordsFrom_trimChars (cs : List Char) : wordsFrom [] (trimChars cs) = wordsFrom [] cs := by
  have hstart : IsBlank (cs.takeWhile isWhiteSpace) := fun c hc => List.mem_takeWhile_imp hc
  have hend : IsBlank ((cs.dropWhile isWhiteSpace).rtakeWhile isWhiteSpace) :=
    fun c hc => List.mem_rtakeWhile_imp hc
  calc wordsFrom [] (trimChars cs)
    _ = wordsFrom [] (trimChars cs ++ (cs.dropWhile isWhiteSpace).rtakeWhile isWhiteSpace) :=
        (wordsFrom_append_blank hend).symm
    _ = wordsFrom [] (cs.dropWhile isWhiteSpace) := by
        rw [trimChars, trimEndChars, ← List.rdropWhile, List.rdropWhile_append_rtakeWhile]
    _ = wordsFrom [] (cs.takeWhile isWhiteSpace ++ cs.dropWhile isWhiteSpace) :=
        (wordsFrom_blank_append hstart).symm
    _ = wordsFrom [] cs := by rw [List.takeWhile_append_dropWhile]

/-! ## 2. Numbers -/

/-- A number in decimal digits, perhaps after a plus sign, that 64 bits can hold. -/
def IsNumeral (cs : List Char) (n : Nat) : Prop :=
  ∃ ds : List Char, (cs = ds ∨ cs = '+' :: ds) ∧ ds ≠ [] ∧ (∀ c ∈ ds, c.isDigit = true) ∧
    Nat.ofDigits 10 (ds.reverse.map fun c => c.toNat - '0'.toNat) = n ∧ n < 2 ^ 64

theorem ofDigits_eq_decimalValue (ds : List Char) :
    Nat.ofDigits 10 (ds.reverse.map fun c => c.toNat - '0'.toNat) = decimalValue ds := by
  induction ds using List.reverseRecOn with
  | nil => rfl
  | append_singleton ds c ih =>
    have hvalue : decimalValue (ds ++ [c]) = 10 * decimalValue ds + (c.toNat - '0'.toNat) := by
      simp [decimalValue]
    rw [List.reverse_concat, List.map_cons, Nat.ofDigits_cons, ih, hvalue]
    omega

/-- A number without a sign does not start with one. -/
theorem not_plus (h : ∀ c ∈ ds, c.isDigit = true) (rest : List Char) : ds ≠ '+' :: rest := by
  rintro rfl
  simpa using h '+' List.mem_cons_self

theorem readNumber_digits (h : ∀ rest, ds ≠ '+' :: rest) : readNumber ds = readNumber ('+' :: ds) := by
  unfold readNumber
  split
  next rest => exact absurd rfl (h rest)
  next => rfl

theorem readNumber_plus_eq_some_iff : readNumber ('+' :: ds) = some n ↔
    ds ≠ [] ∧ (∀ c ∈ ds, c.isDigit = true) ∧ decimalValue ds = n ∧ n < 2 ^ 64 := by
  have hlast (m : Nat) : m ≤ lastNumber ∧ m = n ↔ m = n ∧ n < 2 ^ 64 := by
    have : lastNumber = 2 ^ 64 - 1 := rfl
    omega
  simp [readNumber, and_assoc, hlast]

/-- **What is read is a number.** -/
theorem readNumber_eq_some_iff : readNumber cs = some n ↔ IsNumeral cs n := by
  simp only [IsNumeral, ofDigits_eq_decimalValue]
  constructor
  · intro h
    by_cases hplus : ∃ ds, cs = '+' :: ds
    · obtain ⟨ds, rfl⟩ := hplus
      exact ⟨ds, Or.inr rfl, readNumber_plus_eq_some_iff.mp h⟩
    · rw [readNumber_digits fun ds e => hplus ⟨ds, e⟩] at h
      exact ⟨cs, Or.inl rfl, readNumber_plus_eq_some_iff.mp h⟩
  · intro h
    obtain ⟨ds, rfl | rfl, hds⟩ := h
    · rw [readNumber_digits (not_plus hds.2.1)]
      exact readNumber_plus_eq_some_iff.mpr hds
    · exact readNumber_plus_eq_some_iff.mpr hds

namespace NodeQuery

/-! ## 3. What a word is -/

/-- How a word reads. -/
inductive Word.Reads : List Char → Word → Prop
  | column {field : List Char} (h : field ≠ []) :
      Reads ("col:".toList ++ field) (.filter (.column (String.ofList field)))
  | blank : Reads "col:".toList .blank
  | minMembers {number : List Char} {n : Nat} (h : IsNumeral number n) :
      Reads ("min:".toList ++ number) (.filter (.minMembers n))
  | maxMembers {number : List Char} {n : Nat} (h : IsNumeral number n) :
      Reads ("max:".toList ++ number) (.filter (.maxMembers n))
  | pattern {cs : List Char} (hcol : ¬ "col:".toList <+: cs)
      (hmin : ∀ number n, IsNumeral number n → cs ≠ "min:".toList ++ number)
      (hmax : ∀ number n, IsNumeral number n → cs ≠ "max:".toList ++ number) : Reads cs (.pattern cs)

theorem bind_readNumber_eq_some_iff {d : List Char} :
    (dropLeading? d cs).bind readNumber = some n ↔ ∃ number, IsNumeral number n ∧ cs = d ++ number := by
  simp only [Option.bind_eq_some_iff, dropLeading?_eq_some_iff, readNumber_eq_some_iff, and_comm]

theorem bind_readNumber_eq_none_iff {d : List Char} :
    (dropLeading? d cs).bind readNumber = none ↔ ∀ number n, IsNumeral number n → cs ≠ d ++ number := by
  rw [Option.eq_none_iff_forall_ne_some]
  constructor
  · intro h number n hn e
    exact h n (bind_readNumber_eq_some_iff.mpr ⟨number, hn, e⟩)
  · intro h n hs
    obtain ⟨number, hn, e⟩ := bind_readNumber_eq_some_iff.mp hs
    exact h number n hn e

/-- **Each word reads in one way**, the one it is read in. -/
theorem Word.reads_iff {w : Word} : Reads cs w ↔ ofChars cs = w := by
  constructor
  · intro h
    cases h with
    | column h => simp [ofChars, dropLeading?, h]
    | blank => simp [ofChars, dropLeading?]
    | minMembers h => simp [ofChars, dropLeading?, readNumber_eq_some_iff.mpr h]
    | maxMembers h => simp [ofChars, dropLeading?, readNumber_eq_some_iff.mpr h]
    | pattern hcol hmin hmax =>
      rw [← isSome_dropLeading?_iff, Option.not_isSome_iff_eq_none] at hcol
      simp only [ofChars, hcol, bind_readNumber_eq_none_iff.mpr hmin, bind_readNumber_eq_none_iff.mpr hmax]
  · intro e
    subst e
    unfold ofChars
    split
    next field hfield =>
      rw [dropLeading?_eq_some_iff] at hfield
      subst hfield
      by_cases h : field = []
      · simpa [h] using Reads.blank
      · simpa [h] using Reads.column h
    next hcol =>
      rw [← Option.not_isSome_iff_eq_none, isSome_dropLeading?_iff] at hcol
      split
      next n hmin =>
        obtain ⟨number, hn, rfl⟩ := bind_readNumber_eq_some_iff.mp hmin
        exact .minMembers hn
      next hmin =>
        split
        next n hmax =>
          obtain ⟨number, hn, rfl⟩ := bind_readNumber_eq_some_iff.mp hmax
          exact .maxMembers hn
        next hmax =>
          exact .pattern hcol (bind_readNumber_eq_none_iff.mp hmin) (bind_readNumber_eq_none_iff.mp hmax)

/-- The words of a text and how they read. -/
def Spells (text : String) (words : List Word) : Prop :=
  ∃ written, Worded written text.toList ∧ List.Forall₂ Word.Reads written words

variable {s t : String} {ws ws' : List Word}

/-- **Each text is read in one way.** -/
theorem spells_iff : Spells t ws ↔ (wordsFrom [] t.toList).map Word.ofChars = ws := by
  have hreads : Word.Reads = fun cs w => Word.ofChars cs = w := by
    funext cs w
    exact propext Word.reads_iff
  simp only [Spells, worded_iff, exists_eq_left']
  rw [hreads, ← List.forall₂_map_left_iff (R := (· = ·)), List.forall₂_eq_eq_eq]

/-! ## 4. Filters in another order -/

/-- The field of a column word. -/
def Word.field? : Word → Option String
  | filter (.column field) => some field
  | _ => none

/-- The filter that a word is, if it is a bound on the number of members. -/
def Word.bound? : Word → Option NodeFilter
  | filter (.column _) => none
  | filter f => some f
  | _ => none

/-- The same words in another order: the parts of the pattern stand as they did, the first column is the
    same, and there are the same bounds. -/
structure Rearranged (ws ws' : List Word) : Prop where
  patterns : ws.filterMap Word.pattern? = ws'.filterMap Word.pattern?
  field : ws.findSome? Word.field? = ws'.findSome? Word.field?
  bounds : (ws.filterMap Word.bound?).Perm (ws'.filterMap Word.bound?)

/-- A query with the filters that words are. -/
def withWords (q : NodeQuery) (ws : List Word) : NodeQuery := (ws.filterMap Word.filter?).foldl withFilter q

theorem foldl_withFilter (q : NodeQuery) (fs : List NodeFilter) :
    fs.foldl withFilter q = { q with filters := q.filters ++ fs } := by
  induction fs generalizing q with
  | nil => simp
  | cons f fs ih => simp [ih, withFilter]

/-- Columns are met by every node. -/
theorem all_accepts_eq (node : GroupNode) (ws : List Word) :
    (ws.filterMap Word.filter?).all (·.accepts node) = (ws.filterMap Word.bound?).all (·.accepts node) := by
  induction ws with
  | nil => rfl
  | cons w ws ih =>
    match w with
    | .filter (.column _) => simpa [Word.filter?, Word.bound?, NodeFilter.accepts] using ih
    | .filter (.minMembers _) => simp [Word.filter?, Word.bound?, ih]
    | .filter (.maxMembers _) => simp [Word.filter?, Word.bound?, ih]
    | .blank => simpa [Word.filter?, Word.bound?] using ih
    | .pattern _ => simpa [Word.filter?, Word.bound?] using ih

theorem findSome?_field?_eq (ws : List Word) :
    (ws.filterMap Word.filter?).findSome? NodeFilter.field? = ws.findSome? Word.field? := by
  rw [← List.head?_filterMap, List.filterMap_filterMap, List.head?_filterMap]
  congr 1
  funext w
  match w with
  | .filter (.column _) => rfl
  | .filter (.minMembers _) => rfl
  | .filter (.maxMembers _) => rfl
  | .blank => rfl
  | .pattern _ => rfl

/-- **Of the filters the bounds count in any order, and of the columns the first one.** -/
theorem Rearranged.matches_eq (h : Rearranged ws ws') (q : NodeQuery) (node : GroupNode)
    (columns : List Column) :
    (q.withWords ws).matches node columns = (q.withWords ws').matches node columns := by
  have hbounds := h.bounds.all_eq (f := (·.accepts node))
  have hrestriction : (q.withWords ws).restriction = (q.withWords ws').restriction := by
    simp only [withWords, foldl_withFilter, restriction, List.findSome?_append, findSome?_field?_eq, h.field]
  simp only [«matches», acceptsValue, hrestriction]
  simp only [withWords, foldl_withFilter, List.all_append, all_accepts_eq, hbounds]

/-- Two readings come to the same: one error, or queries that keep the same nodes whatever the columns. -/
def Alike : Except IndexError NodeQuery → Except IndexError NodeQuery → Prop
  | .ok q, .ok q' => ∀ node columns, q.matches node columns = q'.matches node columns
  | .error e, .error e' => e = e'
  | _, _ => False

/-- The pattern that words are parts of. -/
def patternOf (ws : List Word) : List Char := [' '].intercalate (ws.filterMap Word.pattern?)

theorem parse_eq (h : Spells t ws) : parse t = (ofPattern (patternOf ws)).map (withWords · ws) := by
  rw [spells_iff] at h
  subst h
  rfl

theorem Rearranged.alike (h : Rearranged ws ws') (hs : Spells s ws) (ht : Spells t ws') :
    Alike (parse s) (parse t) := by
  rw [parse_eq hs, parse_eq ht, patternOf, h.patterns, ← patternOf]
  cases ofPattern (patternOf ws') with
  | error e => exact rfl
  | ok q => exact h.matches_eq q

/-! ## 5. Cutting by bytes -/

theorem regexBody?_eq_some_iff : regexBody? cs = some body ↔
    body ≠ [] ∧ cs = ['r', '/'] ++ body ++ ['/'] := by
  constructor
  · intro h
    unfold regexBody? at h
    split at h
    next rest =>
      split at h
      next hc =>
        simp only [Bool.and_eq_true, decide_eq_true_eq, List.getLast?_eq_some_iff] at hc
        obtain ⟨⟨body, rfl⟩, hlength⟩ := hc
        simp only [List.dropLast_concat, Option.some_inj] at h
        subst h
        rw [List.length_append, List.length_singleton] at hlength
        exact ⟨List.length_pos_iff.mp (by omega), rfl⟩
      next => cases h
    next => cases h
  · intro h
    obtain ⟨hne, rfl⟩ := h
    simp [regexBody?, hne]

theorem byteLength_delimited (body : List Char) :
    byteLength (['r', '/'] ++ body ++ ['/']) = byteLength body + 3 := by
  have hstart : byteLength ['r', '/'] = 2 := by decide
  have hend : byteLength ['/'] = 1 := by decide
  rw [byteLength_append, byteLength_append]
  omega

/-- What starts with `r/` and ends with a slash has something in between if it has more than three bytes. -/
theorem delimited_iff : ['r', '/'] <+: cs ∧ ['/'] <:+ cs ∧ 3 < byteLength cs ↔
    ∃ body, regexBody? cs = some body := by
  simp only [regexBody?_eq_some_iff]
  constructor
  · intro h
    obtain ⟨⟨rest, rfl⟩, ⟨u, e⟩, hlength⟩ := h
    rcases rest.eq_nil_or_concat with rfl | ⟨body, c, rfl⟩
    · exact absurd hlength (by decide)
    · rw [List.concat_eq_append, ← List.append_assoc] at e hlength ⊢
      obtain ⟨rfl, hc⟩ := List.append_inj' e rfl
      rw [← hc] at hlength ⊢
      refine ⟨body, fun hnil => ?_, rfl⟩
      rw [byteLength_delimited, hnil] at hlength
      exact absurd hlength (by decide)
  · intro h
    obtain ⟨body, hne, rfl⟩ := h
    refine ⟨⟨body ++ ['/'], by simp⟩, List.suffix_append _ _, ?_⟩
    have hpos := mt byteLength_eq_zero_iff.mp hne
    rw [byteLength_delimited]
    omega

/-- The query that a pattern alone makes, if the cuts can be made. -/
def ofPatternAtBytes? (cs : List Char) : Option (Except IndexError NodeQuery) :=
  if ['r', '/'] <+: cs ∧ ['/'] <:+ cs ∧ 3 < byteLength cs then
    (sliceBytes? 2 (byteLength cs - 1) cs).map fun body => regex (String.ofList body)
  else match dropLeading? ['='] cs with
    | some value => some (.ok (exact (String.ofList value)))
    | none =>
      if cs.contains '*' || cs.contains '?' then some (.ok (wildcard (String.ofList cs)))
      else some (.ok (substring (String.ofList cs)))

/-- A query read from a trimmed text, if the cuts can be made. -/
def parseAtBytes? (text : String) : Option (Except IndexError NodeQuery) :=
  let cs := trimChars text.toList
  if cs.isEmpty then some (.ok (substring ""))
  else
    let ws := (wordsFrom [] cs).map Word.ofChars
    (ofPatternAtBytes? (patternOf ws)).map (·.map (withWords · ws))

theorem ofPatternAtBytes?_eq (cs : List Char) : ofPatternAtBytes? cs = some (ofPattern cs) := by
  cases h : regexBody? cs with
  | some body =>
    have hslice : sliceBytes? 2 (byteLength cs - 1) cs = some body := by
      obtain ⟨-, rfl⟩ := regexBody?_eq_some_iff.mp h
      refine sliceBytes?_eq_some_iff.mpr ⟨['r', '/'], ['/'], rfl, by decide, ?_⟩
      rw [byteLength_append _ ['/']]
      rfl
    rw [ofPatternAtBytes?, if_pos (delimited_iff.mpr ⟨body, h⟩), hslice]
    unfold ofPattern
    rw [h]
    rfl
  | none =>
    have hnot : ¬ (['r', '/'] <+: cs ∧ ['/'] <:+ cs ∧ 3 < byteLength cs) := by
      simp [delimited_iff, h]
    rw [ofPatternAtBytes?, if_neg hnot]
    unfold ofPattern
    rw [h]
    split
    next value hvalue =>
      rw [dropLeading?_eq_some_iff] at hvalue
      subst hvalue
      rfl
    next hvalue =>
      have hne (value : List Char) : cs ≠ '=' :: value := by
        rintro rfl
        simp [dropLeading?] at hvalue
      -- `hne` leaves the last case
      simp [apply_ite some]

/-- **No cut falls inside a character or behind the end.** -/
theorem parseAtBytes?_eq (text : String) : parseAtBytes? text = some (parse text) := by
  have hwords := wordsFrom_trimChars text.toList
  by_cases h : trimChars text.toList = []
  · have hspells : Spells text [] := by
      rw [spells_iff, ← hwords, h]
      rfl
    rw [parse_eq hspells]
    simp only [parseAtBytes?, h, List.isEmpty_nil, if_true]
    rfl
  · have hspells : Spells text ((wordsFrom [] (trimChars text.toList)).map Word.ofChars) := by
      rw [spells_iff, hwords]
    rw [parse_eq hspells]
    simp [parseAtBytes?, h, ofPatternAtBytes?_eq]

/-! ## 6. Two typed queries -/

/-- **The words of a query come in any order.** Two texts whose words are the same but for the order of the
    filters are refused alike or keep the same nodes. Each text is words in one way, and the cuts that reading
    it by bytes asks for can always be made. -/
theorem words_in_any_order :
    (∀ s t ws ws', Spells s ws → Spells t ws' → Rearranged ws ws' → Alike (parse s) (parse t)) ∧
      (∀ text, ∃! ws, Spells text ws) ∧ ∀ text, parseAtBytes? text = some (parse text) := by
  refine ⟨fun s t ws ws' hs ht h => h.alike hs ht, fun text => ?_, parseAtBytes?_eq⟩
  simp only [spells_iff]
  exact existsUnique_eq'

example : parse "r// min:3" = .ok { matcher := .substring "r//", filters := [.minMembers 3] } := by
  decide +kernel

/-- A glob pattern in two parts, with filters before, between and behind them, and a column word that
    counts for nothing. -/
def columnFirst : String := "col:genre min:2 Ro* max:9 col: ck"

/-- The same pattern and filters in another order, and a second column. -/
def patternFirst : String := "\tRo*  max:+9 col:genre\n ck col:artist min:02 "

/-- Two columns that are shown. -/
def artistAndGenre : List Column := [.ofField "artist" "Artist", .ofField "genre" "Genre"]

/-- The pattern accepts the genre. -/
def rollNode : GroupNode where
  key := .compose ["Abba", "Roll ck"]
  display := ["Abba", "Roll ck"]
  members := (∅ : ItemSet).insertMany [1, 2]

/-- The pattern accepts the artist and not the genre. -/
def jazzNode : GroupNode where
  key := .compose ["Roll ck", "Jazz"]
  display := ["Roll ck", "Jazz"]
  members := (∅ : ItemSet).insertMany [1, 2]

/-- Both texts keep the first node, and both drop the second one, since the genre comes first of their
    columns. -/
theorem glob_words_in_any_order :
    let ws := [.filter (.column "genre"), .filter (.minMembers 2), .pattern ['R', 'o', '*'],
      .filter (.maxMembers 9), .blank, .pattern ['c', 'k']]
    let ws' := [.pattern ['R', 'o', '*'], .filter (.maxMembers 9), .filter (.column "genre"),
      .pattern ['c', 'k'], .filter (.column "artist"), .filter (.minMembers 2)]
    Spells columnFirst ws ∧ Spells patternFirst ws' ∧ Rearranged ws ws' ∧
      ∃ q q', parse columnFirst = .ok q ∧ parse patternFirst = .ok q' ∧
        (∀ node columns, q.matches node columns = q'.matches node columns) ∧
        q.matches rollNode artistAndGenre = true ∧ q'.matches rollNode artistAndGenre = true ∧
        q.matches jazzNode artistAndGenre = false ∧ q'.matches jazzNode artistAndGenre = false := by
  intro ws ws'
  have hs : Spells columnFirst ws := spells_iff.mpr (by decide +kernel)
  have ht : Spells patternFirst ws' := spells_iff.mpr (by decide +kernel)
  have h : Rearranged ws ws' := ⟨by decide +kernel, by decide +kernel, by decide +kernel⟩
  have halike := words_in_any_order.1 columnFirst patternFirst ws ws' hs ht h
  rw [parse_eq hs, parse_eq ht] at halike ⊢
  have hsame : ∀ node columns, (withWords (wildcard "Ro* ck") ws).matches node columns =
    (withWords (wildcard "Ro* ck") ws').matches node columns := halike
  have hmatcher : (withWords (wildcard "Ro* ck") ws).matcher = (wildcard "Ro* ck").matcher := by
    rw [withWords, foldl_withFilter]
  have hgenre (node : GroupNode) : (withWords (wildcard "Ro* ck") ws).acceptsValue node artistAndGenre =
      (wildcard "Ro* ck").matcher.accepts (node.column 1) := by
    have hfield : (withWords (wildcard "Ro* ck") ws).restriction = some "genre" := by decide +kernel
    have hplace : artistAndGenre.findIdx? (fun c => equalIgnoringAsciiCase c.field "genre") = some 1 := by
      decide +kernel
    unfold acceptsValue
    rw [hfield]
    dsimp only
    rw [hplace, hmatcher]
  have hroll : (withWords (wildcard "Ro* ck") ws).matches rollNode artistAndGenre = true := by
    refine Bool.and_eq_true_iff.mpr ⟨by decide +kernel, ?_⟩
    rw [hgenre, accepts_wildcard_iff]
    have hmid : ∀ c ∈ ['l', 'l'], Glob.isPlain c = true := List.all_eq_true.mp (by decide)
    show Glob.Divides Glob.isPlain ['R', 'o', '*', ' ', 'c', 'k'] ['R', 'o', 'l', 'l', ' ', 'c', 'k']
    exact ⟨[['R'], ['o'], ['l', 'l'], [' '], ['c'], ['k']], rfl,
      .cons ⟨'R', rfl, SimpleFold.sameFold_self _⟩ (.cons ⟨'o', rfl, SimpleFold.sameFold_self _⟩ (.cons hmid
        (.cons ⟨' ', rfl, SimpleFold.sameFold_self _⟩ (.cons ⟨'c', rfl, SimpleFold.sameFold_self _⟩
          (.cons ⟨'k', rfl, SimpleFold.sameFold_self _⟩ .nil)))))⟩
  have hjazz : (withWords (wildcard "Ro* ck") ws).matches jazzNode artistAndGenre = false := by
    refine eq_false_of_ne_true fun e => ?_
    have hvalue := (Bool.and_eq_true_iff.mp e).2
    rw [hgenre, accepts_wildcard_iff] at hvalue
    obtain ⟨piece, rest, hvalue, ⟨c, rfl, hc⟩, -⟩ := Glob.divides_cons_iff.mp hvalue
    obtain rfl : 'J' = c := (List.cons.inj hvalue).1
    exact absurd hc (by decide +kernel)
  exact ⟨hs, ht, h, _, _, rfl, rfl, hsame, hroll, (hsame _ _).symm.trans hroll, hjazz,
    (hsame _ _).symm.trans hjazz⟩

end NodeQuery

end MediaIndex
