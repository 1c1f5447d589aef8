import MediaIndex.Proofs.Text.Readings
import MediaIndex.Toml.Statement

/-!
# The integers of a document

An integer of a document has 64 bits with a sign: a numeral for any other one is refused, in whichever base
it is written, and no statement makes a new integer.

* `Value.Fits` -- every integer in a value has 64 bits;
* `yields_value` -- every value that is read is such a value;
* `Tame.alter` -- changing a table along a path keeps it so, if the change does;
* `fits_of_parse` -- **every integer of a document has 64 bits**.
-/

namespace MediaIndex.Toml

/-! ## 1. Values with integers of 64 bits -/

/-- Every integer in the value is in range. -/
inductive Value.Fits : Value → Prop
  | text (s : String) : Fits (.text s)
  | integer {n : Int} (h : Numeral.inRange n = true) : Fits (.integer n)
  | float : Fits .float
  | boolean (b : Bool) : Fits (.boolean b)
  | moment : Fits .moment
  | array {elements : List Value} (h : ∀ v ∈ elements, v.Fits) : Fits (.array elements)
  | table {origin : Origin} {entries : Entries} (h : ∀ e ∈ entries, e.2.Fits) : Fits (.table origin entries)
  | tables {elements : List Value} (h : ∀ v ∈ elements, v.Fits) : Fits (.tables elements)

/-- Every integer in the entries is in range. -/
def Entries.Fits (entries : Entries) : Prop := ∀ e ∈ entries, e.2.Fits

variable {key : String} {path : List String} {v : Value} {origin : Origin} {entries entries' : Entries}
  {bound depth : Nat} {byDots : Bool}

theorem Entries.fits_nil : Entries.Fits [] := List.forall_mem_nil _

theorem Entries.Fits.of_lookup (h : Entries.Fits entries) (hv : entries.lookup key = some v) : v.Fits := by
  obtain ⟨before, after, rfl, -⟩ := List.lookup_eq_some_iff.mp hv
  exact h (key, v) (by simp)

/-! ## 2. Changes to tables -/

theorem Entries.Fits.setEntry (h : Entries.Fits entries) (hv : v.Fits) :
    Entries.Fits (setEntry key v entries) := by
  induction entries with
  | nil => exact List.forall_mem_singleton.mpr hv
  | cons e rest ih =>
    obtain ⟨he, hrest⟩ := List.forall_mem_cons.mp h
    rw [Toml.setEntry]
    split
    · exact List.forall_mem_cons.mpr ⟨hv, hrest⟩
    · exact List.forall_mem_cons.mpr ⟨he, ih hrest⟩

theorem Entries.Fits.define (h : Entries.Fits entries) (hv : v.Fits)
    (e : define key v entries = some entries') : Entries.Fits entries' := by
  unfold Toml.define at e
  split at e
  · cases e
  · cases e
    exact List.forall_mem_append.mpr ⟨h, List.forall_mem_singleton.mpr hv⟩

theorem forall_changeLast {α : Type} {P : α → Prop} {f : α → Option α} {as bs : List α}
    (hf : ∀ a b, P a → f a = some b → P b) (h : ∀ a ∈ as, P a) (e : changeLast f as = some bs) :
    ∀ b ∈ bs, P b := by
  induction as generalizing bs with
  | nil => cases e
  | cons a as ih =>
    obtain ⟨ha, has⟩ := List.forall_mem_cons.mp h
    cases as with
    | nil =>
      obtain ⟨b, hb, rfl⟩ := Option.map_eq_some_iff.mp e
      exact List.forall_mem_singleton.mpr (hf a b ha hb)
    | cons a' as =>
      obtain ⟨more, hmore, rfl⟩ := Option.map_eq_some_iff.mp e
      exact List.forall_mem_cons.mpr ⟨ha, ih has hmore⟩

/-- A change that makes no integer out of range. -/
def Tame (change : Origin → Entries → Option Entries) : Prop :=
  ∀ ⦃origin entries entries'⦄, Entries.Fits entries → change origin entries = some entries' →
    Entries.Fits entries'

/-- **A table changed along a path is such a table**, by induction on the path. -/
theorem Tame.alter {change : Origin → Entries → Option Entries} (hc : Tame change) :
    Tame (alter byDots change path) := by
  induction path with
  | nil => exact hc
  | cons key path ih =>
    intro origin entries entries' h e
    rw [Toml.alter] at e
    split at e
    next =>
      obtain ⟨inner, hinner, e⟩ := Option.bind_eq_some_iff.mp e
      cases e
      exact h.setEntry (.table (ih Entries.fits_nil hinner))
    next o inner hlookup =>
      split at e
      next =>
        obtain ⟨inner', hinner, e⟩ := Option.bind_eq_some_iff.mp e
        cases e
        cases h.of_lookup hlookup with
        | table hfits => exact h.setEntry (.table (ih hfits hinner))
      next => cases e
    next elements hlookup =>
      obtain ⟨elements', hlast, e⟩ := Option.bind_eq_some_iff.mp e
      cases e
      cases h.of_lookup hlookup with
      | tables hfits =>
        refine h.setEntry (.tables (forall_changeLast ?_ hfits hlast))
        intro v v' hv e
        split at e
        next =>
          obtain ⟨inner, hinner, e⟩ := Option.bind_eq_some_iff.mp e
          cases e
          cases hv with
          | table hfits => exact .table (ih hfits hinner)
        next => cases e
    next => cases e

theorem tame_assign (hv : v.Fits) : Tame (assign path v) := by
  intro origin entries entries' h e
  unfold assign at e
  split at e
  next => cases e
  next key _ =>
    refine Tame.alter (fun reached inner inner' hinner e => ?_) h e
    split at e
    next => cases e
    next => exact hinner.define hv e

theorem fits_openTable (h : Entries.Fits entries) (e : openTable key entries = some entries') :
    Entries.Fits entries' := by
  unfold openTable at e
  split at e
  next =>
    cases e
    exact h.setEntry (.table Entries.fits_nil)
  next inner hlookup =>
    cases e
    cases h.of_lookup hlookup with
    | table hfits => exact h.setEntry (.table hfits)
  next => cases e

theorem fits_openElement (h : Entries.Fits entries) (e : openElement key entries = some entries') :
    Entries.Fits entries' := by
  have hnew : Value.Fits (.table .header []) := .table Entries.fits_nil
  unfold openElement at e
  split at e
  next =>
    cases e
    exact h.setEntry (.tables (List.forall_mem_singleton.mpr hnew))
  next elements hlookup =>
    cases e
    cases h.of_lookup hlookup with
    | tables hfits =>
      exact h.setEntry (.tables (List.forall_mem_append.mpr ⟨hfits, List.forall_mem_singleton.mpr hnew⟩))
  next => cases e

theorem fits_openAt {make : String → Entries → Option Entries}
    (hm : ∀ {key entries entries'}, Entries.Fits entries → make key entries = some entries' →
      Entries.Fits entries')
    (h : Entries.Fits entries) (e : openAt make path entries = some entries') : Entries.Fits entries' := by
  unfold openAt at e
  split at e
  next => cases e
  next => exact Tame.alter (fun _ _ _ => hm) h e

/-! ## 3. Statements -/

/-- The value of a statement, if it gives one. -/
def Statement.Fits : Statement → Prop
  | .header _ => True
  | .element _ => True
  | .assign _ v => v.Fits

theorem fits_step {p p' : Progress} {s : Statement} (h : Entries.Fits p.entries) (hs : s.Fits)
    (e : p.step s = some p') : Entries.Fits p'.entries := by
  cases s with
  | header path =>
    obtain ⟨entries, hentries, rfl⟩ := Option.map_eq_some_iff.mp e
    exact fits_openAt fits_openTable h hentries
  | element path =>
    obtain ⟨entries, hentries, rfl⟩ := Option.map_eq_some_iff.mp e
    exact fits_openAt fits_openElement h hentries
  | assign path v =>
    obtain ⟨entries, hentries, rfl⟩ := Option.map_eq_some_iff.mp e
    exact (tame_assign hs).alter h hentries

/-- What every step keeps holds at the end of a run. -/
theorem foldlM_preserves {α β : Type} {P : β → Prop} {Q : α → Prop} {f : β → α → Option β} {as : List α}
    {b b' : β} (hstep : ∀ b a b', P b → Q a → f b a = some b' → P b') (has : ∀ a ∈ as, Q a) (hb : P b)
    (e : as.foldlM f b = some b') : P b' := by
  induction as generalizing b with
  | nil =>
    cases e
    exact hb
  | cons a as ih =>
    obtain ⟨ha, has⟩ := List.forall_mem_cons.mp has
    obtain ⟨next, hnext, e⟩ := Option.bind_eq_some_iff.mp e
    exact ih has (hstep b a next hb ha hnext) e

theorem fits_entriesOf {statements : List Statement} (h : ∀ s ∈ statements, s.Fits)
    (e : entriesOf statements = some entries) : Entries.Fits entries := by
  obtain ⟨p, hp, rfl⟩ := Option.map_eq_some_iff.mp e
  exact foldlM_preserves (P := fun p : Progress => Entries.Fits p.entries) (fun _ _ _ => fits_step) h
    Entries.fits_nil hp

theorem fits_inlineEntries {pairs : List (List String × Value)} (h : ∀ p ∈ pairs, p.2.Fits)
    (e : inlineEntries pairs = some entries) : Entries.Fits entries :=
  foldlM_preserves (fun _ _ _ hentries hp e => tame_assign hp hentries e) h Entries.fits_nil e

/-! ## 4. Reading -/

theorem yields_based {base : Nat} {isDigit : Char → Bool} :
    Reader.Yields (Numeral.based base isDigit) Value.Fits := by
  intro cs v rest e
  obtain ⟨⟨ds, cs⟩, -, e⟩ := Option.bind_eq_some_iff.mp e
  dsimp only at e
  split at e
  next h =>
    cases e
    exact .integer h
  next => cases e

theorem fits_numeral {negative : Bool} {whole frac : List Char} {exp : Option Int}
    (e : Numeral.value negative whole frac exp = some v) : v.Fits := by
  unfold Numeral.value at e
  split at e
  next =>
    dsimp only at e
    split at e
    next h =>
      cases e
      exact .integer h
    next => cases e
  next =>
    dsimp only at e
    split at e
    next => cases e
    next =>
      cases e
      exact .float

theorem yields_decimal {negative : Bool} : Reader.Yields (Numeral.decimal negative) Value.Fits := by
  intro cs v rest e
  unfold Numeral.decimal at e
  split at e
  next =>
    cases e
    exact .float
  next =>
    cases e
    exact .float
  next =>
    obtain ⟨⟨whole, cs⟩, -, e⟩ := Option.bind_eq_some_iff.mp e
    obtain ⟨⟨frac, cs⟩, -, e⟩ := Option.bind_eq_some_iff.mp e
    obtain ⟨⟨exp, cs⟩, -, e⟩ := Option.bind_eq_some_iff.mp e
    obtain ⟨v, hv, e⟩ := Option.bind_eq_some_iff.mp e
    cases e
    exact fits_numeral hv

theorem yields_numeral : Reader.Yields Numeral.read Value.Fits := by
  intro cs v rest e
  unfold Numeral.read at e
  split at e
  next => exact yields_based e
  next => exact yields_based e
  next => exact yields_based e
  next => exact yields_decimal e

theorem yields_simpleValue : Reader.Yields (simpleValue bound) Value.Fits := by
  intro cs v rest e
  unfold simpleValue at e
  split at e
  next =>
    cases e
    exact .boolean true
  next =>
    cases e
    exact .boolean false
  next =>
    split at e
    next =>
      obtain ⟨⟨s, cs⟩, -, e⟩ := Option.map_eq_some_iff.mp e
      cases e
      exact .text s
    next =>
      split at e
      next =>
        obtain ⟨cs, -, e⟩ := Option.map_eq_some_iff.mp e
        cases e
        exact .moment
      next => exact yields_numeral e

variable {value : Reader Value}

theorem yields_element (h : Reader.Yields value Value.Fits) : Reader.Yields (element value) Value.Fits := by
  intro cs v rest e
  obtain ⟨⟨w, cs⟩, hw, e⟩ := Option.bind_eq_some_iff.mp e
  cases e
  exact h hw

theorem yields_array (h : Reader.Yields value Value.Fits) : Reader.Yields (array bound value) Value.Fits := by
  intro cs v rest e
  unfold array at e
  split at e
  next =>
    obtain ⟨cs, -, e⟩ := Option.bind_eq_some_iff.mp e
    cases e
    exact .array (List.forall_mem_nil _)
  next vs cs hvs =>
    obtain ⟨cs, -, e⟩ := Option.bind_eq_some_iff.mp e
    cases e
    exact .array ((yields_element h).separated hvs)

theorem yields_pair (h : Reader.Yields value Value.Fits) :
    Reader.Yields (pair bound value) fun p => p.2.Fits := by
  intro cs p rest e
  obtain ⟨⟨path, cs⟩, -, e⟩ := Option.bind_eq_some_iff.mp e
  obtain ⟨cs, -, e⟩ := Option.bind_eq_some_iff.mp e
  obtain ⟨⟨v, cs⟩, hv, e⟩ := Option.bind_eq_some_iff.mp e
  cases e
  exact h hv

theorem yields_inlineTable (h : Reader.Yields value Value.Fits) :
    Reader.Yields (inlineTable bound value) Value.Fits := by
  intro cs v rest e
  unfold inlineTable at e
  dsimp only at e
  obtain ⟨behind, -, e⟩ := Option.bind_eq_some_iff.mp e
  obtain ⟨entries, hentries, e⟩ := Option.bind_eq_some_iff.mp e
  cases e
  refine .table (fits_inlineEntries ?_ hentries)
  cases hpairs : Reader.separated bound ',' (pair bound value) cs with
  | none => exact List.forall_mem_nil _
  | some r => exact (yields_pair h).separated hpairs

/-- **Every value that is read is such a value**, by induction on how deep it is nested. -/
theorem yields_value : Reader.Yields (Toml.value bound depth) Value.Fits := by
  induction depth with
  | zero =>
    intro cs v rest e
    cases e
  | succ depth ih =>
    intro cs v rest e
    unfold Toml.value at e
    split at e
    next =>
      split at e
      next => cases e
      next => exact yields_array ih e
    next =>
      split at e
      next => cases e
      next => exact yields_inlineTable ih e
    next => exact yields_simpleValue e

theorem yields_statement? : Reader.Yields (statement? bound) fun s => ∀ s' ∈ s, s'.Fits := by
  intro cs s rest e
  unfold statement? at e
  split at e
  next =>
    obtain ⟨⟨s, cs⟩, hs, e⟩ := Option.map_eq_some_iff.mp e
    cases e
    obtain ⟨_, -, hs⟩ := Option.bind_eq_some_iff.mp hs
    obtain ⟨_, -, hs⟩ := Option.bind_eq_some_iff.mp hs
    obtain ⟨_, -, hs⟩ := Option.bind_eq_some_iff.mp hs
    cases hs
    rintro _ ⟨⟩
    trivial
  next =>
    obtain ⟨⟨s, cs⟩, hs, e⟩ := Option.map_eq_some_iff.mp e
    cases e
    obtain ⟨_, -, hs⟩ := Option.bind_eq_some_iff.mp hs
    obtain ⟨_, -, hs⟩ := Option.bind_eq_some_iff.mp hs
    cases hs
    rintro _ ⟨⟩
    trivial
  next =>
    split at e
    next =>
      cases e
      rintro _ ⟨⟩
    next =>
      obtain ⟨⟨⟨path, v⟩, cs⟩, hp, e⟩ := Option.map_eq_some_iff.mp e
      cases e
      rintro _ ⟨⟩
      exact yields_pair yields_value hp

theorem yields_line : Reader.Yields (line bound) fun s => ∀ s' ∈ s, s'.Fits := by
  intro cs s rest e
  unfold line at e
  split at e
  next => cases e
  next =>
    obtain ⟨⟨s, cs⟩, hs, e⟩ := Option.bind_eq_some_iff.mp e
    obtain ⟨cs, -, e⟩ := Option.bind_eq_some_iff.mp e
    cases e
    exact yields_statement? hs

/-- **Every integer of a document has 64 bits.** -/
theorem fits_of_parse {text : String} (e : parse text = some entries) : Entries.Fits entries := by
  obtain ⟨found, hfound, e⟩ := Option.bind_eq_some_iff.mp e
  refine fits_entriesOf ?_ e
  unfold statements at hfound
  dsimp only at hfound
  split at hfound
  next lines hlines =>
    cases hfound
    intro s hs
    obtain ⟨line, hline, rfl⟩ := List.mem_filterMap.mp hs
    have hall := congrArg Prod.fst hlines ▸ Reader.Yields.many yields_line
    exact hall _ hline s rfl
  next => cases hfound

end MediaIndex.Toml
