import Mathlib.Data.List.TakeWhile
import MediaIndex.Text.Reading

/-!
# What repeated reading comes to

`Reader.many` counts down a bound, and a reading that takes nothing would stop only there. Of a reading
that takes at least one character each time the bound is no part: it reads until it is refused.

* `span_append`, `exactly_append` -- taking what stands at the front of a text;
* `Readings`, `Readings.many_eq` -- what is read one after another, and that `many` reads it;
* `separated_eq` -- the same for readings with a separator between them;
* `Yields`, `Yields.many`, `Yields.separated` -- what holds of everything that is read.
-/

namespace MediaIndex.Reader

variable {α β : Type} {p : Reader α} {a : α} {as : List α} {cs front rest left : List Char} {c : Char}
  {bound : Nat}

/-! ## 1. Characters at the front -/

/-- A test tells two characters apart. -/
theorem ne_of_test {test : Char → Bool} {d : Char} (hc : test c = true) (hd : test d = false) : c ≠ d := by
  rintro rfl
  rw [hc] at hd
  cases hd

theorem span_append {test : Char → Bool} (h : ∀ c ∈ front, test c = true)
    (hrest : ∀ c ∈ rest.head?, test c = false) : span test (front ++ rest) = (front, rest) := by
  have hstop : rest.takeWhile test = [] ∧ rest.dropWhile test = rest := by
    cases rest with
    | nil => exact ⟨rfl, rfl⟩
    | cons c rest => simp [hrest c rfl]
  rw [span, List.takeWhile_append_of_pos h, List.dropWhile_append_of_pos h, hstop.1, hstop.2, List.append_nil]

theorem exactly_append {test : Char → Bool} {n : Nat} (hlen : front.length = n) (h : front.all test = true) :
    exactly n test (front ++ rest) = some (front, rest) := by
  subst hlen
  simp [exactly, h]

/-! ## 2. Reading until it is refused -/

/-- Reading `as` off the front of a text one after another leaves a text that `p` refuses. -/
inductive Readings (p : Reader α) : List α → List Char → List Char → Prop
  | stop {cs : List Char} (h : p cs = none) : Readings p [] cs cs
  | next {a : α} {as : List α} {cs rest left : List Char} (h : p cs = some (a, rest))
      (hlt : rest.length < cs.length) (more : Readings p as rest left) : Readings p (a :: as) cs left

/-- **A bound that no text is longer than is no bound.** -/
theorem Readings.many_eq (h : Readings p as cs left) (hb : cs.length ≤ bound) :
    many bound p cs = (as, left) := by
  induction h generalizing bound with
  | stop h =>
    cases bound with
    | zero => rfl
    | succ bound => rw [many, h]
  | next h hlt more ih =>
    obtain ⟨bound, rfl⟩ : ∃ n, bound = n + 1 := ⟨bound - 1, by omega⟩
    rw [many, h]
    simp only [ih (by omega : _ ≤ bound)]

/-- A reading of something that stands at the front of the text. -/
theorem Readings.cons (h : p (front ++ rest) = some (a, rest)) (hfront : front ≠ [])
    (more : Readings p as rest left) : Readings p (a :: as) (front ++ rest) left := by
  refine .next h ?_ more
  have := List.length_pos_iff.mpr hfront
  rw [List.length_append]
  omega

/-- Readings with a separator between two. -/
theorem separated_eq (h : p cs = some (a, rest)) (more : Readings (after c p) as rest left)
    (hb : rest.length ≤ bound) : separated bound c p cs = some (a :: as, left) := by
  simp only [separated, h, Option.bind_eq_bind, Option.bind_some, more.many_eq hb]
  rfl

/-! ## 3. What holds of everything that is read -/

/-- Whatever `p` reads has the property. -/
def Yields (p : Reader α) (P : α → Prop) : Prop := ∀ ⦃cs a rest⦄, p cs = some (a, rest) → P a

variable {P : α → Prop}

theorem Yields.many (h : Yields p P) : ∀ a ∈ (many bound p cs).1, P a := by
  induction bound generalizing cs with
  | zero => exact List.forall_mem_nil P
  | succ bound ih =>
    rw [Reader.many]
    split
    next => exact List.forall_mem_nil P
    next e => exact List.forall_mem_cons.mpr ⟨h e, ih⟩

theorem Yields.after (h : Yields p P) : Yields (after c p) P := by
  intro cs a rest e
  obtain ⟨_, -, e⟩ := Option.bind_eq_some_iff.mp e
  exact h e

theorem Yields.separated (h : Yields p P) : Yields (separated bound c p) fun as => ∀ a ∈ as, P a := by
  intro cs as rest e
  obtain ⟨⟨first, cs⟩, hfirst, e⟩ := Option.bind_eq_some_iff.mp e
  obtain ⟨rfl, -⟩ := Prod.mk.inj (Option.some.inj e)
  exact List.forall_mem_cons.mpr ⟨h hfirst, h.after.many⟩

end MediaIndex.Reader
