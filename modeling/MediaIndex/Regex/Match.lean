import MediaIndex.Regex.Syntax

/-!
# Matching

Whether some stretch of a text matches an expression. A set of places is a number whose bit `i` says
whether place `i` is in it. Held against a text, an expression becomes a `Walk`, in which every
condition on characters is the set of places where it holds; a walk takes a set of places to the
places where a match can end that starts in the set.

Since a match never goes back, a repetition has reached all it can after as many rounds as there are
places; `iterate` stops earlier when a round changes nothing.
-/

namespace MediaIndex.Regex

/-! ## 1. Sets of places -/

/-- The number whose bits are the given ones, the lowest first. -/
def ofBits : List Bool → Nat
  | [] => 0
  | b :: bs => (if b then 1 else 0) + 2 * ofBits bs

/-- The places before the characters of a set. -/
def placesBefore (text : List Char) (s : CodeSet) : Nat :=
  ofBits (text.map fun c => s.contains c.toNat)

/-- The characters before and after each place, from place 0 on. -/
def surroundings (text : List Char) : List (Option Char × Option Char) :=
  (none :: text.map some).zip (text.map some ++ [none])

/-- The places where a condition holds. -/
def placesOf (text : List Char) (l : Look) : Nat :=
  ofBits ((surroundings text).map fun (before, after) => l.holds before after)

/-- All places of a text. -/
def allPlaces (text : List Char) : Nat := Nat.pow 2 (text.length + 1) - 1

/-! ## 2. Walks -/

/-- An expression held against one text. -/
inductive Walk where
  | stay
  /-- One place on from any of the given places. -/
  | step (places : Nat)
  /-- Only the given places. -/
  | keep (places : Nat)
  | cat (a b : Walk)
  | alt (a b : Walk)
  | repeated (a : Walk) (least : Nat) (most : Option Nat)

/-- The walk of an expression on a text. -/
def walk (text : List Char) : Regex → Walk
  | .empty => .stay
  | .set c => .step (placesBefore text c)
  | .look l => .keep (placesOf text l)
  | .cat a b => .cat (walk text a) (walk text b)
  | .alt a b => .alt (walk text a) (walk text b)
  | .repeated r least most => .repeated (walk text r) least most

/-- A function applied `n` times, or until it changes nothing. -/
def iterate (f : Nat → Nat) : Nat → Nat → Nat
  | 0, s => s
  | n + 1, s =>
    let next := f s
    if next = s then s else iterate f n next

/-- The places where a walk can end that starts at one of the given places; `rounds` is the number of
    places there are. -/
def Walk.reach (rounds : Nat) : Walk → Nat → Nat
  | .stay, s => s
  | .step places, s => (s &&& places) <<< 1
  | .keep places, s => s &&& places
  | .cat a b, s => b.reach rounds (a.reach rounds s)
  | .alt a b, s => a.reach rounds s ||| b.reach rounds s
  | .repeated a least most, s =>
    let start := iterate (a.reach rounds) least s
    let more := match most with
      | none => rounds
      | some most => most - least
    iterate (fun s => s ||| a.reach rounds s) more start

/-- The places where a match can end that starts at one of the given places. -/
def reach (text : List Char) (r : Regex) (s : Nat) : Nat :=
  (r.walk text).reach (text.length + 1) s

/-- Some stretch of the text matches. -/
def isMatch (r : Regex) (text : List Char) : Bool := r.reach text (allPlaces text) != 0

end MediaIndex.Regex
