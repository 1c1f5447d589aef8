/-!
# Reading a text from the front

A reader takes something off the front of a text and leaves the rest, or refuses. Everything that
reads a file format is a reader.

Repetition is bounded: `Reader.many bound p` reads with `p` at most `bound` times. The length of the
whole text is bound enough for a `p` that takes at least one character each time.
-/

namespace MediaIndex

/-- Takes a value off the front of a text and leaves the rest. -/
abbrev Reader (α : Type) := List Char → Option (α × List Char)

namespace Reader

/-! ## 1. One thing -/

/-- Takes one given character. -/
def char (c : Char) (cs : List Char) : Option (List Char) :=
  match cs with
  | [] => none
  | a :: rest => if a = c then some rest else none

/-- Takes as many characters as satisfy a test. -/
def span (p : Char → Bool) (cs : List Char) : List Char × List Char :=
  (cs.takeWhile p, cs.dropWhile p)

/-- Takes exactly `n` characters that satisfy a test. -/
def exactly (n : Nat) (p : Char → Bool) : Reader (List Char) := fun cs =>
  let front := cs.take n
  if front.length = n && front.all p then some (front, cs.drop n) else none

/-! ## 2. Several things -/

/-- Reads with `p` as often as it will, at most `bound` times. -/
def many (bound : Nat) (p : Reader α) (cs : List Char) : List α × List Char :=
  match bound with
  | 0 => ([], cs)
  | bound + 1 =>
    match p cs with
    | none => ([], cs)
    | some (a, rest) =>
      let (more, rest) := many bound p rest
      (a :: more, rest)

/-- Reads a separator and then with `p`. -/
def after (separator : Char) (p : Reader α) : Reader α := fun cs => (char separator cs).bind p

/-- Reads at least once with `p`, with a separator between two readings. -/
def separated (bound : Nat) (separator : Char) (p : Reader α) : Reader (List α) := fun cs => do
  let (first, cs) ← p cs
  let (more, cs) := many bound (after separator p) cs
  pure (first :: more, cs)

/-- Reads the whole of a text with `p`. -/
def whole (p : Reader α) (cs : List Char) : Option α :=
  match p cs with
  | some (a, []) => some a
  | _ => none

end Reader

end MediaIndex
