/-!
# Splitting texts

A text is split at a delimiter into the pieces between its occurrences, found from the left and
without overlap. On lists of characters, so that the pieces can be reasoned about.

* `splitAtAll d cs` are the pieces between the occurrences of the non-empty delimiter `d`;
* `splitAtFirst d cs` is the part before and the part after the first occurrence of a character.
-/

namespace MediaIndex

/-! ## 1. Delimiters -/

/-- What follows `d` in `cs`, if `cs` starts with `d`. -/
def dropLeading? : (d cs : List Char) → Option (List Char)
  | [], cs => some cs
  | _ :: _, [] => none
  | a :: d, c :: cs => if a = c then dropLeading? d cs else none

/-- What is left after a leading delimiter is no longer than the text. -/
theorem length_dropLeading? {d cs rest : List Char} (h : dropLeading? d cs = some rest) :
    rest.length + d.length = cs.length := by
  induction d generalizing cs with
  | nil => simp only [dropLeading?, Option.some.injEq] at h; simp [h]
  | cons a d ih =>
    cases cs with
    | nil => simp [dropLeading?] at h
    | cons c cs =>
      simp only [dropLeading?] at h
      split at h
      · have := ih h; simp only [List.length_cons]; omega
      · exact absurd h (by simp)

/-- The delimiter occurs somewhere in the text. -/
def occursIn (d : List Char) : List Char → Bool
  | [] => d.isEmpty
  | c :: cs => (dropLeading? d (c :: cs)).isSome || occursIn d cs

/-! ## 2. Pieces -/

/-- The pieces of a text between the occurrences of the delimiter `a :: d`, where `piece` is what has
    been read of the piece under way. -/
def splitAtAllFrom (a : Char) (d : List Char) (piece : List Char) (cs : List Char) :
    List (List Char) :=
  match cs with
  | [] => [piece]
  | c :: cs =>
    match h : dropLeading? (a :: d) (c :: cs) with
    | some rest =>
      have : rest.length < (c :: cs).length := by
        have := length_dropLeading? h
        simp only [List.length_cons] at this ⊢
        omega
      piece :: splitAtAllFrom a d [] rest
    | none => splitAtAllFrom a d (piece ++ [c]) cs
termination_by cs.length
decreasing_by
  · assumption
  · exact Nat.lt_succ_self _

/-- The pieces of a text between the occurrences of a delimiter; an empty delimiter never occurs. -/
def splitAtAll (d cs : List Char) : List (List Char) :=
  match d with
  | [] => [cs]
  | a :: d => splitAtAllFrom a d [] cs

/-- The pieces of a text between the occurrences of one character. -/
def splitAtChar (d : Char) : List Char → List (List Char)
  | [] => [[]]
  | c :: cs =>
    if c = d then [] :: splitAtChar d cs
    else match splitAtChar d cs with
      | [] => [[c]]
      | piece :: pieces => (c :: piece) :: pieces

/-- The parts of a text before and after the first occurrence of a character. -/
def splitAtFirst (d : Char) : List Char → Option (List Char × List Char)
  | [] => none
  | c :: cs =>
    if c = d then some ([], cs) else (splitAtFirst d cs).map fun (a, b) => (c :: a, b)

end MediaIndex
