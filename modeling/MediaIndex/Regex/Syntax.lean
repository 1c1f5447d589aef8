import MediaIndex.Text.NamedProperty

/-!
# Regular expressions

What a pattern means once it has been read: sets of characters, conditions on a place in the text,
and their sequence, choice and repetition. Case and other flags have gone into the sets when the
pattern was read, so nothing here depends on them.

* `Regex.Matches` is the meaning: which stretches of a text an expression matches;
* places are counted from 0, before the first character, to the length of the text.
-/

namespace MediaIndex

/-! ## 1. Conditions on a place -/

/-- A condition on the characters next to a place. Where a condition speaks of words, `wide` says
    whether characters beyond ASCII can be word characters. -/
inductive Look where
  | textStart
  | textEnd
  | lineStart
  | lineEnd
  /-- As `lineStart`, where a carriage return ends a line too. -/
  | returnLineStart
  /-- As `lineEnd`, where a carriage return ends a line too. -/
  | returnLineEnd
  | wordBoundary (wide : Bool)
  | noWordBoundary (wide : Bool)
  | wordStart (wide : Bool)
  | wordEnd (wide : Bool)
  /-- No word character stands before the place. -/
  | afterNonWord (wide : Bool)
  /-- No word character stands after the place. -/
  | beforeNonWord (wide : Bool)
deriving DecidableEq, Repr, Inhabited

namespace Look

/-- ASCII letters, digits and the underscore. -/
def isAsciiWord (c : Char) : Bool := c.isAlphanum || c == '_'

/-- The character, if there is one, belongs to words. -/
def isWord (wide : Bool) : Option Char → Bool
  | none => false
  | some c => if wide then NamedProperty.word.contains c.toNat else isAsciiWord c

/-- The condition holds between the characters `before` and `after`; at an end of the text one of them
    is missing. -/
def holds (before after : Option Char) : Look → Bool
  | textStart => before.isNone
  | textEnd => after.isNone
  | lineStart => before.isNone || before == some '\n'
  | lineEnd => after.isNone || after == some '\n'
  | returnLineStart =>
    before.isNone || before == some '\n' || (before == some '\r' && after != some '\n')
  | returnLineEnd =>
    after.isNone || after == some '\r' || (after == some '\n' && before != some '\r')
  | wordBoundary wide => isWord wide before != isWord wide after
  | noWordBoundary wide => isWord wide before == isWord wide after
  | wordStart wide => !isWord wide before && isWord wide after
  | wordEnd wide => isWord wide before && !isWord wide after
  | afterNonWord wide => !isWord wide before
  | beforeNonWord wide => !isWord wide after

end Look

/-! ## 2. Expressions -/

/-- A regular expression. -/
inductive Regex where
  /-- Matches the empty stretch. -/
  | empty
  /-- Matches one character of the set. -/
  | set (s : CodeSet)
  /-- Matches the empty stretch at a place where the condition holds. -/
  | look (l : Look)
  /-- Matches `a` and then `b`. -/
  | cat (a b : Regex)
  /-- Matches `a` or `b`. -/
  | alt (a b : Regex)
  /-- Matches `r` at least `least` times, and at most `most` times where that is given. -/
  | repeated (r : Regex) (least : Nat) (most : Option Nat)
deriving DecidableEq, Repr, Inhabited

namespace Regex

/-- One character. -/
def char (c : Char) : Regex := .set (CodeSet.single c.toNat)

/-- Expressions one after another. -/
def cats : List Regex → Regex
  | [] => .empty
  | [r] => r
  | r :: rest => .cat r (cats rest)

/-- A choice between expressions. -/
def alts : List Regex → Regex
  | [] => .empty
  | [r] => r
  | r :: rest => .alt r (alts rest)

/-! ## 3. Meaning -/

/-- The characters before and after a place. -/
def around (text : List Char) (i : Nat) : Option Char × Option Char :=
  (if i = 0 then none else text[i - 1]?, text[i]?)

mutual

/-- The expression matches the text from place `i` to place `j`. -/
inductive Matches (text : List Char) : Regex → Nat → Nat → Prop where
  | empty {i : Nat} (h : i ≤ text.length) : Matches text .empty i i
  | set {s : CodeSet} {i : Nat} {c : Char} (hc : text[i]? = some c) (hs : s.contains c.toNat = true) :
      Matches text (.set s) i (i + 1)
  | look {l : Look} {i : Nat} (h : i ≤ text.length)
      (hl : l.holds (around text i).1 (around text i).2 = true) : Matches text (.look l) i i
  | cat {a b : Regex} {i j k : Nat} (ha : Matches text a i j) (hb : Matches text b j k) :
      Matches text (.cat a b) i k
  | altLeft {a b : Regex} {i j : Nat} (h : Matches text a i j) : Matches text (.alt a b) i j
  | altRight {a b : Regex} {i j : Nat} (h : Matches text b i j) : Matches text (.alt a b) i j
  | repeated {r : Regex} {least : Nat} {most : Option Nat} {n i j : Nat} (hl : least ≤ n)
      (hm : ∀ m, most = some m → n ≤ m) (h : MatchesTimes text r n i j) :
      Matches text (.repeated r least most) i j

/-- The expression matches `n` times in a row from place `i` to place `j`. -/
inductive MatchesTimes (text : List Char) : Regex → Nat → Nat → Nat → Prop where
  | zero {r : Regex} {i : Nat} (h : i ≤ text.length) : MatchesTimes text r 0 i i
  | succ {r : Regex} {n i j k : Nat} (hr : Matches text r i j) (h : MatchesTimes text r n j k) :
      MatchesTimes text r (n + 1) i k

end

end Regex

end MediaIndex
