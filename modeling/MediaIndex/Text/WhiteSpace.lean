/-!
# White space

This file fixes which characters are white space and the two things the library does with them:
trimming both ends of a text, and splitting a text into words. The set is the `White_Space` property of
the character database: the five controls from tab to carriage return, the blank, the next-line control
and the twenty blanks and separators beyond ASCII.
-/

namespace MediaIndex

/-! ## 1. The characters -/

/-- White space, ASCII and beyond. -/
def isWhiteSpace (c : Char) : Bool :=
  let n := c.toNat
  decide (9 ≤ n ∧ n ≤ 13) || n == 0x20 || n == 0x85 || n == 0xA0 || n == 0x1680 ||
    decide (0x2000 ≤ n ∧ n ≤ 0x200A) || n == 0x2028 || n == 0x2029 || n == 0x202F ||
    n == 0x205F || n == 0x3000

/-! ## 2. Trimming and words, on lists of characters -/

/-- The text without the white space at its end. -/
def trimEndChars (cs : List Char) : List Char := (cs.reverse.dropWhile isWhiteSpace).reverse

/-- The text without the white space at either end. -/
def trimChars (cs : List Char) : List Char := trimEndChars (cs.dropWhile isWhiteSpace)

/-- The words of a text, where `word` is the part already read of the word under way. -/
def wordsFrom (word : List Char) : List Char → List (List Char)
  | [] => if word = [] then [] else [word]
  | c :: cs =>
    if isWhiteSpace c then (if word = [] then wordsFrom [] cs else word :: wordsFrom [] cs)
    else wordsFrom (word ++ [c]) cs

/-! ## 3. Trimming a text -/

/-- The text without the white space at either end. -/
def trim (s : String) : String := String.ofList (trimChars s.toList)

end MediaIndex
