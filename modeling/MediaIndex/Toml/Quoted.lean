import MediaIndex.Text.Digits
import MediaIndex.Text.Reading

/-!
# TOML strings

A string stands between double quotes, where a backslash begins an escape, or between single quotes,
where every character stands for itself. Either quote may be tripled; the string may then hold line
breaks, and one that follows the opening quotes at once is not part of it.

* `Quoted.read` reads a string in any of the four forms;
* `Quoted.write` writes a string in the plainest form that can hold it.
-/

namespace MediaIndex.Toml

/-! ## 1. White space and line breaks -/

/-- A blank or a tab. -/
def isBlank (c : Char) : Bool := c == ' ' || c == '\t'

/-- The text after the blanks at its front. -/
def skipBlanks (cs : List Char) : List Char := cs.dropWhile isBlank

/-- Takes a line break. -/
def lineBreak? : List Char → Option (List Char)
  | '\n' :: cs => some cs
  | '\r' :: '\n' :: cs => some cs
  | _ => none

/-- The text after the blanks and line breaks at its front. -/
def skipSpace : List Char → List Char
  | '\r' :: '\n' :: cs => skipSpace cs
  | c :: cs => if isBlank c || c == '\n' then skipSpace cs else c :: cs
  | [] => []

/-- A character that may stand in a comment or, quotes and backslashes apart, in a string. -/
def isPlain (c : Char) : Bool := c == '\t' || (decide (' ' ≤ c) && c != '\x7f')

namespace Quoted

/-! ## 2. Reading between double quotes -/

/-- The character with a code point of so many hexadecimal digits. -/
def codePoint (digits : Nat) : Reader Char := fun cs => do
  let (front, cs) ← Reader.exactly digits isHexDigit cs
  let c ← charOfCode? (hexValue front)
  pure (c, cs)

/-- What follows the backslash of an escape. -/
def escape : Reader Char
  | 'b' :: cs => some ('\x08', cs)
  | 't' :: cs => some ('\t', cs)
  | 'n' :: cs => some ('\n', cs)
  | 'f' :: cs => some ('\x0c', cs)
  | 'r' :: cs => some ('\r', cs)
  | '"' :: cs => some ('"', cs)
  | '\\' :: cs => some ('\\', cs)
  | 'u' :: cs => codePoint 4 cs
  | 'U' :: cs => codePoint 8 cs
  | _ => none

/-- A character between double quotes. -/
def basicChar : Reader Char
  | '\\' :: cs => escape cs
  | '"' :: _ => none
  | c :: cs => if isPlain c then some (c, cs) else none
  | [] => none

/-- The rest of a string between double quotes. -/
def basic (bound : Nat) : Reader String := fun cs => do
  let (chars, cs) := Reader.many bound basicChar cs
  let cs ← Reader.char '"' cs
  pure (String.ofList chars, cs)

/-- A backslash at the end of a line: it and all white space up to the next character. -/
def lineJoin? (cs : List Char) : Option (List Char) :=
  (lineBreak? (skipBlanks cs)).map skipSpace

/-- What there is between tripled double quotes: a character, a line break, or a joined line. A quote
    counts unless it is the first of three. -/
def basicBlockPart : Reader (List Char)
  | '\\' :: cs =>
    match lineJoin? cs with
    | some cs => some ([], cs)
    | none => (escape cs).map fun (c, cs) => ([c], cs)
  | '"' :: '"' :: '"' :: _ => none
  | '\r' :: '\n' :: cs => some (['\n'], cs)
  | c :: cs => if isPlain c || c == '\n' then some ([c], cs) else none
  | [] => none

/-! ## 3. Reading between single quotes -/

/-- The rest of a string between single quotes. -/
def literal : Reader String := fun cs => do
  let (chars, cs) := Reader.span (fun c => isPlain c && c != '\'') cs
  let cs ← Reader.char '\'' cs
  pure (String.ofList chars, cs)

/-- What there is between tripled single quotes: a character or a line break. A quote counts unless it
    is the first of three. -/
def literalBlockPart : Reader (List Char)
  | '\'' :: '\'' :: '\'' :: _ => none
  | '\r' :: '\n' :: cs => some (['\n'], cs)
  | c :: cs => if isPlain c || c == '\n' then some ([c], cs) else none
  | [] => none

/-! ## 4. Tripled quotes -/

/-- Takes tripled closing quotes, with up to two more quotes before them that belong to the string. -/
def closing (quote : Char) (cs : List Char) : Option (List Char × List Char) :=
  let quotes := (cs.takeWhile (· == quote)).length
  if quotes < 3 then none
  else
    let kept := min (quotes - 3) 2
    some (List.replicate kept quote, cs.drop (kept + 3))

/-- The rest of a string between tripled quotes. -/
def block (bound : Nat) (quote : Char) (part : Reader (List Char)) : Reader String := fun cs => do
  let (parts, cs) := Reader.many bound part ((lineBreak? cs).getD cs)
  let (kept, cs) ← closing quote cs
  pure (String.ofList (parts.flatten ++ kept), cs)

/-- A string in any form. -/
def read (bound : Nat) : Reader String
  | '"' :: '"' :: '"' :: cs => block bound '"' basicBlockPart cs
  | '"' :: cs => basic bound cs
  | '\'' :: '\'' :: '\'' :: cs => block bound '\'' literalBlockPart cs
  | '\'' :: cs => literal cs
  | _ => none

/-! ## 5. Writing -/

/-- A control character that only an escape can write. -/
def needsEscape (c : Char) : Bool := !isPlain c && c != '\n'

/-- The longest run of a character. -/
def longestRun (c : Char) (cs : List Char) : Nat :=
  (cs.foldl (fun (run, longest) a =>
    if a = c then (run + 1, max longest (run + 1)) else (0, longest)) (0, 0)).2

/-- The form a string is written in. -/
inductive Form where
  | basic | literal | basicBlock | literalBlock
deriving DecidableEq, Repr

/-- The first form that can hold a string without an escape; else the one that has them, in tripled
    quotes when the string has line breaks. -/
def formOf (cs : List Char) : Form :=
  let escapes := cs.any needsEscape
  let breaks := cs.contains '\n'
  if !escapes && !breaks && !cs.contains '"' && !cs.contains '\\' then .basic
  else if !escapes && !breaks && !cs.contains '\'' then .literal
  else if !escapes && !cs.contains '\\' && longestRun '"' cs ≤ 2 then .basicBlock
  else if !escapes && longestRun '\'' cs ≤ 2 then .literalBlock
  else if breaks then .basicBlock
  else .basic

/-- A code point in four hexadecimal digits. -/
def fourDigits (n : Nat) : List Char :=
  let digits := (Nat.toDigits 16 n).map Char.toUpper
  List.replicate (4 - digits.length) '0' ++ digits

/-- A character between double quotes, where a quote and a line break need an escape. -/
def writeChar (c : Char) : List Char :=
  match c with
  | '\x08' => ['\\', 'b']
  | '\t' => ['\\', 't']
  | '\n' => ['\\', 'n']
  | '\x0c' => ['\\', 'f']
  | '\r' => ['\\', 'r']
  | '"' => ['\\', '"']
  | '\\' => ['\\', '\\']
  | c => if needsEscape c then '\\' :: 'u' :: fourDigits c.toNat else [c]

/-- The characters of a string between tripled double quotes, where line breaks stand for themselves
    and of quotes in a row every third one has an escape; `quotes` are those just written. -/
def writeBlock (quotes : Nat) : List Char → List Char
  | [] => []
  | '"' :: cs =>
    if quotes < 2 then '"' :: writeBlock (quotes + 1) cs else '\\' :: '"' :: writeBlock 0 cs
  | '\n' :: cs => '\n' :: writeBlock 0 cs
  | c :: cs => writeChar c ++ writeBlock 0 cs

/-- Tripled quotes around a text; a line break follows the opening ones when the text has any. -/
def tripled (quote : Char) (breaks : Bool) (cs : List Char) : List Char :=
  let quotes := List.replicate 3 quote
  quotes ++ (if breaks then ['\n'] else []) ++ cs ++ quotes

/-- A string in a form. -/
def writeAs (form : Form) (cs : List Char) : List Char :=
  let breaks := cs.contains '\n'
  match form with
  | .basic => '"' :: (cs.flatMap writeChar ++ ['"'])
  | .literal => '\'' :: (cs ++ ['\''])
  | .basicBlock => tripled '"' breaks (writeBlock 0 cs)
  | .literalBlock => tripled '\'' breaks cs

/-- A string in the plainest form that can hold it. -/
def write (s : String) : String := String.ofList (writeAs (formOf s.toList) s.toList)

end Quoted

end MediaIndex.Toml
