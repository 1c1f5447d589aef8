import MediaIndex.Text.CharProperty

/-!
# Quoted text

How a text is shown between double quotes so that every character of it can be told: quotes and
backslashes get a backslash, five controls their short names, and what would not show by itself
(unprintable characters, those that need not be shown, and those that attach to the one before them)
its code point in braces.
-/

namespace MediaIndex.Quoted

/-! ## 1. One character -/

/-- Characters that would not show by themselves. The two voice marks of narrow Katakana would, for
    they take room of their own. -/
def hidden : CodeSet :=
  CodeSet.unions [CharProperty.unprintable, CharProperty.defaultIgnorable,
    CharProperty.graphemeExtend.diff (CodeSet.ofHex ["FF9E-FF9F"])]

/-- A character that shows as itself. -/
def showsPlainly (c : Char) : Bool :=
  if c.toNat < 0x7F then decide (0x20 ≤ c.toNat) else !hidden.contains c.toNat

/-- The code point of a character in lowercase hexadecimal digits between braces. -/
def codePoint (c : Char) : List Char :=
  ['\\', 'u', '\x7b'] ++ Nat.toDigits 16 c.toNat ++ ['\x7d']

/-- A character as it stands in a quoted text. -/
def encodeChar (c : Char) : List Char :=
  match c with
  | '\x00' => ['\\', '0']
  | '\t' => ['\\', 't']
  | '\n' => ['\\', 'n']
  | '\r' => ['\\', 'r']
  | '"' => ['\\', '"']
  | '\\' => ['\\', '\\']
  | c => if showsPlainly c then [c] else codePoint c

/-! ## 2. A text -/

/-- A text between double quotes. -/
def encode (s : String) : String :=
  String.ofList ('"' :: (s.toList.flatMap encodeChar ++ ['"']))

/-- Items between square brackets, with a comma and a blank between two. -/
def list (items : List String) : String := "[" ++ ", ".intercalate items ++ "]"

/-- Named parts after a title, between braces; a title alone when there are no parts. -/
def record (title : String) (parts : List (String × String)) : String :=
  if parts.isEmpty then title
  else title ++ " \x7b " ++ ", ".intercalate (parts.map fun (k, v) => k ++ ": " ++ v) ++ " \x7d"

/-- Named parts between braces, with no title. -/
def map (parts : List (String × String)) : String :=
  "\x7b" ++ ", ".intercalate (parts.map fun (k, v) => k ++ ": " ++ v) ++ "\x7d"

end MediaIndex.Quoted
