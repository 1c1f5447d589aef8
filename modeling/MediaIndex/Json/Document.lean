/-!
# Printed JSON

What the library prints as JSON, one value or member a line, two more blanks for every level.
-/

namespace MediaIndex.Json

/-- A value to be printed. -/
inductive Document where
  | number (n : Nat)
  | flag (b : Bool)
  | text (s : String)
  | list (elements : List Document)
  | record (members : List (String × Document))
deriving Repr, Inhabited

namespace Document

/-! ## 1. Strings -/

/-- A character as it stands in a string: quotes, backslashes and controls are escaped. -/
def writeChar (c : Char) : List Char :=
  match c with
  | '"' => ['\\', '"']
  | '\\' => ['\\', '\\']
  | '\x08' => ['\\', 'b']
  | '\x0c' => ['\\', 'f']
  | '\n' => ['\\', 'n']
  | '\r' => ['\\', 'r']
  | '\t' => ['\\', 't']
  | c =>
    if c < ' ' then
      let digits := Nat.toDigits 16 c.toNat
      ['\\', 'u'] ++ List.replicate (4 - digits.length) '0' ++ digits
    else [c]

/-- A string. -/
def writeText (s : String) : String := String.ofList ('"' :: (s.toList.flatMap writeChar ++ ['"']))

/-! ## 2. Values -/

/-- The blanks before a line. -/
def indentation (level : Nat) : String := String.ofList (List.replicate (2 * level) ' ')

/-- Lines between two marks; the marks alone when there are none. -/
def block (opening closing : String) (level : Nat) (lines : List String) : String :=
  if lines.isEmpty then opening ++ closing
  else opening ++ "\n" ++ ",\n".intercalate (lines.map (indentation (level + 1) ++ ·)) ++ "\n" ++
    indentation level ++ closing

mutual

/-- A value that stands on a line of a level. -/
def write (level : Nat) : Document → String
  | .number n => toString n
  | .flag b => toString b
  | .text s => writeText s
  | .list elements => block "[" "]" level (writeAll (level + 1) elements)
  | .record members => block "\x7b" "\x7d" level (writeMembers (level + 1) members)

/-- The elements of a list. -/
def writeAll (level : Nat) : List Document → List String
  | [] => []
  | d :: ds => write level d :: writeAll level ds

/-- The members of a record. -/
def writeMembers (level : Nat) : List (String × Document) → List String
  | [] => []
  | (name, d) :: ms => (writeText name ++ ": " ++ write level d) :: writeMembers level ms

end

/-- A value as a text. -/
def shown (d : Document) : String := d.write 0

end Document

end MediaIndex.Json
