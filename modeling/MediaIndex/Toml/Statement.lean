import MediaIndex.Toml.Moment
import MediaIndex.Toml.Numeral
import MediaIndex.Toml.Quoted
import MediaIndex.Toml.Table

/-!
# TOML statements

Reads the lines of a document: a header, a header of doubled brackets, or a key with its value, each
with an optional comment after it. Values may be nested, arrays and inline tables inside one another;
keys and nesting have the same limit of depth.

The `bound` that is handed through is the length of the document; no repetition is longer.
-/

namespace MediaIndex.Toml

/-! ## 1. Comments and gaps -/

/-- The text after a comment at its front, if there is one. -/
def skipComment (cs : List Char) : List Char :=
  match cs with
  | '#' :: rest => rest.dropWhile isPlain
  | cs => cs

/-- The text after white space, line breaks and comments; `inComment` says that a comment has begun. -/
def skipGap (inComment : Bool) : List Char → List Char
  | [] => []
  | '\n' :: cs => skipGap false cs
  | '\r' :: '\n' :: cs => skipGap false cs
  | c :: cs =>
    if inComment then (if isPlain c then skipGap true cs else c :: cs)
    else if isBlank c then skipGap false cs
    else if c == '#' then skipGap true cs
    else c :: cs

/-- Takes the end of a line: blanks, a comment, and a line break unless the document ends. -/
def lineEnd (cs : List Char) : Option (List Char) :=
  match skipComment (skipBlanks cs) with
  | [] => some []
  | cs => lineBreak? cs

/-! ## 2. Keys -/

/-- Keys have fewer parts, and values are nested less deep, than this. -/
def depthLimit : Nat := 80

/-- A character of a bare key. -/
def isKeyChar (c : Char) : Bool := c.isAlphanum || c == '-' || c == '_'

/-- One part of a key. -/
def keyPart (bound : Nat) : Reader String
  | '"' :: cs => Quoted.basic bound cs
  | '\'' :: cs => Quoted.literal cs
  | cs =>
    let (front, cs) := Reader.span isKeyChar cs
    if front.isEmpty then none else some (String.ofList front, cs)

/-- One part of a key with the blanks around it. -/
def spacedKeyPart (bound : Nat) : Reader String := fun cs => do
  let (part, cs) ← keyPart bound (skipBlanks cs)
  pure (part, skipBlanks cs)

/-- A key: parts with points between them. -/
def key (bound : Nat) : Reader (List String) := fun cs => do
  let (parts, cs) ← Reader.separated bound '.' (spacedKeyPart bound) cs
  if parts.length < depthLimit then pure (parts, cs) else none

/-! ## 3. Values -/

/-- An element of an array with the gaps around it. -/
def element (value : Reader Value) : Reader Value := fun cs => do
  let (v, cs) ← value (skipGap false cs)
  pure (v, skipGap false cs)

/-- The text after a comma at its front, if there is one. -/
def skipComma : List Char → List Char
  | ',' :: cs => cs
  | cs => cs

/-- The rest of an array; a comma may follow the last element. -/
def array (bound : Nat) (value : Reader Value) : Reader Value := fun cs => do
  match Reader.separated bound ',' (element value) cs with
  | none => pure (.array [], ← Reader.char ']' (skipGap false cs))
  | some (vs, cs) => pure (.array vs, ← Reader.char ']' (skipGap false (skipComma cs)))

/-- A key with its value. -/
def pair (bound : Nat) (value : Reader Value) : Reader (List String × Value) := fun cs => do
  let (path, cs) ← key bound cs
  let cs ← Reader.char '=' cs
  let (v, cs) ← value (skipBlanks cs)
  pure ((path, v), skipBlanks cs)

/-- The rest of an inline table. -/
def inlineTable (bound : Nat) (value : Reader Value) : Reader Value := fun cs => do
  let (pairs, cs) := (Reader.separated bound ',' (pair bound value) cs).getD ([], cs)
  let cs ← Reader.char '\x7d' (skipBlanks cs)
  let entries ← inlineEntries pairs
  pure (.table .braces entries, cs)

/-- A value that is not nested. -/
def simpleValue (bound : Nat) : Reader Value
  | 't' :: 'r' :: 'u' :: 'e' :: cs => some (.boolean true, cs)
  | 'f' :: 'a' :: 'l' :: 's' :: 'e' :: cs => some (.boolean false, cs)
  | cs =>
    if cs.head?.any fun c => c == '"' || c == '\'' then
      (Quoted.read bound cs).map fun (s, cs) => (.text s, cs)
    else if Moment.starts cs then (Moment.take cs).map (Value.moment, ·)
    else Numeral.read cs

/-- A value nested less deep than `depth`. -/
def value (bound : Nat) : Nat → Reader Value
  | 0 => fun _ => none
  | depth + 1 => fun cs =>
    match cs with
    | '[' :: cs => if depth = 0 then none else array bound (value bound depth) cs
    | '\x7b' :: cs => if depth = 0 then none else inlineTable bound (value bound depth) cs
    | cs => simpleValue bound cs

/-! ## 4. Statements -/

/-- A header of doubled brackets, after the opening ones. -/
def elementHeader (bound : Nat) : Reader Statement := fun cs => do
  let (path, cs) ← key bound cs
  let cs ← Reader.char ']' cs
  let cs ← Reader.char ']' cs
  pure (.element path, cs)

/-- A header, after the opening bracket. -/
def tableHeader (bound : Nat) : Reader Statement := fun cs => do
  let (path, cs) ← key bound cs
  let cs ← Reader.char ']' cs
  pure (.header path, cs)

/-- A statement; none on a line that is empty or holds a comment only. -/
def statement? (bound : Nat) : Reader (Option Statement)
  | '[' :: '[' :: cs => (elementHeader bound cs).map fun (s, cs) => (some s, cs)
  | '[' :: cs => (tableHeader bound cs).map fun (s, cs) => (some s, cs)
  | cs =>
    if cs.head?.all fun c => c == '#' || c == '\n' || c == '\r' then some (none, cs)
    else (pair bound (value bound depthLimit) cs).map fun ((path, v), cs) =>
      (some (.assign path v), cs)

/-- One line; there is none at the end of the document. -/
def line (bound : Nat) : Reader (Option Statement) := fun cs =>
  if cs.isEmpty then none
  else do
    let (s, cs) ← statement? bound (skipBlanks cs)
    pure (s, ← lineEnd cs)

/-- The statements of a document; a byte order mark may come first. -/
def statements (cs : List Char) : Option (List Statement) :=
  let cs := (Reader.char '\ufeff' cs).getD cs
  match Reader.many cs.length (line cs.length) cs with
  | (lines, []) => some (lines.filterMap id)
  | _ => none

/-- Reads a document; its tables are what the statements make. -/
def parse (text : String) : Option Entries := (statements text.toList).bind entriesOf

end MediaIndex.Toml
