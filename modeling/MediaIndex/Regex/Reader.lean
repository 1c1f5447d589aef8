import MediaIndex.Regex.Class
import MediaIndex.Regex.Syntax
import MediaIndex.Text.WhiteSpace

/-!
# Reading patterns: the parts

The parts a pattern is made of: flags, escapes, counts and classes in brackets. Every reader takes the
characters that are left and gives back what it has read with the characters after it. Flags are
applied while reading: a character read with case ignored is the set of all that differ from it in
case alone.
-/

namespace MediaIndex.Regex

/-! ## 1. Faults and flags -/

/-- What is wrong with a pattern. -/
inductive PatternFault where
  | unclosedGroup
  | unopenedGroup
  | groupName
  | flags
  | lookAround
  | backreference
  | nothingToRepeat
  | count
  | escape
  | unclosedClass
  | classRange
  | classItem
  | unknownProperty
  /-- The pattern could match a part of a character. -/
  | partialCharacter
  | nestedTooDeeply
deriving DecidableEq, Repr

/-- What a reader comes to, if the pattern can be read. -/
abbrev Outcome := Except PatternFault

/-- Something that has been read, with the characters after it. -/
abbrev Parsed (α : Type) := α × List Char

/-- How a pattern is to be taken. -/
structure Flags where
  ignoreCase : Bool := false
  /-- `^` and `$` match at every line. -/
  multiLine : Bool := false
  /-- `.` matches line ends too. -/
  dotAll : Bool := false
  /-- Characters beyond ASCII are meant by classes and conditions. -/
  wide : Bool := true
  /-- A carriage return ends a line too. -/
  returns : Bool := false
  /-- White space and comments in the pattern mean nothing. -/
  ignoreSpace : Bool := false
deriving DecidableEq, Repr, Inhabited

/-- A flag by its letter. `U` makes repetitions lazy, which changes no answer about a whole text. -/
def Flags.set? (f : Flags) (letter : Char) (on : Bool) : Option Flags :=
  match letter with
  | 'i' => some { f with ignoreCase := on }
  | 'm' => some { f with multiLine := on }
  | 's' => some { f with dotAll := on }
  | 'u' => some { f with wide := on }
  | 'R' => some { f with returns := on }
  | 'x' => some { f with ignoreSpace := on }
  | 'U' => some f
  | _ => none

/-- The greatest code unit of a set when only ASCII counts: sets are of bytes then. -/
def Flags.bound (f : Flags) : Nat := if f.wide then CodeSet.lastCode else 0xFF

/-! ## 2. Blanks -/

/-- What is left after white space and comments. -/
def skipBlanks (inComment : Bool) : List Char → List Char
  | [] => []
  | c :: cs =>
    if inComment then skipBlanks (c != '\n') cs
    else if isWhiteSpace c then skipBlanks false cs
    else if c = '#' then skipBlanks true cs
    else c :: cs

/-- What is left after blanks that mean nothing. -/
def Flags.skip (f : Flags) (cs : List Char) : List Char :=
  if f.ignoreSpace then skipBlanks false cs else cs

/-- What is left after one character and the blanks after it; there must be something. -/
def Flags.advance (f : Flags) (fault : PatternFault) (cs : List Char) :
    Outcome (List Char) :=
  match f.skip cs.tail with
  | [] => .error fault
  | rest => .ok rest

/-- The characters up to a closing brace, blanks left out where they mean nothing. -/
def Flags.untilBrace (f : Flags) (inComment : Bool) : List Char → Outcome (Parsed (List Char))
  | [] => .error .escape
  | c :: cs =>
    if inComment then f.untilBrace (c != '\n') cs
    else if f.ignoreSpace && isWhiteSpace c then f.untilBrace false cs
    else if f.ignoreSpace && c == '#' then f.untilBrace true cs
    else if c = '\x7d' then .ok ([], cs)
    else (f.untilBrace false cs).map fun (name, rest) => (c :: name, rest)

/-! ## 3. Characters and classes -/

/-- A set with every ASCII letter in both cases of those it has. -/
def closeAscii (s : CodeSet) : CodeSet :=
  s.union (CodeSet.ofCodes ((List.range 26).flatMap fun k =>
    if s.contains (0x41 + k) || s.contains (0x61 + k) then [0x41 + k, 0x61 + k] else []))

/-- A set with case ignored if the flags say so. -/
def Flags.fold (f : Flags) (s : CodeSet) : CodeSet :=
  if f.ignoreCase then (if f.wide then SimpleFold.close s else closeAscii s) else s

/-- A set of bytes must be a set of ASCII characters. -/
def Flags.checked (f : Flags) (s : CodeSet) : Outcome CodeSet :=
  if f.wide || s.within 0x7F then .ok s else .error .partialCharacter

/-- A set as it is meant by a class: case ignored if the flags say so, and then perhaps negated. -/
def Flags.finish (f : Flags) (negated : Bool) (s : CodeSet) : Outcome CodeSet :=
  let s := f.fold s
  f.checked (if negated then s.complement f.bound else s)

/-- What an escape or a single character stands for. -/
inductive Primitive where
  /-- A character; `byte` marks one that was written as a byte value. -/
  | literal (c : Char) (byte : Bool)
  | look (l : Look)
  | set (s : CodeSet)
deriving DecidableEq, Repr

/-- A character outside of brackets. -/
def Flags.literal (f : Flags) (c : Char) (byte : Bool) : Outcome Regex :=
  if !f.wide && byte && 0x7F < c.toNat then .error .partialCharacter
  else if f.ignoreCase && (f.wide || c.toNat < 0x80) then
    .ok (.set (if f.wide then CodeSet.ofCodes (SimpleFold.orbit c.toNat)
      else closeAscii (CodeSet.single c.toNat)))
  else .ok (.char c)

/-- A short class. -/
def Flags.shortClass (f : Flags) (k : ShortClass) (negated : Bool) :
    Outcome CodeSet :=
  let s := if f.wide then k.set else k.asciiSet
  f.checked (if negated then s.complement f.bound else s)

/-- A property of the character database, asked for as `name`, `name=value`, `name:value` or
    `name!=value`. -/
def Flags.property (f : Flags) (negated : Bool) (query : List Char) :
    Outcome CodeSet :=
  if !f.wide then .error .partialCharacter
  else
    let (unequal, found) := match splitUnequal query with
      | some (name, value) => (true, propertyValue? name value)
      | none => match splitOnFirst ':' query with
        | some (name, value) => (false, propertyValue? name value)
        | none => match splitOnFirst '=' query with
          | some (name, value) => (false, propertyValue? name value)
          | none => (false, property? query)
    match found with
    | some s => f.finish (negated != unequal) s
    | none => .error .unknownProperty
where
  /-- The parts around the first occurrence of a character. -/
  splitOnFirst (d : Char) (cs : List Char) : Option (List Char × List Char) :=
    if cs.contains d then some (cs.takeWhile (· != d), (cs.dropWhile (· != d)).tail) else none
  /-- The parts around the first `!=`. -/
  splitUnequal : List Char → Option (List Char × List Char)
    | '!' :: '=' :: rest => some ([], rest)
    | c :: rest => (splitUnequal rest).map fun (a, b) => (c :: a, b)
    | [] => none

/-! ## 4. Escapes -/

/-- Characters that have a meaning of their own in patterns. -/
def metaCharacters : List Char := "\\.+*?()|[]\x7b\x7d^$#&-~".toList

/-- A punctuation mark, blank or control of ASCII may have a backslash before it that means nothing. -/
def mayBeEscaped (c : Char) : Bool :=
  metaCharacters.contains c || (c.toNat < 0x80 && !c.isAlphanum && c != '<' && c != '>')

/-- The character with a code point. -/
def scalar (n : Nat) : Outcome Char :=
  match charOfCode? n with
  | some c => .ok c
  | none => .error .escape

/-- A given number of hexadecimal digits. -/
def Flags.hexDigits (f : Flags) : Nat → Nat → List Char → Outcome (Parsed Nat)
  | 0, value, cs => .ok (value, cs)
  | _ + 1, _, [] => .error .escape
  | n + 1, value, c :: cs =>
    match hexDigit? c with
    | some d => f.hexDigits n (16 * value + d) (f.skip cs)
    | none => .error .escape

/-- A character by its code point: so many digits, or digits in braces. -/
def Flags.hexEscape (f : Flags) (digits : Nat) (cs : List Char) : Outcome (Parsed Primitive) := do
  match ← f.advance .escape cs with
  | '\x7b' :: rest =>
    let (name, rest) ← f.untilBrace false rest
    if name.isEmpty || name.any (hexDigit? · |>.isNone) then .error .escape
    else pure (.literal (← scalar (hexValue name)) false, rest)
  | rest =>
    let (value, rest) ← f.hexDigits digits 0 rest
    pure (.literal (← scalar value) (digits == 2), rest)

/-- A property escape. -/
def Flags.propertyEscape (f : Flags) (negated : Bool) (cs : List Char) : Outcome (Parsed Primitive) := do
  match ← f.advance .escape cs with
  | '\x7b' :: rest =>
    let (name, rest) ← f.untilBrace false rest
    pure (.set (← f.property negated name), rest)
  | '\\' :: _ => .error .escape
  | c :: rest => pure (.set (← f.property negated [c]), f.skip rest)
  | [] => .error .escape

/-- What may follow `\b` in braces: a kind of word boundary. Anything that does not start with a letter
    or hyphen is left alone. -/
def Flags.boundary (f : Flags) (cs : List Char) : Outcome (Parsed Look) :=
  match cs with
  | '\x7b' :: rest =>
    match f.skip rest with
    | [] => .error .escape
    | c :: _ =>
      if c.isAlpha || c == '-' then do
        let (name, rest) ← f.untilBrace false rest
        match String.ofList name with
        | "start" => pure (.wordStart f.wide, rest)
        | "end" => pure (.wordEnd f.wide, rest)
        | "start-half" => pure (.afterNonWord f.wide, rest)
        | "end-half" => pure (.beforeNonWord f.wide, rest)
        | _ => .error .escape
      else .ok (.wordBoundary f.wide, cs)
  | _ => .ok (.wordBoundary f.wide, cs)

/-- What a backslash and the characters after it stand for; the backslash has been read. -/
def Flags.escape (f : Flags) (cs : List Char) : Outcome (Parsed Primitive) :=
  match cs with
  | [] => .error .escape
  | c :: rest =>
    if c.isDigit then .error .backreference
    else match c with
    | 'x' => f.hexEscape 2 cs
    | 'u' => f.hexEscape 4 cs
    | 'U' => f.hexEscape 8 cs
    | 'p' => f.propertyEscape false cs
    | 'P' => f.propertyEscape true cs
    | 'd' => (f.shortClass .digit false).map fun s => (.set s, rest)
    | 'D' => (f.shortClass .digit true).map fun s => (.set s, rest)
    | 's' => (f.shortClass .space false).map fun s => (.set s, rest)
    | 'S' => (f.shortClass .space true).map fun s => (.set s, rest)
    | 'w' => (f.shortClass .word false).map fun s => (.set s, rest)
    | 'W' => (f.shortClass .word true).map fun s => (.set s, rest)
    | 'a' => .ok (.literal '\x07' false, rest)
    | 'f' => .ok (.literal '\x0c' false, rest)
    | 't' => .ok (.literal '\t' false, rest)
    | 'n' => .ok (.literal '\n' false, rest)
    | 'r' => .ok (.literal '\r' false, rest)
    | 'v' => .ok (.literal '\x0b' false, rest)
    | 'A' => .ok (.look .textStart, rest)
    | 'z' => .ok (.look .textEnd, rest)
    | 'b' => (f.boundary rest).map fun (l, rest) => (.look l, rest)
    | 'B' => .ok (.look (.noWordBoundary f.wide), rest)
    | '<' => .ok (.look (.wordStart f.wide), rest)
    | '>' => .ok (.look (.wordEnd f.wide), rest)
    | _ => if mayBeEscaped c then .ok (.literal c false, rest) else .error .escape

/-! ## 5. Counts -/

/-- Digits, with blanks after each of them left out where they mean nothing. Each round reads a
    digit. -/
def Flags.digits (f : Flags) : Nat → List Char → List Char × List Char
  | 0, cs => ([], cs)
  | _ + 1, [] => ([], [])
  | fuel + 1, c :: cs =>
    if c.isDigit then let (ds, rest) := f.digits fuel (f.skip cs); (c :: ds, rest)
    else ([], c :: cs)

/-- The greatest number that can be a count. -/
def lastCount : Nat := 0xFFFFFFFF

/-- A count, with white space around it. -/
def Flags.count (f : Flags) (cs : List Char) : Outcome (Parsed (Option Nat)) :=
  let (ds, rest) := f.digits cs.length (cs.dropWhile isWhiteSpace)
  let rest := f.skip (rest.dropWhile isWhiteSpace)
  let value := ds.foldl (fun n c => 10 * n + (c.toNat - '0'.toNat)) 0
  if ds.isEmpty then .ok (none, rest)
  else if value ≤ lastCount then .ok (some value, rest)
  else .error .count

/-- The least and the greatest number of times, after an opening brace that has been read. -/
def Flags.counts (f : Flags) (cs : List Char) : Outcome (Parsed (Nat × Option Nat)) := do
  let (least, rest) ← f.count (f.skip cs)
  let some least := least | .error .count
  match rest with
  | '\x7d' :: rest => pure ((least, some least), rest)
  | ',' :: rest =>
    match f.skip rest with
    | '\x7d' :: rest => pure ((least, none), rest)
    | rest =>
      let (most, rest) ← f.count rest
      let some most := most | .error .count
      match rest with
      | '\x7d' :: rest => if least ≤ most then pure ((least, some most), rest) else .error .count
      | _ => .error .count
  | _ => .error .count

/-! ## 6. Classes in brackets -/

/-- The items of a class that have been read: their union, how many they are, and how deeply the
    deepest of them is nested. -/
structure ClassItems where
  set : CodeSet := .empty
  count : Nat := 0
  depth : Nat := 0

/-- One more item. -/
def ClassItems.push (items : ClassItems) (s : CodeSet) (depth : Nat := 0) : ClassItems :=
  { set := items.set.union s, count := items.count + 1, depth := max items.depth depth }

/-- How deeply the items are nested as one operand. -/
def ClassItems.operandDepth (items : ClassItems) : Nat :=
  if items.count ≤ 1 then items.depth else items.depth + 1

/-- An operation between the sets in brackets. -/
inductive ClassOp where
  | intersection
  | difference
  | symmetricDifference
deriving DecidableEq, Repr

/-- What is open while a class is being read, innermost first. -/
inductive ClassFrame where
  /-- A bracket, with the items read before it. -/
  | bracket (outer : ClassItems) (negated : Bool)
  /-- An operation, with its left operand. -/
  | operation (op : ClassOp) (left : CodeSet) (depth : Nat)

/-- The set an operation gives. -/
def Flags.operate (f : Flags) (op : ClassOp) (left right : CodeSet) : CodeSet :=
  let left := f.fold left
  let right := f.fold right
  match op with
  | .intersection => left.inter right f.bound
  | .difference => left.diff right f.bound
  | .symmetricDifference => left.symmDiff right f.bound

/-- Completes the operation that waits for its right operand, if there is one. -/
def Flags.completeOp (f : Flags) (items : ClassItems) (stack : List ClassFrame) :
    CodeSet × Nat × List ClassFrame :=
  match stack with
  | .operation op left depth :: stack =>
    (f.operate op left items.set, max depth items.operandDepth + 1, stack)
  | stack => (items.set, items.operandDepth, stack)

/-- A character inside of brackets as a code unit. -/
def Flags.classUnit (f : Flags) : Primitive → Outcome Nat
  | .literal c _ => if f.wide || c.toNat < 0x80 then .ok c.toNat else .error .partialCharacter
  | _ => .error .classRange

/-- One character or escape inside of brackets. -/
def Flags.classPrimitive (f : Flags) : List Char → Outcome (Parsed Primitive)
  | [] => .error .unclosedClass
  | '\\' :: rest => f.escape rest
  | c :: rest => .ok (.literal c false, rest)

/-- The first character that is no white space. Of a comment, the character after its sign counts as
    well: a look ahead does not pass over what the comment says. -/
def firstVisible (inComment : Bool) : List Char → Option Char
  | [] => none
  | c :: cs =>
    if isWhiteSpace c then firstVisible inComment cs
    else if !inComment && c == '#' then firstVisible true cs
    else some c

/-- The character that is seen after the present one. -/
def Flags.peek (f : Flags) (cs : List Char) : Option Char :=
  if f.ignoreSpace then firstVisible false cs.tail else cs.tail.head?

/-- An item or a range of characters inside of brackets. -/
def Flags.classRange (f : Flags) (cs : List Char) : Outcome (Parsed CodeSet) := do
  let (first, rest) ← f.classPrimitive cs
  let rest := f.skip rest
  match rest with
  | [] => .error .unclosedClass
  | c :: _ =>
    if c != '-' || f.peek rest == some ']' || f.peek rest == some '-' then
      match first with
      | .set s => pure (s, rest)
      | .look _ => .error .classItem
      | first => pure (CodeSet.single (← f.classUnit first), rest)
    else
      let rest ← f.advance .unclosedClass rest
      let (last, rest) ← f.classPrimitive rest
      let first ← f.classUnit first
      let last ← f.classUnit last
      if first ≤ last then pure (CodeSet.range first last, rest) else .error .classRange

/-- Hyphens at the beginning of a class, which stand for themselves. -/
def Flags.leadingHyphens (f : Flags) : Nat → ClassItems → List Char → Outcome (Parsed ClassItems)
  | 0, items, cs => .ok (items, cs)
  | n + 1, items, cs =>
    match cs with
    | '-' :: _ => do
      let rest ← f.advance .unclosedClass cs
      f.leadingHyphens n (items.push (CodeSet.single '-'.toNat)) rest
    | cs => .ok (items, cs)

/-- The beginning of a class, from its opening bracket on: whether it is negated, and the hyphens or
    the closing bracket that stand for themselves there. -/
def Flags.openClass (f : Flags) (cs : List Char) : Outcome (Parsed (Bool × ClassItems)) := do
  let rest ← f.advance .unclosedClass cs
  let (negated, rest) ← match rest with
    | '^' :: _ => do pure (true, ← f.advance .unclosedClass rest)
    | rest => pure (false, rest)
  let (items, rest) ← f.leadingHyphens rest.length {} rest
  match rest with
  | ']' :: _ =>
    if items.count = 0 then do
      let rest ← f.advance .unclosedClass rest
      pure ((negated, items.push (CodeSet.single ']'.toNat)), rest)
    else pure ((negated, items), rest)
  | rest => pure ((negated, items), rest)

/-- A bracketed class of ASCII, such as `[:alpha:]`; anything else is left alone. -/
def Flags.asciiClass (f : Flags) (cs : List Char) : Outcome (Option (CodeSet × List Char)) :=
  match cs with
  | '[' :: ':' :: rest =>
    let (negated, rest) := match rest with
      | '^' :: rest => (true, rest)
      | rest => (false, rest)
    match rest.dropWhile (· != ':') with
    | ':' :: ']' :: after =>
      match asciiClass? (String.ofList (rest.takeWhile (· != ':'))) with
      | some s => (f.finish negated s).map fun s => some (s, after)
      | none => .ok none
    | _ => .ok none
  | _ => .ok none

/-- Reads a class until its last bracket is closed. Each round reads at least one character. -/
def Flags.classWithin (f : Flags) :
    Nat → ClassItems → List ClassFrame → List Char → Outcome (Parsed (CodeSet × Nat))
  | 0, _, _, _ => .error .unclosedClass
  | fuel + 1, items, stack, cs => do
    let cs := f.skip cs
    let operation (op : ClassOp) (rest : List Char) : Outcome (Parsed (CodeSet × Nat)) :=
      let (left, depth, stack) := f.completeOp items stack
      f.classWithin fuel {} (.operation op left depth :: stack) rest
    match cs with
    | [] => .error .unclosedClass
    | '[' :: _ =>
      match ← f.asciiClass cs with
      | some (s, rest) => f.classWithin fuel (items.push s) stack rest
      | none =>
        let ((negated, inner), rest) ← f.openClass cs
        f.classWithin fuel inner (.bracket items negated :: stack) rest
    | ']' :: rest =>
      match f.completeOp items stack with
      | (s, depth, .bracket outer negated :: stack) =>
        let s ← f.finish negated s
        if stack.isEmpty then pure ((s, depth + 1), rest)
        else f.classWithin fuel (outer.push s (depth + 1)) stack rest
      | _ => .error .unclosedClass
    | '&' :: '&' :: rest => operation .intersection rest
    | '-' :: '-' :: rest => operation .difference rest
    | '~' :: '~' :: rest => operation .symmetricDifference rest
    | cs =>
      let (s, rest) ← f.classRange cs
      f.classWithin fuel (items.push s) stack rest

/-- Reads a class from its opening bracket on, and tells how deeply it is nested. -/
def Flags.bracketClass (f : Flags) (cs : List Char) : Outcome (Parsed (CodeSet × Nat)) := do
  let ((negated, items), rest) ← f.openClass cs
  f.classWithin cs.length items [.bracket {} negated] rest

end MediaIndex.Regex
