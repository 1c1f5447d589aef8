import MediaIndex.Regex.Match
import MediaIndex.Regex.Reader

/-!
# Reading patterns: groups

How a whole pattern is read: sequences, choices, groups with their flags, and repetitions. The reader
keeps the sequence and the choices under way and, for every open group, those around it.

A pattern may not be nested more than 250 deep; sequences and choices of several parts, groups,
repetitions and classes each count for one.
-/

namespace MediaIndex.Regex

/-! ## 1. What is being read -/

/-- A part of a sequence. -/
structure Piece where
  regex : Regex
  /-- How deeply the part is nested. -/
  depth : Nat := 0
  /-- A repetition may follow; it may not follow a setting of flags. -/
  repeatable : Bool := true

/-- A sequence under way and the choices before it, both with the last part first. -/
structure Branches where
  parts : List Piece := []
  choices : List Piece := []

/-- A sequence as one part. -/
def Piece.ofSequence (parts : List Piece) : Piece :=
  match parts with
  | [] => { regex := .empty }
  | [p] => p
  | parts => { regex := cats (parts.map (·.regex)), depth := (parts.map (·.depth)).foldl max 0 + 1 }

/-- A choice as one part. -/
def Piece.ofChoices (choices : List Piece) : Piece :=
  match choices with
  | [p] => p
  | ps => { regex := alts (ps.map (·.regex)), depth := (ps.map (·.depth)).foldl max 0 + 1 }

namespace Branches

/-- One more part of the sequence. -/
def push (b : Branches) (p : Piece) : Branches := { b with parts := p :: b.parts }

/-- The sequence is done and another choice begins. -/
def nextChoice (b : Branches) : Branches :=
  { parts := [], choices := Piece.ofSequence b.parts.reverse :: b.choices }

/-- All that has been read, as one part. -/
def toPiece (b : Branches) : Piece := Piece.ofChoices b.nextChoice.choices.reverse

/-- The last part of the sequence, which is about to be repeated, and what is left. -/
def pop (b : Branches) : Outcome (Piece × Branches) :=
  match b.parts with
  | p :: parts => if p.repeatable then .ok (p, { b with parts }) else .error .nothingToRepeat
  | [] => .error .nothingToRepeat

end Branches

/-- The state of a reader of patterns. -/
structure PatternReader where
  flags : Flags
  branches : Branches := {}
  /-- The open groups, innermost first: what is around each, and the flags in force there. -/
  groups : List (Branches × Flags) := []
  /-- The names given to groups. -/
  names : List (List Char) := []

/-! ## 2. Group openings -/

/-- Flags up to a colon or a closing parenthesis: the letters read so far, whether they are switched
    off from here on, and whether the last one read was the hyphen that does so. -/
def flagLetters (seen : List Char) (negated hyphenLast : Bool) (f : Flags) :
    List Char → Outcome (Parsed (Flags × Bool))
  | [] => .error .unclosedGroup
  | c :: cs =>
    if c = ':' || c = ')' then
      if hyphenLast then .error .flags else .ok ((f, seen.isEmpty), c :: cs)
    else if seen.contains c then .error .flags
    else if c = '-' then flagLetters (c :: seen) true true f cs
    else match f.set? c !negated with
      | some f => flagLetters (c :: seen) negated false f cs
      | none => .error .flags

/-- A character that the name of a group may hold. -/
def isNameChar (first : Bool) (c : Char) : Bool :=
  c == '_' || CharProperty.alphabetic.contains c.toNat ||
    (!first && (c == '.' || c == '[' || c == ']' || GeneralCategory.number.contains c.toNat))

/-- The name of a group, up to a closing angle bracket. -/
def groupName (cs : List Char) : Outcome (Parsed (List Char)) :=
  let name := cs.takeWhile (· != '>')
  match cs.dropWhile (· != '>'), name with
  | _ :: rest, c :: more =>
    if isNameChar true c && more.all (isNameChar false) then .ok (name, rest) else .error .groupName
  | _, _ => .error .groupName

namespace PatternReader

/-- Begins a group in which the given flags are in force. -/
def openGroup (r : PatternReader) (flags : Flags) : PatternReader :=
  { r with flags, branches := {}, groups := (r.branches, r.flags) :: r.groups }

/-- Begins a group with a name; no two groups may have one name. -/
def openNamed (r : PatternReader) (cs : List Char) : Outcome (Parsed PatternReader) := do
  let (name, rest) ← groupName cs
  if r.names.contains name then .error .groupName
  else pure ({ r with names := name :: r.names }.openGroup r.flags, rest)

/-- An opening parenthesis has been read: begins a group, or sets flags for what follows. -/
def groupStart (r : PatternReader) (cs : List Char) : Outcome (Parsed PatternReader) :=
  match r.flags.skip cs with
  | '?' :: '=' :: _ => .error .lookAround
  | '?' :: '!' :: _ => .error .lookAround
  | '?' :: '<' :: '=' :: _ => .error .lookAround
  | '?' :: '<' :: '!' :: _ => .error .lookAround
  | '?' :: 'P' :: '<' :: rest => r.openNamed rest
  | '?' :: '<' :: rest => r.openNamed rest
  | '?' :: rest => do
    let ((flags, noFlags), rest) ← flagLetters [] false false r.flags rest
    match rest with
    | ')' :: rest =>
      if noFlags then .error .nothingToRepeat
      else
        let set : Piece := { regex := .empty, repeatable := false }
        pure ({ r with flags, branches := r.branches.push set }, rest)
    | rest => pure (r.openGroup flags, rest.tail)
  | rest => .ok (r.openGroup r.flags, rest)

/-- Ends the innermost group; the flags around it are in force again. -/
def closeGroup (r : PatternReader) : Outcome PatternReader :=
  match r.groups with
  | [] => .error .unopenedGroup
  | (branches, flags) :: groups =>
    let inner := r.branches.toPiece
    let group : Piece := { regex := inner.regex, depth := inner.depth + 1 }
    .ok { r with flags, groups, branches := branches.push group }

/-! ## 3. Reading on -/

/-- One more part of the sequence. -/
def push (r : PatternReader) (regex : Regex) (depth : Nat := 0) : PatternReader :=
  { r with branches := r.branches.push { regex, depth } }

/-- Repeats the last part; a question mark after the repetition makes it lazy, which changes no answer
    about a whole text. -/
def repeatLast (r : PatternReader) (least : Nat) (most : Option Nat) (cs : List Char) :
    Outcome (Parsed PatternReader) := do
  let (p, branches) ← r.branches.pop
  let rest := match cs with
    | '?' :: rest => rest
    | cs => cs
  pure ({ r with branches }.push (.repeated p.regex least most) (p.depth + 1), rest)

/-- What a dot stands for. -/
def dot (f : Flags) : Outcome Regex :=
  if !f.wide then .error .partialCharacter
  else
    let lineEnds := if f.dotAll then CodeSet.empty
      else if f.returns then CodeSet.ofCodes [0x0A, 0x0D] else CodeSet.single 0x0A
    .ok (.set lineEnds.complement)

/-- The beginning, or the end, of a line or the text. -/
def anchor (f : Flags) (atStart : Bool) : Look :=
  if f.multiLine then
    if atStart then (if f.returns then .returnLineStart else .lineStart)
    else (if f.returns then .returnLineEnd else .lineEnd)
  else if atStart then .textStart else .textEnd

/-- Reads one part of the pattern, from its first character on. -/
def step (r : PatternReader) (c : Char) (cs : List Char) : Outcome (Parsed PatternReader) :=
  match c with
  | '(' => r.groupStart cs
  | ')' => r.closeGroup.map (·, cs)
  | '|' => .ok ({ r with branches := r.branches.nextChoice }, cs)
  | '[' => do
    let ((s, depth), rest) ← r.flags.bracketClass (c :: cs)
    pure (r.push (.set s) depth, rest)
  | '?' => r.repeatLast 0 (some 1) cs
  | '*' => r.repeatLast 0 none cs
  | '+' => r.repeatLast 1 none cs
  | '\x7b' => do
    let _ ← r.branches.pop
    let ((least, most), rest) ← r.flags.counts cs
    r.repeatLast least most (r.flags.skip rest)
  | '.' => (dot r.flags).map fun d => (r.push d, cs)
  | '^' => .ok (r.push (.look (anchor r.flags true)), cs)
  | '$' => .ok (r.push (.look (anchor r.flags false)), cs)
  | '\\' => do
    match ← r.flags.escape cs with
    | (.literal c byte, rest) => pure (r.push (← r.flags.literal c byte), rest)
    | (.look l, rest) => pure (r.push (.look l), rest)
    | (.set s, rest) => pure (r.push (.set s), rest)
  | c => (r.flags.literal c false).map fun regex => (r.push regex, cs)

/-- Reads all that is left. Each round reads at least one character. -/
def readWithin : Nat → PatternReader → List Char → Outcome PatternReader
  | 0, r, _ => .ok r
  | fuel + 1, r, cs =>
    match r.flags.skip cs with
    | [] => .ok r
    | c :: rest => do
      let (r, rest) ← r.step c rest
      readWithin fuel r rest

end PatternReader

/-! ## 4. Whole patterns -/

/-- How deeply a pattern may be nested. -/
def nestingLimit : Nat := 250

/-- Reads a pattern with case ignored from the start. The setting counts as a part of the pattern. -/
def ofPattern (pattern : String) : Outcome Regex := do
  let start : PatternReader :=
    { flags := { ignoreCase := true }
      branches := { parts := [{ regex := .empty, repeatable := false }] } }
  let r ← start.readWithin (pattern.length + 1) pattern.toList
  if !r.groups.isEmpty then throw .unclosedGroup
  let whole := r.branches.toPiece
  if nestingLimit < whole.depth then throw .nestedTooDeeply
  pure whole.regex

end MediaIndex.Regex
