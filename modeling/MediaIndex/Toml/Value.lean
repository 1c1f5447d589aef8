/-!
# TOML values

What a TOML document holds. A table remembers how it came to be there, for that decides whether more
may be put into it. Floating-point numbers, dates and times are told apart from everything else, but
which ones they are is not kept: this library has no use for them.
-/

namespace MediaIndex.Toml

/-- How a table came to be in a document. -/
inductive Origin where
  /-- It has a header of its own, or is the document itself. -/
  | header
  /-- It is on the way to a table that has a header. -/
  | implied
  /-- It is on the way to a key written with dots. -/
  | dotted
  /-- It was written between braces. -/
  | braces
deriving DecidableEq, Repr, Inhabited

/-- A value of a document. -/
inductive Value where
  | text (s : String)
  | integer (n : Int)
  | float
  | boolean (b : Bool)
  /-- A date, a time, or both. -/
  | moment
  /-- Values between brackets. -/
  | array (elements : List Value)
  | table (origin : Origin) (entries : List (String × Value))
  /-- Tables with one header of doubled brackets each. -/
  | tables (elements : List Value)
deriving Repr, Inhabited

/-- What a table holds, by key. -/
abbrev Entries := List (String × Value)

/-- A step of a document, in the order of the text. -/
inductive Statement where
  /-- A header: what follows goes into the table at the path. -/
  | header (path : List String)
  /-- A header of doubled brackets: what follows goes into a new table at the end of those at the
      path. -/
  | element (path : List String)
  /-- A key and its value. -/
  | assign (path : List String) (value : Value)
deriving Repr, Inhabited

end MediaIndex.Toml
