import MediaIndex.Error
import MediaIndex.Glob
import MediaIndex.Index.Lookup
import MediaIndex.Regex.Pattern
import MediaIndex.Text.CaseMapping

/-!
# Queries

A query keeps some of the group nodes: those in which some visible column shows a value that its
matcher accepts, and that meet its filters. A column filter restricts the matcher to one column, the
first of that name; the first such filter counts.

* `NodeQuery.matches` decides on one node, `Index.filter` lists the nodes a query keeps;
* `NodeQuery.keepsAll` tells a query that keeps every node without looking at one.
-/

namespace MediaIndex

/-! ## 1. Matchers -/

/-- What a value is held against; texts are held in lowercase. -/
inductive Matcher where
  /-- The value contains the text, case ignored. -/
  | substring (lowered : String)
  /-- The value is the text, case ignored. -/
  | exact (lowered : String)
  /-- Some stretch of the value matches the expression. -/
  | pattern (r : Regex)
deriving DecidableEq, Repr, Inhabited

namespace Matcher

/-- The matcher accepts a value. -/
def accepts (m : Matcher) (value : String) : Bool :=
  match m with
  | substring lowered => occursIn lowered.toList (lowercase value).toList
  | exact lowered => lowercase value == lowered
  | pattern r => r.isMatch value.toList

/-- The matcher accepts every value, whatever it is. -/
def acceptsAll : Matcher → Bool
  | substring lowered => lowered.isEmpty
  | _ => false

end Matcher

/-! ## 2. Filters -/

/-- What a node must meet besides. -/
inductive NodeFilter where
  /-- The matcher is held against the column with this field only. -/
  | column (field : String)
  /-- The node has at least so many members. -/
  | minMembers (n : Nat)
  /-- The node has at most so many members. -/
  | maxMembers (n : Nat)
deriving DecidableEq, Repr, Inhabited

namespace NodeFilter

/-- The node meets the filter; a column filter is no matter of the node alone. -/
def accepts (f : NodeFilter) (node : GroupNode) : Bool :=
  match f with
  | column _ => true
  | minMembers n => decide (n ≤ node.memberCount)
  | maxMembers n => decide (node.memberCount ≤ n)

/-- The field of a column filter. -/
def field? : NodeFilter → Option String
  | column field => some field
  | _ => none

/-- A filter written out in full. -/
def describe : NodeFilter → String
  | column field => "Column(" ++ Quoted.encode field ++ ")"
  | minMembers n => s!"MinMembers({n})"
  | maxMembers n => s!"MaxMembers({n})"

end NodeFilter

/-! ## 3. Queries -/

/-- A matcher with filters. -/
structure NodeQuery where
  matcher : Matcher
  filters : List NodeFilter := []
deriving DecidableEq, Repr, Inhabited

namespace NodeQuery

/-- Keeps nodes with a value that contains a text. -/
def substring (text : String) : NodeQuery := { matcher := .substring (lowercase text) }

/-- Keeps nodes with a value that is a text. -/
def exact (text : String) : NodeQuery := { matcher := .exact (lowercase text) }

/-- Keeps nodes with a value that a glob pattern accepts. -/
def wildcard (pattern : String) : NodeQuery :=
  { matcher := .pattern (Glob.toRegex pattern.toList) }

/-- Keeps nodes with a value of which some stretch matches a regular expression. -/
def regex (pattern : String) : Except IndexError NodeQuery :=
  match Regex.ofPattern pattern with
  | .ok r => .ok { matcher := .pattern r }
  | .error _ => .error (.invalidPattern pattern "regex parse error:")

/-- The query with one more filter. -/
def withFilter (q : NodeQuery) (f : NodeFilter) : NodeQuery := { q with filters := q.filters ++ [f] }

/-- The field of the first column filter. -/
def restriction (q : NodeQuery) : Option String := q.filters.findSome? NodeFilter.field?

/-- Some value that counts is accepted. -/
def acceptsValue (q : NodeQuery) (node : GroupNode) (columns : List Column) : Bool :=
  match q.restriction with
  | some field =>
    match columns.findIdx? fun c => equalIgnoringAsciiCase c.field field with
    | some i => q.matcher.accepts (node.column i)
    | none => false
  | none => (List.range (max node.display.length 1)).any fun i => q.matcher.accepts (node.column i)

/-- The query keeps a node that shows the given columns. -/
def «matches» (q : NodeQuery) (node : GroupNode) (columns : List Column) : Bool :=
  q.filters.all (·.accepts node) && q.acceptsValue node columns

/-- The query keeps every node. -/
def keepsAll (q : NodeQuery) : Bool := q.matcher.acceptsAll && q.filters.isEmpty

/-- A query written out in brief. -/
def describe (q : NodeQuery) : String :=
  Quoted.record "NodeQuery" [("filters", Quoted.list (q.filters.map NodeFilter.describe))]

end NodeQuery

/-- The nodes a query keeps, in row order. -/
def Index.filter (ix : Index) (q : NodeQuery) : List GroupNode :=
  ix.nodes.filter fun node => q.matches node ix.layout.columns

end MediaIndex
