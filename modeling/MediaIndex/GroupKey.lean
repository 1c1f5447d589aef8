import Std.Data.ExtTreeMap
import Std.Data.ExtTreeSet
import MediaIndex.Text.Quoted

/-!
# Group keys

A group is known by the values its items have in each key column. The key is these values as one
text, with a separator that no value holds; keys are compared and listed as texts, code point by code
point, which is also the order of their bytes.
-/

namespace MediaIndex

/-! ## 1. Separators -/

/-- Stands between two values of one field. -/
def valueSeparator : Char := '\x1f'

/-- Stands between the values of two columns in a key. -/
def keySeparator : Char := '\x1e'

/-- The text without either separator. -/
def stripSeparators (cs : List Char) : List Char :=
  cs.filter fun c => c != valueSeparator && c != keySeparator

/-! ## 2. Keys -/

/-- The key of a group. -/
structure GroupKey where
  text : String
deriving DecidableEq, Repr, Inhabited

/-- Keys are listed as their texts are. -/
instance : Ord GroupKey := ⟨compareOn GroupKey.text⟩

instance : Std.TransOrd GroupKey := inferInstanceAs (Std.TransCmp (compareOn GroupKey.text))

instance : Std.LawfulEqOrd GroupKey where
  eq_of_compare {a b} h := by
    have : a.text = b.text := Std.LawfulEqOrd.eq_of_compare (α := String) h
    cases a; cases b; cases this; rfl

/-- A set of keys, listed in ascending order. -/
abbrev KeySet := Std.ExtTreeSet GroupKey

namespace GroupKey

/-- The key of some column values, one for each column. -/
def compose (values : List String) : GroupKey :=
  ⟨(String.singleton keySeparator).intercalate values⟩

/-- A key for reading: a spaced slash between two values. -/
def shown (key : GroupKey) : String :=
  String.ofList (key.text.toList.flatMap fun c =>
    if c = keySeparator then [' ', '/', ' '] else [c])

/-- A key written out in full. -/
def describe (key : GroupKey) : String := "GroupKey(" ++ Quoted.encode key.text ++ ")"

end GroupKey

end MediaIndex
