import MediaIndex.Text.Age
import MediaIndex.Text.ScriptExtension
import MediaIndex.Text.SentenceBreak
import MediaIndex.Text.SimpleFold

/-!
# Named classes of characters

The classes a pattern can ask for by name: the three short ones (digits, blanks, word characters), the
bracketed ones of ASCII, and properties of the character database.
-/

namespace MediaIndex.Regex

/-! ## 1. Short classes -/

/-- What a short class is about. -/
inductive ShortClass where
  | digit
  | space
  | word
deriving DecidableEq, Repr

/-- The characters of a short class. -/
def ShortClass.set : ShortClass → CodeSet
  | digit => Edition.earlier GeneralCategory.decimalNumber
  | space => NamedProperty.whiteSpace
  | word => NamedProperty.word

/-- The characters of a short class when only ASCII counts. -/
def ShortClass.asciiSet : ShortClass → CodeSet
  | digit => CodeSet.ofHex ["30-39"]
  | space => CodeSet.ofHex ["9-D 20"]
  | word => CodeSet.ofHex ["30-39 41-5A 5F 61-7A"]

/-! ## 2. Bracketed classes of ASCII -/

/-- The characters of a bracketed class. -/
def asciiClass? : String → Option CodeSet
  | "alnum" => some (CodeSet.ofHex ["30-39 41-5A 61-7A"])
  | "alpha" => some (CodeSet.ofHex ["41-5A 61-7A"])
  | "ascii" => some (CodeSet.ofHex ["0-7F"])
  | "blank" => some (CodeSet.ofHex ["9 20"])
  | "cntrl" => some (CodeSet.ofHex ["0-1F 7F"])
  | "digit" => some (CodeSet.ofHex ["30-39"])
  | "graph" => some (CodeSet.ofHex ["21-7E"])
  | "lower" => some (CodeSet.ofHex ["61-7A"])
  | "print" => some (CodeSet.ofHex ["20-7E"])
  | "punct" => some (CodeSet.ofHex ["21-2F 3A-40 5B-60 7B-7E"])
  | "space" => some (CodeSet.ofHex ["9-D 20"])
  | "upper" => some (CodeSet.ofHex ["41-5A"])
  | "word" => some (CodeSet.ofHex ["30-39 41-5A 5F 61-7A"])
  | "xdigit" => some (CodeSet.ofHex ["30-39 41-46 61-66"])
  | _ => none

/-! ## 3. Properties -/

/-- A property name without a leading `is`, blanks, hyphens, underscores and capitals. -/
def normalName (name : List Char) : String :=
  let lowered := name.map Char.toLower
  let (is, body) := match lowered with
    | 'i' :: 's' :: rest => (true, rest)
    | other => (false, other)
  let kept := body.filter fun c => c.toNat < 0x80 && c != ' ' && c != '-' && c != '_'
  if is && kept == ['c'] then "isc" else String.ofList kept

/-- The set that a list of named sets gives a name. -/
def findNamed (named : List (List String × CodeSet)) (name : String) : Option CodeSet :=
  (named.find? fun (names, _) => names.contains name).map (·.2)

/-- The code points of a general category, or of one of the classes above all categories. -/
def category? (name : String) : Option CodeSet :=
  match name with
  | "any" => some (CodeSet.range 0 CodeSet.lastCode)
  | "assigned" => some NamedCategory.unassigned.complement
  | "ascii" => some (CodeSet.range 0 0x7F)
  | _ => findNamed NamedCategory.named name

/-- The code points with a property that is asked for by one name. -/
def property? (name : List Char) : Option CodeSet :=
  let name := normalName name
  findNamed NamedProperty.named name <|> category? name <|> findNamed Script.named name

/-- The code points for which a property has a value. -/
def propertyValue? (name value : List Char) : Option CodeSet :=
  let value := normalName value
  match normalName name with
  | "generalcategory" | "gc" => category? value
  | "script" | "sc" => findNamed Script.named value
  | "scriptextensions" | "scx" => ScriptExtension.find? value
  | "age" => Age.find? value
  | "graphemeclusterbreak" | "gcb" => findNamed GraphemeBreak.named value
  | "wordbreak" | "wb" => findNamed WordBreak.named value
  | "sentencebreak" | "sb" => findNamed SentenceBreak.named value
  | _ => none

end MediaIndex.Regex
