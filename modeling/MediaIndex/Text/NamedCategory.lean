import MediaIndex.Text.Edition
import MediaIndex.Text.GeneralCategory

/-!
# Categories that are asked for by name

The general categories as a pattern can ask for them, that is in the earlier edition of the character
database: those that are not simply the newest ones without the newcomers (section 1), and all of them
with their names (section 2). The category of surrogates has no name here, for no character has it.
-/

namespace MediaIndex.NamedCategory

open Edition (earlier)

/-! ## 1. Categories that have changed -/

/-- Lowercase letters. -/
def lowercaseLetter : CodeSet := (earlier GeneralCategory.lowercaseLetter).union Edition.caseLost

/-- Letters without case. -/
def otherLetter : CodeSet := (earlier GeneralCategory.otherLetter).diff Edition.caseLost

/-- Letters that have case. -/
def casedLetter : CodeSet := (earlier GeneralCategory.casedLetter).union Edition.caseLost

/-- All letters. -/
def letter : CodeSet := earlier GeneralCategory.letter

/-- Code points with no character. -/
def unassigned : CodeSet := GeneralCategory.unassigned.union Edition.newcomers

/-- Control, format, private and unassigned code points. -/
def other : CodeSet :=
  CodeSet.unions [GeneralCategory.control, GeneralCategory.format, GeneralCategory.privateUse,
    unassigned]

/-! ## 2. Names -/

/-- Every category and class with the names it goes by, spelled without blanks, hyphens, underscores
    and capitals. -/
def named : List (List String × CodeSet) := [
  (["lu", "uppercaseletter"], earlier GeneralCategory.uppercaseLetter),
  (["ll", "lowercaseletter"], lowercaseLetter),
  (["lt", "titlecaseletter"], earlier GeneralCategory.titlecaseLetter),
  (["lm", "modifierletter"], earlier GeneralCategory.modifierLetter),
  (["lo", "otherletter"], otherLetter),
  (["mn", "nonspacingmark"], earlier GeneralCategory.nonspacingMark),
  (["mc", "spacingmark"], earlier GeneralCategory.spacingMark),
  (["me", "enclosingmark"], earlier GeneralCategory.enclosingMark),
  (["nd", "decimalnumber", "digit"], earlier GeneralCategory.decimalNumber),
  (["nl", "letternumber"], earlier GeneralCategory.letterNumber),
  (["no", "othernumber"], earlier GeneralCategory.otherNumber),
  (["pc", "connectorpunctuation"], earlier GeneralCategory.connectorPunctuation),
  (["pd", "dashpunctuation"], earlier GeneralCategory.dashPunctuation),
  (["ps", "openpunctuation"], earlier GeneralCategory.openPunctuation),
  (["pe", "closepunctuation"], earlier GeneralCategory.closePunctuation),
  (["pi", "initialpunctuation"], earlier GeneralCategory.initialPunctuation),
  (["pf", "finalpunctuation"], earlier GeneralCategory.finalPunctuation),
  (["po", "otherpunctuation"], earlier GeneralCategory.otherPunctuation),
  (["sm", "mathsymbol"], earlier GeneralCategory.mathSymbol),
  (["sc", "currencysymbol"], earlier GeneralCategory.currencySymbol),
  (["sk", "modifiersymbol"], earlier GeneralCategory.modifierSymbol),
  (["so", "othersymbol"], earlier GeneralCategory.otherSymbol),
  (["zs", "spaceseparator"], earlier GeneralCategory.spaceSeparator),
  (["zl", "lineseparator"], earlier GeneralCategory.lineSeparator),
  (["zp", "paragraphseparator"], earlier GeneralCategory.paragraphSeparator),
  (["cc", "control", "cntrl"], earlier GeneralCategory.control),
  (["cf", "format"], earlier GeneralCategory.format),
  (["co", "privateuse"], earlier GeneralCategory.privateUse),
  (["cn", "unassigned"], unassigned),
  (["lc", "casedletter"], casedLetter),
  (["l", "letter"], letter),
  (["m", "mark", "combiningmark"], earlier GeneralCategory.mark),
  (["n", "number"], earlier GeneralCategory.number),
  (["p", "punctuation", "punct"], earlier GeneralCategory.punctuation),
  (["s", "symbol"], earlier GeneralCategory.symbol),
  (["z", "separator"], earlier GeneralCategory.separator),
  (["c", "other"], other)]

end MediaIndex.NamedCategory
