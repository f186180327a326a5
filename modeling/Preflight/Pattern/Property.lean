import Preflight.Pattern.CharClass

/-!
# Names of properties

The properties of characters have names, which may be spelt in any case and
with spaces, hyphens and underscores in them. The general categories may be
named by their kind, too.
-/

namespace Preflight.Pattern

namespace Property

/-- A name without what does not count in it: case, spaces, hyphens and
underscores. -/
def withoutStyle (name : List Char) : List Char :=
  (name.filter fun c => c ≠ ' ' && c ≠ '-' && c ≠ '_' && c.toNat < 128).map
    Char.toLower

/-- The simple form of a name, which does not have `is` in front either. Only
`isc` is a name of its own. -/
def simplifyName (name : List Char) : List Char :=
  if (name.take 2).map Char.toLower = ['i', 's'] then
    let rest := withoutStyle (name.drop 2)
    if rest = ['c'] then ['i', 's', 'c'] else rest
  else withoutStyle name

/-- The names of sets of general categories. -/
def categoryNames : List (List String × List Text.Category) :=
  [(["lu", "uppercaseletter"], [.uppercaseLetter]),
    (["ll", "lowercaseletter"], [.lowercaseLetter]),
    (["lt", "titlecaseletter"], [.titlecaseLetter]),
    (["lm", "modifierletter"], [.modifierLetter]),
    (["lo", "otherletter"], [.otherLetter]),
    (["l", "letter"], Text.Category.letters),
    (["lc", "casedletter"], Text.Category.casedLetters),
    (["mn", "nonspacingmark"], [.nonspacingMark]),
    (["mc", "spacingmark"], [.spacingMark]),
    (["me", "enclosingmark"], [.enclosingMark]),
    (["m", "mark", "combiningmark"], Text.Category.marks),
    (["nd", "decimalnumber", "digit"], [.decimalNumber]),
    (["nl", "letternumber"], [.letterNumber]),
    (["no", "othernumber"], [.otherNumber]),
    (["n", "number"], Text.Category.numbers),
    (["pc", "connectorpunctuation"], [.connectorPunctuation]),
    (["pd", "dashpunctuation"], [.dashPunctuation]),
    (["ps", "openpunctuation"], [.openPunctuation]),
    (["pe", "closepunctuation"], [.closePunctuation]),
    (["pi", "initialpunctuation"], [.initialPunctuation]),
    (["pf", "finalpunctuation"], [.finalPunctuation]),
    (["po", "otherpunctuation"], [.otherPunctuation]),
    (["p", "punctuation", "punct"], Text.Category.punctuation),
    (["sm", "mathsymbol"], [.mathSymbol]),
    (["sc", "currencysymbol"], [.currencySymbol]),
    (["sk", "modifiersymbol"], [.modifierSymbol]),
    (["so", "othersymbol"], [.otherSymbol]),
    (["s", "symbol"], Text.Category.signs),
    (["zs", "spaceseparator"], [.spaceSeparator]),
    (["zl", "lineseparator"], [.lineSeparator]),
    (["zp", "paragraphseparator"], [.paragraphSeparator]),
    (["z", "separator"], Text.Category.separators),
    (["cc", "control", "cntrl"], [.control]),
    (["cf", "format"], [.format]),
    (["cs", "surrogate"], [.surrogate]),
    (["co", "privateuse"], [.privateUse]),
    (["cn", "unassigned"], [.unassigned]),
    (["c", "other"], Text.Category.others)]

/-- The class of the general categories with a simplified name. -/
def categoryNamed? (name : List Char) : Option CharClass :=
  match String.ofList name with
  | "any" => some .everything
  | "ascii" => some (.range '\x00' '\x7f')
  | "assigned" => some (.complement (.having (.category [.unassigned])))
  | text =>
      (categoryNames.find? fun entry => entry.1.contains text).map
        fun entry => .having (.category entry.2)

def named? (name : List Char) : Option CharClass :=
  match String.ofList name with
  | "alphabetic" | "alpha" => some (.having .alphabetic)
  | "lowercase" | "lower" => some (.having .lowercase)
  | "uppercase" | "upper" => some (.having .uppercase)
  | "whitespace" | "wspace" | "space" => some (.having .space)
  | _ => categoryNamed? name

/-- Whether a simplified name is the one of the general category itself. -/
def isCategoryName (name : List Char) : Bool :=
  ["generalcategory", "gc"].contains (String.ofList name)

end Property

end Preflight.Pattern
