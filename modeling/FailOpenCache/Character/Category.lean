/-!
# General categories

Every code point belongs to one general category, which has a code of two letters; the first
letter is shared by related categories. A group of categories goes by names of lower-case letters
alone. No character is a surrogate, so that category has no name here.
-/

namespace FailOpenCache

/-- The general category of a code point. -/
inductive Category where
  /-- An upper-case letter. -/
  | uppercaseLetter
  /-- A lower-case letter. -/
  | lowercaseLetter
  /-- A digraph with an upper-case first part. -/
  | titlecaseLetter
  /-- A letter that modifies another. -/
  | modifierLetter
  /-- Any other letter. -/
  | otherLetter
  /-- A mark that takes no room. -/
  | nonspacingMark
  /-- A mark that takes room. -/
  | spacingMark
  /-- A mark around a character. -/
  | enclosingMark
  /-- A decimal digit. -/
  | decimalNumber
  /-- A letter that is a number. -/
  | letterNumber
  /-- Any other number. -/
  | otherNumber
  /-- A connecting mark. -/
  | connectorPunctuation
  /-- A dash. -/
  | dashPunctuation
  /-- An opening bracket. -/
  | openPunctuation
  /-- A closing bracket. -/
  | closePunctuation
  /-- An opening quotation mark. -/
  | initialPunctuation
  /-- A closing quotation mark. -/
  | finalPunctuation
  /-- Any other punctuation. -/
  | otherPunctuation
  /-- A mathematical symbol. -/
  | mathSymbol
  /-- A currency sign. -/
  | currencySymbol
  /-- A symbol that modifies another. -/
  | modifierSymbol
  /-- Any other symbol. -/
  | otherSymbol
  /-- A space. -/
  | spaceSeparator
  /-- A separator of lines. -/
  | lineSeparator
  /-- A separator of paragraphs. -/
  | paragraphSeparator
  /-- A control character. -/
  | control
  /-- A format character. -/
  | format
  /-- Half of a code point in another encoding. -/
  | surrogate
  /-- A code point left to private use. -/
  | privateUse
  /-- A code point without a character. -/
  | unassigned
deriving DecidableEq

namespace Category

/-- The code of a category. -/
def code : Category → String
  | uppercaseLetter => "Lu"
  | lowercaseLetter => "Ll"
  | titlecaseLetter => "Lt"
  | modifierLetter => "Lm"
  | otherLetter => "Lo"
  | nonspacingMark => "Mn"
  | spacingMark => "Mc"
  | enclosingMark => "Me"
  | decimalNumber => "Nd"
  | letterNumber => "Nl"
  | otherNumber => "No"
  | connectorPunctuation => "Pc"
  | dashPunctuation => "Pd"
  | openPunctuation => "Ps"
  | closePunctuation => "Pe"
  | initialPunctuation => "Pi"
  | finalPunctuation => "Pf"
  | otherPunctuation => "Po"
  | mathSymbol => "Sm"
  | currencySymbol => "Sc"
  | modifierSymbol => "Sk"
  | otherSymbol => "So"
  | spaceSeparator => "Zs"
  | lineSeparator => "Zl"
  | paragraphSeparator => "Zp"
  | control => "Cc"
  | format => "Cf"
  | surrogate => "Cs"
  | privateUse => "Co"
  | unassigned => "Cn"

/-- Every category. -/
def all : List Category :=
  [uppercaseLetter, lowercaseLetter, titlecaseLetter, modifierLetter, otherLetter,
    nonspacingMark, spacingMark, enclosingMark, decimalNumber, letterNumber, otherNumber,
    connectorPunctuation, dashPunctuation, openPunctuation, closePunctuation,
    initialPunctuation, finalPunctuation, otherPunctuation, mathSymbol, currencySymbol,
    modifierSymbol, otherSymbol, spaceSeparator, lineSeparator, paragraphSeparator, control,
    format, surrogate, privateUse, unassigned]

/-- The category of a code. -/
def ofCode? (code : String) : Option Category :=
  all.find? fun category => category.code == code

/-- The letters. -/
def letters : List Category :=
  [uppercaseLetter, lowercaseLetter, titlecaseLetter, modifierLetter, otherLetter]

/-- The marks. -/
def marks : List Category := [nonspacingMark, spacingMark, enclosingMark]

/-- The numbers. -/
def numbers : List Category := [decimalNumber, letterNumber, otherNumber]

/-- The punctuation. -/
def punctuation : List Category :=
  [connectorPunctuation, dashPunctuation, openPunctuation, closePunctuation, initialPunctuation,
    finalPunctuation, otherPunctuation]

/-- The symbols. -/
def symbols : List Category := [mathSymbol, currencySymbol, modifierSymbol, otherSymbol]

/-- The separators. -/
def separators : List Category := [spaceSeparator, lineSeparator, paragraphSeparator]

/-- The categories of code points that stand for no visible character. -/
def others : List Category := [control, format, surrogate, privateUse, unassigned]

/-- The groups of categories with the names that they go by. -/
def groups : List (List String × List Category) :=
  [(["any"], all),
    (["assigned"], all.erase unassigned),
    (["l", "letter"], letters),
    (["lc", "casedletter"], [uppercaseLetter, lowercaseLetter, titlecaseLetter]),
    (["m", "mark", "combiningmark"], marks),
    (["n", "number"], numbers),
    (["p", "punctuation", "punct"], punctuation),
    (["s", "symbol"], symbols),
    (["z", "separator"], separators),
    (["c", "other"], others),
    (["lu", "uppercaseletter"], [uppercaseLetter]),
    (["ll", "lowercaseletter"], [lowercaseLetter]),
    (["lt", "titlecaseletter"], [titlecaseLetter]),
    (["lm", "modifierletter"], [modifierLetter]),
    (["lo", "otherletter"], [otherLetter]),
    (["mn", "nonspacingmark"], [nonspacingMark]),
    (["mc", "spacingmark"], [spacingMark]),
    (["me", "enclosingmark"], [enclosingMark]),
    (["nd", "decimalnumber", "digit"], [decimalNumber]),
    (["nl", "letternumber"], [letterNumber]),
    (["no", "othernumber"], [otherNumber]),
    (["pc", "connectorpunctuation"], [connectorPunctuation]),
    (["pd", "dashpunctuation"], [dashPunctuation]),
    (["ps", "openpunctuation"], [openPunctuation]),
    (["pe", "closepunctuation"], [closePunctuation]),
    (["pi", "initialpunctuation"], [initialPunctuation]),
    (["pf", "finalpunctuation"], [finalPunctuation]),
    (["po", "otherpunctuation"], [otherPunctuation]),
    (["sm", "mathsymbol"], [mathSymbol]),
    (["sc", "currencysymbol"], [currencySymbol]),
    (["sk", "modifiersymbol"], [modifierSymbol]),
    (["so", "othersymbol"], [otherSymbol]),
    (["zs", "spaceseparator"], [spaceSeparator]),
    (["zl", "lineseparator"], [lineSeparator]),
    (["zp", "paragraphseparator"], [paragraphSeparator]),
    (["cc", "control", "cntrl"], [control]),
    (["cf", "format"], [format]),
    (["co", "privateuse"], [privateUse]),
    (["cn", "unassigned"], [unassigned])]

/-- The categories that go by a name. -/
def named? (name : String) : Option (List Category) :=
  (groups.find? fun group => group.1.contains name).map Prod.snd

end Category

end FailOpenCache
