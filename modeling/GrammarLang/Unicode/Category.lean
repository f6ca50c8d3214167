import GrammarLang.Unicode.CategoryTable
import GrammarLang.Unicode.CodeSet

/-! # General categories

The sets of characters that a general category, or a group of them, stands for, and the names they
go by. **`category? name`** looks a name up; names are compared in the reduced form of
`GrammarLang.Unicode.reducedName`. -/

namespace GrammarLang.Unicode

namespace Category

open CategoryTable

/-- Letters that occur in two cases. -/
def casedLetter : CodeSet :=
  .unions [.ranges lowercaseLetter, .ranges uppercaseLetter, .ranges titlecaseLetter]

/-- Letters of every kind. -/
def letter : CodeSet := .unions [casedLetter, .ranges otherLetter, .ranges modifierLetter]

/-- Marks that combine with the character before them. -/
def mark : CodeSet := .unions [.ranges nonspacingMark, .ranges spacingMark, .ranges enclosingMark]

/-- Numeric characters. -/
def number : CodeSet := .unions [.ranges decimalNumber, .ranges letterNumber, .ranges otherNumber]

/-- Punctuation of every kind. -/
def punctuation : CodeSet :=
  .unions [.ranges otherPunctuation, .ranges connectorPunctuation, .ranges dashPunctuation,
    .ranges openPunctuation, .ranges closePunctuation, .ranges initialPunctuation,
    .ranges finalPunctuation]

/-- Symbols of every kind. -/
def symbol : CodeSet :=
  .unions [.ranges mathSymbol, .ranges currencySymbol, .ranges modifierSymbol, .ranges otherSymbol]

/-- Characters that separate words, lines or paragraphs. -/
def separator : CodeSet :=
  .unions [.ranges spaceSeparator, .ranges lineSeparator, .ranges paragraphSeparator]

/-- The characters with a meaning or image of their own, blanks among them. -/
def assignedText : CodeSet := .unions [letter, mark, number, punctuation, symbol, separator]

/-- Codes without a character of any category. -/
def unassigned : CodeSet :=
  .compl (.unions [assignedText, .ranges control, .ranges format, .ranges privateUse])

/-- Controls, invisible formatting, private use and codes without a character. -/
def other : CodeSet := .compl assignedText

/-- Every category and group of categories, with the reduced names it goes by. -/
def named : List (List String × CodeSet) :=
  [(["any"], .interval 0 0x10FFFF), (["ascii"], .interval 0 0x7F), (["assigned"], unassigned.compl),
   (["l", "letter"], letter), (["lc", "casedletter"], casedLetter),
   (["lu", "uppercaseletter"], .ranges uppercaseLetter),
   (["ll", "lowercaseletter"], .ranges lowercaseLetter),
   (["lt", "titlecaseletter"], .ranges titlecaseLetter),
   (["lm", "modifierletter"], .ranges modifierLetter),
   (["lo", "otherletter"], .ranges otherLetter),
   (["m", "mark", "combiningmark"], mark), (["mn", "nonspacingmark"], .ranges nonspacingMark),
   (["mc", "spacingmark"], .ranges spacingMark), (["me", "enclosingmark"], .ranges enclosingMark),
   (["n", "number"], number), (["nd", "decimalnumber", "digit"], .ranges decimalNumber),
   (["nl", "letternumber"], .ranges letterNumber), (["no", "othernumber"], .ranges otherNumber),
   (["p", "punctuation", "punct"], punctuation),
   (["pc", "connectorpunctuation"], .ranges connectorPunctuation),
   (["pd", "dashpunctuation"], .ranges dashPunctuation),
   (["ps", "openpunctuation"], .ranges openPunctuation),
   (["pe", "closepunctuation"], .ranges closePunctuation),
   (["pi", "initialpunctuation"], .ranges initialPunctuation),
   (["pf", "finalpunctuation"], .ranges finalPunctuation),
   (["po", "otherpunctuation"], .ranges otherPunctuation),
   (["s", "symbol"], symbol), (["sm", "mathsymbol"], .ranges mathSymbol),
   (["sc", "currencysymbol"], .ranges currencySymbol),
   (["sk", "modifiersymbol"], .ranges modifierSymbol), (["so", "othersymbol"], .ranges otherSymbol),
   (["z", "separator"], separator), (["zs", "spaceseparator"], .ranges spaceSeparator),
   (["zl", "lineseparator"], .ranges lineSeparator),
   (["zp", "paragraphseparator"], .ranges paragraphSeparator),
   (["c", "other"], other), (["cc", "control", "cntrl"], .ranges control),
   (["cf", "format"], .ranges format), (["co", "privateuse"], .ranges privateUse),
   (["cn", "unassigned"], unassigned)]

end Category

/-- Whether a character is a control character. -/
def isControl (c : Char) : Bool := CategoryTable.control.contains c.toNat

/-- The set of codes of a category, by its reduced name. -/
def category? (name : String) : Option CodeSet := CodeSet.named? Category.named name

end GrammarLang.Unicode
