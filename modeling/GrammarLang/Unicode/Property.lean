import GrammarLang.Unicode.Category
import GrammarLang.Unicode.PropertyTable

/-! # Properties that say yes or no

The sets of characters that have a property, put together from general categories and from the
tables of `GrammarLang.Unicode.PropertyTable`. **`Property.yesNo?`** looks one up by its reduced
name; **`isWord`** is the property of the characters that words are made of. -/

namespace GrammarLang.Unicode

namespace Property

open CategoryTable PropertyTable

/-- Characters in lowercase. -/
def lowercase : CodeSet := .unions [.ranges lowercaseLetter, .ranges otherLowercase]

/-- Characters in uppercase. -/
def uppercase : CodeSet := .unions [.ranges uppercaseLetter, .ranges otherUppercase]

/-- Characters with a case. -/
def cased : CodeSet := .unions [lowercase, uppercase, .ranges titlecaseLetter]

/-- Characters that words are spelled with. -/
def alphabetic : CodeSet :=
  .unions [lowercase, uppercase, .ranges otherLetter, .ranges titlecaseLetter,
    .ranges modifierLetter, .ranges letterNumber, .ranges otherAlphabetic]

/-- Characters that extend the one before them. -/
def graphemeExtend : CodeSet :=
  .unions [.ranges nonspacingMark, .ranges enclosingMark, .ranges otherGraphemeExtend]

/-- Characters that stand on their own. -/
def graphemeBase : CodeSet :=
  .diff Category.assignedText
    (.unions [.ranges lineSeparator, .ranges paragraphSeparator, graphemeExtend])

/-- Characters of mathematical texts. -/
def math : CodeSet := .union (.ranges mathSymbol) (.ranges otherMath)

/-- Characters that start identifiers. -/
def identifierStart : CodeSet :=
  .diff (.unions [Category.letter, .ranges letterNumber, .ranges otherIdentifierStart])
    (.ranges noIdentifierStart)

/-- Characters that continue identifiers. -/
def identifierContinue : CodeSet :=
  .unions [identifierStart, .ranges nonspacingMark, .ranges spacingMark, .ranges decimalNumber,
    .ranges connectorPunctuation, .ranges otherIdentifierContinue]

/-- Characters that case mapping passes over. -/
def caseIgnorable : CodeSet :=
  .unions [.ranges nonspacingMark, .ranges enclosingMark, .ranges format, .ranges modifierLetter,
    .ranges modifierSymbol, .ranges otherCaseIgnorable]

/-- Characters with another lowercase form. -/
def lowercased : CodeSet :=
  .diff (.union uppercase (.ranges titlecaseLetter)) (.ranges withoutLowercase)

/-- Characters with another uppercase form. -/
def uppercased : CodeSet :=
  .union (.diff lowercase (.ranges withoutUppercase)) (.ranges withUppercase)

/-- Characters with another form at the start of a word. -/
def titlecased : CodeSet :=
  .union (.diff uppercased (.ranges withoutTitlecase)) (.ranges withTitlecase)

/-- Characters that folding changes. -/
def folded : CodeSet := .union (.diff lowercased (.ranges notFolded)) (.ranges foldedOnly)

/-- Characters of words: alphabetic ones, marks, digits, and what joins them. -/
def word : CodeSet :=
  .unions [alphabetic, Category.mark, .ranges decimalNumber, .ranges connectorPunctuation,
    .ranges joinControl]

/-- The properties that are put together from others, with their reduced names. -/
def derived : List (List String × CodeSet) :=
  [(["alphabetic", "alpha"], alphabetic), (["lowercase", "lower"], lowercase),
   (["uppercase", "upper"], uppercase), (["cased"], cased), (["math"], math),
   (["caseignorable", "ci"], caseIgnorable), (["graphemeextend", "grext"], graphemeExtend),
   (["graphemebase", "grbase"], graphemeBase), (["idstart", "ids"], identifierStart),
   (["idcontinue", "idc"], identifierContinue),
   (["xidstart", "xids"], .diff identifierStart (.ranges noNormalizedIdentifierStart)),
   (["xidcontinue", "xidc"], .diff identifierContinue (.ranges noNormalizedIdentifierContinue)),
   (["changeswhenlowercased", "cwl"], lowercased), (["changeswhenuppercased", "cwu"], uppercased),
   (["changeswhentitlecased", "cwt"], titlecased), (["changeswhencasefolded", "cwcf"], folded),
   (["changeswhencasemapped", "cwcm"], .unions [lowercased, uppercased, titlecased])]

/-- The properties that are listed, each as the set of its ranges, with their reduced names. -/
def listedSets : List (List String × CodeSet) :=
  listed.map fun (names, table) => (names, .ranges table)

/-- The set of a property that says yes or no of a character, by its reduced name. -/
def yesNo? (name : String) : Option CodeSet := CodeSet.named? (derived ++ listedSets) name

end Property

/-- Whether a character belongs to a word. -/
def isWord (c : Char) : Bool := Property.word.contains c.toNat

end GrammarLang.Unicode
