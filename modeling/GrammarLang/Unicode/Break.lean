import GrammarLang.Unicode.Property
import GrammarLang.Unicode.ScriptTable

/-! # Where texts break

Texts break into the clusters that readers take for one character, into words and into sentences.
Which characters keep together is said by three properties, each of which gives a character one
value: **`clusterPart?`**, **`wordPart?`** and **`sentencePart?`** look the set of a value up by its
reduced name. -/

namespace GrammarLang.Unicode

namespace Break

open CategoryTable PropertyTable

/-- The joiner, which keeps the characters beside it together. -/
def joiner : CodeSet := .single 0x200D

/-- The carriage return. -/
def carriageReturn : CodeSet := .single 0xD

/-- The line feed. -/
def lineFeed : CodeSet := .single 0xA

/-! ## Clusters -/

/-- What goes on with the cluster before it. -/
def clusterExtend : CodeSet := .union Property.graphemeExtend (.ranges emojiModifier)

/-- What goes on with the cluster behind it. -/
def clusterPrepend : CodeSet :=
  .union (.ranges prependedConcatenationMark)
    (.ranges [(0xD4E, 0xD4E), (0x111C2, 0x111C3), (0x113D1, 0x113D1), (0x1193F, 0x1193F),
      (0x11941, 0x11941), (0x11A3A, 0x11A3A), (0x11A84, 0x11A89), (0x11D46, 0x11D46),
      (0x11F02, 0x11F02)])

/-- What stands alone, as it has no image. -/
def clusterControl : CodeSet :=
  .diff
    (.unions [.ranges lineSeparator, .ranges paragraphSeparator, .ranges control, .ranges format,
      .inter Category.unassigned (.ranges defaultIgnorableCodePoint)])
    (.unions [carriageReturn, lineFeed, joiner, .ranges prependedConcatenationMark, clusterExtend])

/-- Marks that take up space and go on with the cluster before them. -/
def clusterSpacing : CodeSet :=
  .diff (.union (.ranges spacingMark) (.ranges [(0xE33, 0xE33), (0xEB3, 0xEB3)]))
    (.union clusterExtend
      (.ranges [(0x102B, 0x102C), (0x1038, 0x1038), (0x1062, 0x1064), (0x1067, 0x106D),
        (0x1083, 0x1083), (0x1087, 0x108C), (0x108F, 0x108F), (0x109A, 0x109C), (0x1A61, 0x1A61),
        (0x1A63, 0x1A64), (0xAA7B, 0xAA7B), (0xAA7D, 0xAA7D), (0x11720, 0x11721)]))

/-- The syllables of a leading consonant and a vowel: every twenty-eighth of all syllables. -/
def openSyllable : CodeSet :=
  .ranges ((List.range 399).map fun index => (0xAC00 + 28 * index, 0xAC00 + 28 * index))

/-- The values that say how clusters break, with their reduced names. -/
def clusterParts : List (List String × CodeSet) :=
  [(["cr"], carriageReturn), (["lf"], lineFeed), (["control", "cn"], clusterControl),
   (["extend", "ex"], clusterExtend), (["zwj"], joiner),
   (["regionalindicator", "ri"], .ranges regionalIndicator),
   (["prepend", "pp"], clusterPrepend), (["spacingmark", "sm"], clusterSpacing),
   (["l"], .ranges [(0x1100, 0x115F), (0xA960, 0xA97C)]),
   (["v"], .ranges [(0x1160, 0x11A7), (0xD7B0, 0xD7C6), (0x16D63, 0x16D63), (0x16D67, 0x16D6A)]),
   (["t"], .ranges [(0x11A8, 0x11FF), (0xD7CB, 0xD7FB)]),
   (["lv"], openSyllable), (["lvt"], .diff (.interval 0xAC00 0xD7A3) openSyllable)]

/-! ## Words -/

/-- What goes on with the word before it. -/
def wordExtend : CodeSet :=
  .unions [Property.graphemeExtend, .ranges spacingMark, .ranges emojiModifier]

/-- Formatting characters that words pass over. -/
def wordFormat : CodeSet :=
  .diff (.ranges format)
    (.unions [.interval 0x200B 0x200D, .ranges prependedConcatenationMark, wordExtend])

/-- Signs that are written in front of a number. -/
def numberSign : CodeSet :=
  .ranges [(0x600, 0x605), (0x6DD, 0x6DD), (0x890, 0x891), (0x8E2, 0x8E2), (0x110BD, 0x110BD),
    (0x110CD, 0x110CD)]

/-- Digits, and the signs that belong to a number. -/
def wordNumeric : CodeSet :=
  .unions [.ranges decimalNumber, numberSign, .ranges [(0x66B, 0x66B), (0x19DA, 0x19DA)]]

/-- Katakana syllables and the marks written with them. -/
def wordKatakana : CodeSet :=
  .union (.ranges ScriptTable.katakana.ranges)
    (.ranges [(0x3031, 0x3035), (0x309B, 0x309C), (0x30A0, 0x30A0), (0x30FC, 0x30FC),
      (0xFF70, 0xFF70)])

/-- Hebrew letters. -/
def wordHebrew : CodeSet := .inter (.ranges ScriptTable.hebrew.ranges) (.ranges otherLetter)

/-- Letters of scripts that are written without spaces between words. -/
def spacelessLetter : CodeSet :=
  .ranges
    [(0xE01, 0xE30), (0xE32, 0xE33), (0xE40, 0xE46), (0xE81, 0xE82), (0xE84, 0xE84),
     (0xE86, 0xE8A), (0xE8C, 0xEA3), (0xEA5, 0xEA5), (0xEA7, 0xEB0), (0xEB2, 0xEB3),
     (0xEBD, 0xEBD), (0xEC0, 0xEC4), (0xEC6, 0xEC6), (0xEDC, 0xEDF), (0x1000, 0x102A),
     (0x103F, 0x103F), (0x1050, 0x1055), (0x105A, 0x105D), (0x1061, 0x1061), (0x1065, 0x1066),
     (0x106E, 0x1070), (0x1075, 0x1081), (0x108E, 0x108E), (0x1780, 0x17B3), (0x17D7, 0x17D7),
     (0x17DC, 0x17DC), (0x1950, 0x196D), (0x1970, 0x1974), (0x1980, 0x19AB), (0x19B0, 0x19C9),
     (0x1A20, 0x1A54), (0x1AA7, 0x1AA7), (0xA9E0, 0xA9E4), (0xA9E6, 0xA9EF), (0xA9FA, 0xA9FE),
     (0xAA60, 0xAA76), (0xAA7A, 0xAA7A), (0xAA7E, 0xAAAF), (0xAAB1, 0xAAB1), (0xAAB5, 0xAAB6),
     (0xAAB9, 0xAABD), (0xAAC0, 0xAAC0), (0xAAC2, 0xAAC2), (0xAADB, 0xAADD), (0x11700, 0x1171A),
     (0x11740, 0x11746)]

/-- Letters that words are made of. -/
def wordLetter : CodeSet :=
  .diff
    (.union Property.alphabetic
      (.ranges [(0x2C2, 0x2C5), (0x2D2, 0x2D7), (0x2DE, 0x2DF), (0x2E5, 0x2EB), (0x2ED, 0x2ED),
        (0x2EF, 0x2FF), (0x55A, 0x55C), (0x55E, 0x55E), (0x58A, 0x58A), (0x5F3, 0x5F3),
        (0x70F, 0x70F), (0xA708, 0xA716), (0xA720, 0xA721), (0xA789, 0xA78A), (0xAB5B, 0xAB5B)]))
    (.unions [.ranges ideographic, wordKatakana, spacelessLetter,
      .ranges ScriptTable.hiragana.ranges, wordExtend, wordHebrew])

/-- The values that say how words break, with their reduced names. -/
def wordParts : List (List String × CodeSet) :=
  [(["cr"], carriageReturn), (["lf"], lineFeed),
   (["newline", "nl"], .ranges [(0xB, 0xC), (0x85, 0x85), (0x2028, 0x2029)]),
   (["extend"], wordExtend), (["zwj"], joiner), (["format", "fo"], wordFormat),
   (["regionalindicator", "ri"], .ranges regionalIndicator), (["katakana", "ka"], wordKatakana),
   (["hebrewletter", "hl"], wordHebrew), (["aletter", "le"], wordLetter),
   (["singlequote", "sq"], .single 0x27), (["doublequote", "dq"], .single 0x22),
   (["midnumlet", "mb"],
    .ranges [(0x2E, 0x2E), (0x2018, 0x2019), (0x2024, 0x2024), (0xFE52, 0xFE52), (0xFF07, 0xFF07),
      (0xFF0E, 0xFF0E)]),
   (["midletter", "ml"],
    .ranges [(0x3A, 0x3A), (0xB7, 0xB7), (0x387, 0x387), (0x55F, 0x55F), (0x5F4, 0x5F4),
      (0x2027, 0x2027), (0xFE13, 0xFE13), (0xFE55, 0xFE55), (0xFF1A, 0xFF1A)]),
   (["midnum", "mn"],
    .ranges [(0x2C, 0x2C), (0x3B, 0x3B), (0x37E, 0x37E), (0x589, 0x589), (0x60C, 0x60D),
      (0x66C, 0x66C), (0x7F8, 0x7F8), (0x2044, 0x2044), (0xFE50, 0xFE50), (0xFE54, 0xFE54),
      (0xFF0C, 0xFF0C), (0xFF1B, 0xFF1B)]),
   (["numeric", "nu"], wordNumeric),
   (["extendnumlet", "ex"], .union (.ranges connectorPunctuation) (.single 0x202F)),
   (["wsegspace"],
    .ranges [(0x20, 0x20), (0x1680, 0x1680), (0x2000, 0x2006), (0x2008, 0x200A), (0x205F, 0x205F),
      (0x3000, 0x3000)])]

/-! ## Sentences -/

/-- What goes on with the sentence part before it. -/
def sentenceExtend : CodeSet := .unions [Property.graphemeExtend, .ranges spacingMark, joiner]

/-- The letters that occur in two cases, but are mostly written in one. -/
def mostlySmall : CodeSet := .ranges [(0x10D0, 0x10FA), (0x10FD, 0x10FF)]

/-- The capitals of the letters that are mostly small. -/
def mostlySmallCapital : CodeSet := .ranges [(0x1C90, 0x1CBA), (0x1CBD, 0x1CBF)]

/-- Small letters. -/
def sentenceLower : CodeSet := .diff Property.lowercase (.union mostlySmall sentenceExtend)

/-- Capital letters. -/
def sentenceUpper : CodeSet :=
  .diff (.union Property.uppercase (.ranges titlecaseLetter))
    (.union mostlySmallCapital sentenceExtend)

/-- Other letters. -/
def sentenceLetter : CodeSet :=
  .diff (.union Property.alphabetic (.single 0x5F3))
    (.unions [sentenceLower, sentenceUpper, sentenceExtend])

/-- Full stops, which end a sentence at some places only. -/
def fullStop : CodeSet :=
  .ranges [(0x2E, 0x2E), (0x2024, 0x2024), (0xFE52, 0xFE52), (0xFF0E, 0xFF0E)]

/-- Marks that end a sentence. -/
def sentenceEnd : CodeSet := .diff (.ranges sentenceTerminal) fullStop

/-- Brackets and quotation marks. -/
def sentenceClose : CodeSet :=
  .diff
    (.unions [.ranges openPunctuation, .ranges closePunctuation,
      .ranges [(0x22, 0x22), (0x27, 0x27), (0xAB, 0xAB), (0xBB, 0xBB), (0x2018, 0x2019),
        (0x201B, 0x201D), (0x201F, 0x201F), (0x2039, 0x203A), (0x275B, 0x2760), (0x2E00, 0x2E0D),
        (0x2E1C, 0x2E1D), (0x2E20, 0x2E21), (0x1F676, 0x1F678)]])
    sentenceEnd

/-- Separators of paragraphs and lines. -/
def sentenceSeparator : CodeSet := .ranges [(0x85, 0x85), (0x2028, 0x2029)]

/-- The values that say how sentences break, with their reduced names. -/
def sentenceParts : List (List String × CodeSet) :=
  [(["cr"], carriageReturn), (["lf"], lineFeed), (["sep", "se"], sentenceSeparator),
   (["extend", "ex"], sentenceExtend),
   (["format", "fo"],
    .diff (.ranges format) (.unions [sentenceExtend, .single 0x200C, numberSign])),
   (["sp"],
    .diff (.ranges blankRanges) (.unions [sentenceSeparator, carriageReturn, lineFeed])),
   (["lower", "lo"], sentenceLower), (["upper", "up"], sentenceUpper),
   (["oletter", "le"], sentenceLetter),
   (["numeric", "nu"],
    .unions [.ranges decimalNumber, numberSign, .ranges [(0x66B, 0x66C)]]),
   (["aterm", "at"], fullStop), (["sterm", "st"], sentenceEnd),
   (["scontinue", "sc"],
    .ranges [(0x2C, 0x2D), (0x3A, 0x3B), (0x37E, 0x37E), (0x55D, 0x55D), (0x60C, 0x60D),
      (0x7F8, 0x7F8), (0x1802, 0x1802), (0x1808, 0x1808), (0x2013, 0x2014), (0x3001, 0x3001),
      (0xFE10, 0xFE11), (0xFE13, 0xFE14), (0xFE31, 0xFE32), (0xFE50, 0xFE51), (0xFE54, 0xFE55),
      (0xFE58, 0xFE58), (0xFE63, 0xFE63), (0xFF0C, 0xFF0D), (0xFF1A, 0xFF1B), (0xFF64, 0xFF64)]),
   (["close", "cl"], sentenceClose)]

end Break

/-- The set of a value that says how clusters break, by its reduced name. -/
def clusterPart? (name : String) : Option CodeSet := CodeSet.named? Break.clusterParts name

/-- The set of a value that says how words break, by its reduced name. -/
def wordPart? (name : String) : Option CodeSet := CodeSet.named? Break.wordParts name

/-- The set of a value that says how sentences break, by its reduced name. -/
def sentencePart? (name : String) : Option CodeSet := CodeSet.named? Break.sentenceParts name

end GrammarLang.Unicode
