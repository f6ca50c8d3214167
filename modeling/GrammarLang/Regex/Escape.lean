import GrammarLang.Regex.Pattern
import GrammarLang.Regex.Reader
import GrammarLang.Text.Digits
import GrammarLang.Unicode.Blank

/-! # Escapes and counts in patterns

The parts of a pattern that a backslash or a brace opens: **`readEscape`** reads what follows a
backslash, **`readCounts`** what follows the brace of a counted repetition. All of them take a
parameter `spacedOut`: whether blanks and comments inside them are passed over. -/

namespace GrammarLang.Regex

open GrammarLang.Text (charOfCode? isHexDigit numberOf)
open Reader

/-- Characters that mean something in a pattern, so that a text shows them behind a backslash. -/
def isMeta (c : Char) : Bool := "\\.+*?()|[]\x7b\x7d^$#&-~".toList.contains c

/-- Characters that stand for themselves behind a backslash: those that mean something, and all
plain characters but letters, digits and the angle brackets. -/
def isEscapable (c : Char) : Bool :=
  isMeta c || (c.toNat < 0x80 && !c.isAlphanum && c ≠ '<' && c ≠ '>')

/-- Reads exactly `count` hexadecimal digits. -/
def readHexDigits (spacedOut : Bool) : (count : Nat) → Reader (List Char)
  | 0 => give []
  | count + 1 => do
    let digit ← next
    require (isHexDigit digit)
    spacing spacedOut
    return digit :: (← readHexDigits spacedOut count)

/-- Reads a character given by its code: `count` digits, or any number of them between braces. The
letter that announces the code is already read. -/
def readCode (spacedOut : Bool) (count : Nat) : Reader Literal := do
  spacing spacedOut
  let braced ← accept ['\x7b']
  let digits ←
    if braced then do
      spacing spacedOut
      let digits ← takeSpaced spacedOut isHexDigit
      require (!digits.isEmpty)
      require (← accept ['\x7d'])
      spacing spacedOut
      pure digits
    else readHexDigits spacedOut count
  let char ← ofOption (charOfCode? (numberOf 16 digits))
  return ⟨char, !braced && count == 2⟩

/-- A text cut in two where another text first occurs in it. -/
def cutAt? (mark : List Char) : List Char → Option (List Char × List Char)
  | [] => if mark.isEmpty then some ([], []) else none
  | c :: cs =>
    if mark.isPrefixOf (c :: cs) then some ([], (c :: cs).drop mark.length)
    else (cutAt? mark cs).map fun (before, after) => (c :: before, after)

/-- The class that is asked for between the braces of a property class, or its complement: a name,
or a name and a value with `!=`, `:` or `=` between them. The first of these signs asks for the
characters that do not have the value. -/
def propertyClass (negated : Bool) (text : List Char) : ClassTree :=
  let value (key wanted : List Char) : PropertyQuery :=
    .value (String.ofList key) (String.ofList wanted)
  match cutAt? ['!', '='] text with
  | some (key, wanted) => .property (value key wanted) (!negated)
  | none =>
    match (cutAt? [':'] text).or (cutAt? ['='] text) with
    | some (key, wanted) => .property (value key wanted) negated
    | none => .property (.name (String.ofList text)) negated

/-- Reads a property class behind its letter, which says whether the complement is asked for: one
letter, or a query between braces. -/
def readPropertyClass (spacedOut negated : Bool) : Reader ClassTree := do
  spacing spacedOut
  if ← accept ['\x7b'] then
    spacing spacedOut
    let text ← takeSpaced spacedOut (· ≠ '\x7d')
    require (← accept ['\x7d'])
    return propertyClass negated text
  else
    let letter ← next
    require (letter ≠ '\\')
    spacing spacedOut
    return .property (.name (String.singleton letter)) negated

/-- Reads what follows the letter of a word edge: it may be a kind of edge between braces. What does
not look like one is left for a counted repetition. -/
def readWordEdge (spacedOut : Bool) : Reader Assertion := do
  let text ← ahead
  let isNameChar := fun c : Char => c.isAlpha || c = '-'
  let opensName :=
    match text with
    | '\x7b' :: rest =>
      match skipSpacing spacedOut rest with
      | [] => true
      | c :: _ => isNameChar c
    | _ => false
  if opensName then
    let _ ← next
    spacing spacedOut
    let name ← takeSpaced spacedOut isNameChar
    require (← accept ['\x7d'])
    match String.ofList name with
    | "start" => return .wordStart
    | "end" => return .wordEnd
    | "start-half" => return .wordStartHalf
    | "end-half" => return .wordEndHalf
    | _ => refuse
  else return .wordEdge

/-- The character that a letter stands for behind a backslash. -/
def namedChar? (letter : Char) : Option Char :=
  match letter with
  | 'a' => some '\x07'
  | 'f' => some '\x0c'
  | 't' => some '\t'
  | 'n' => some '\n'
  | 'r' => some '\r'
  | 'v' => some '\x0b'
  | _ => none

/-- Reads what follows a backslash. -/
def readEscape (spacedOut : Bool) : Reader Pattern := do
  let c ← next
  match c with
  | 'x' => return .literal (← readCode spacedOut 2)
  | 'u' => return .literal { (← readCode spacedOut 4) with asByte := false }
  | 'U' => return .literal { (← readCode spacedOut 8) with asByte := false }
  | 'p' => return .cls (← readPropertyClass spacedOut false)
  | 'P' => return .cls (← readPropertyClass spacedOut true)
  | 'd' => return .cls (.letter .digit false)
  | 'D' => return .cls (.letter .digit true)
  | 's' => return .cls (.letter .space false)
  | 'S' => return .cls (.letter .space true)
  | 'w' => return .cls (.letter .word false)
  | 'W' => return .cls (.letter .word true)
  | 'A' => return .assertion .textStart
  | 'z' => return .assertion .textEnd
  | 'b' => return .assertion (← readWordEdge spacedOut)
  | 'B' => return .assertion .noWordEdge
  | '<' => return .assertion .wordStart
  | '>' => return .assertion .wordEnd
  | c =>
    if isEscapable c then return .literal ⟨c, false⟩
    else return .literal ⟨← ofOption (namedChar? c), false⟩

/-- Reads a decimal number that fits in 32 bits, with blanks around it. -/
def readCount (spacedOut : Bool) : Reader Nat := do
  let _ ← takeWhile Unicode.isBlank
  let digits ← takeSpaced spacedOut Char.isDigit
  let _ ← takeWhile Unicode.isBlank
  require (!digits.isEmpty)
  let count := numberOf 10 digits
  require (count < UInt32.size)
  return count

/-- Reads the bounds of a counted repetition, from behind its opening brace through its closing one:
one number, or a number and a comma, with or without a second number. -/
def readCounts (spacedOut : Bool) : Reader (Nat × Option Nat) := do
  spacing spacedOut
  let least ← readCount spacedOut
  let most ←
    if ← accept [','] then do
      spacing spacedOut
      if (← peek?) = some '\x7d' then pure none else some <$> readCount spacedOut
    else pure (some least)
  require (← accept ['\x7d'])
  require (most.all (least ≤ ·))
  return (least, most)

end GrammarLang.Regex
