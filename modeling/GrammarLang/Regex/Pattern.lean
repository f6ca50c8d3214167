/-! # Patterns as they are written

A **`Pattern`** is a regular expression with the structure that its text shows: flags, escapes and
character classes are still to be resolved. -/

namespace GrammarLang.Regex

/-- What a flag changes. -/
inductive Flag
  /-- Letters match in either case. -/
  | anyCase
  /-- The line conditions hold at every line. -/
  | multiLine
  /-- The dot matches line feeds too. -/
  | dotAll
  /-- Greedy and reluctant repetitions change places. -/
  | swapGreed
  /-- Characters count, not bytes, and classes know all scripts. -/
  | unicode
  /-- Carriage returns end lines too. -/
  | anyLineEnd
  /-- Blanks and comments in the pattern are passed over. -/
  | spacedOut
  deriving DecidableEq, Repr

/-- A flag that is switched on or off. -/
structure FlagSetting where
  /-- The flag. -/
  flag : Flag
  /-- Whether it is switched on. -/
  on : Bool
  deriving DecidableEq, Repr

/-- A single character of a pattern. -/
structure Literal where
  /-- The character. -/
  char : Char
  /-- Whether it was written as `\x` with two digits, which may stand for a byte. -/
  asByte : Bool
  deriving DecidableEq, Repr

/-- The classes with a letter of their own. -/
inductive LetterClass
  /-- Digits. -/
  | digit
  /-- Blanks. -/
  | space
  /-- Characters of words. -/
  | word
  deriving DecidableEq, Repr

/-- The classes with a name between colons. -/
inductive NamedClass
  /-- Letters and digits. -/
  | alnum
  /-- Letters. -/
  | alpha
  /-- All of plain text. -/
  | ascii
  /-- The space and the tab. -/
  | blank
  /-- Control characters. -/
  | cntrl
  /-- Digits. -/
  | digit
  /-- Characters that leave ink. -/
  | graph
  /-- Small letters. -/
  | lower
  /-- Characters that leave ink, and the space. -/
  | print
  /-- Punctuation and symbols. -/
  | punct
  /-- Blanks. -/
  | space
  /-- Capital letters. -/
  | upper
  /-- Letters, digits and the underscore. -/
  | word
  /-- Hexadecimal digits. -/
  | xdigit
  deriving DecidableEq, Repr

/-- The class that a name between colons stands for. -/
def NamedClass.ofName? (name : String) : Option NamedClass :=
  match name with
  | "alnum" => some alnum
  | "alpha" => some alpha
  | "ascii" => some ascii
  | "blank" => some blank
  | "cntrl" => some cntrl
  | "digit" => some digit
  | "graph" => some graph
  | "lower" => some lower
  | "print" => some print
  | "punct" => some punct
  | "space" => some space
  | "upper" => some upper
  | "word" => some word
  | "xdigit" => some xdigit
  | _ => none

/-- What is asked for between the braces of a property class. -/
inductive PropertyQuery
  /-- A property by its name. -/
  | name (name : String)
  /-- A property by its name and value. -/
  | value (name value : String)
  deriving DecidableEq, Repr

/-- How two sets of a class combine. -/
inductive SetOp
  /-- What both hold. -/
  | inter
  /-- What only the left one holds. -/
  | diff
  /-- What exactly one of them holds. -/
  | symmDiff
  deriving DecidableEq, Repr

/-- A character class. -/
inductive ClassTree
  /-- No character. -/
  | none
  /-- One character. -/
  | literal (member : Literal)
  /-- The characters from a first to a last one. -/
  | range (first last : Literal)
  /-- A class with a letter of its own, or its complement. -/
  | letter (kind : LetterClass) (negated : Bool)
  /-- A class with a name between colons, or its complement. -/
  | named (kind : NamedClass) (negated : Bool)
  /-- The characters with a property, or those without it. -/
  | property (query : PropertyQuery) (negated : Bool)
  /-- The members of either class. -/
  | union (left right : ClassTree)
  /-- Two classes combined by an operator. -/
  | op (kind : SetOp) (left right : ClassTree)
  /-- A class in brackets, or its complement. -/
  | bracketed (negated : Bool) (inner : ClassTree)
  deriving DecidableEq, Repr

/-- The conditions that a pattern can ask for. -/
inductive Assertion
  /-- A caret. -/
  | lineStart
  /-- A dollar sign. -/
  | lineEnd
  /-- The start of the text. -/
  | textStart
  /-- The end of the text. -/
  | textEnd
  /-- An edge of a word. -/
  | wordEdge
  /-- No edge of a word. -/
  | noWordEdge
  /-- The start of a word. -/
  | wordStart
  /-- The end of a word. -/
  | wordEnd
  /-- Not behind a character of a word. -/
  | wordStartHalf
  /-- Not before a character of a word. -/
  | wordEndHalf
  deriving DecidableEq, Repr

/-- A pattern. -/
inductive Pattern
  /-- Nothing at all. -/
  | empty
  /-- Flags for the rest of the group. -/
  | flags (settings : List FlagSetting)
  /-- One character. -/
  | literal (member : Literal)
  /-- The dot. -/
  | dot
  /-- A condition. -/
  | assertion (kind : Assertion)
  /-- A character class. -/
  | cls (tree : ClassTree)
  /-- A repetition; `reluctant` says that a question mark follows its operator. -/
  | repeated (body : Pattern) (least : Nat) (most : Option Nat) (reluctant : Bool)
  /-- A group, with its number among the groups that have one, and the flags that hold inside it. -/
  | group (number : Option Nat) (settings : List FlagSetting) (body : Pattern)
  /-- One pattern after another. -/
  | seq (first second : Pattern)
  /-- A choice of patterns. -/
  | alt (first second : Pattern)
  deriving DecidableEq, Repr

namespace Pattern

/-- The patterns one after another. -/
def sequence : List Pattern → Pattern
  | [] => .empty
  | [item] => item
  | item :: items => .seq item (sequence items)

/-- The choice between some patterns. -/
def choice : List Pattern → Pattern
  | [] => .empty
  | [branch] => branch
  | branch :: branches => .alt branch (choice branches)

end Pattern

/-- The union of some classes. -/
def ClassTree.unions : List ClassTree → ClassTree
  | [] => .none
  | [item] => item
  | item :: items => .union item (unions items)

end GrammarLang.Regex
