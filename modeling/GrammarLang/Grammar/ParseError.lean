import GrammarLang.Scan.Error

/-! # What can go wrong while parsing a grammar

A **`ParseError`** is a failure of the scanner, or something that only a grammar can get wrong. -/

namespace GrammarLang.Grammar

open GrammarLang.Text

/-- Why a text is no grammar. -/
inductive ParseError
  /-- The scanner failed, or met a token that does not fit. -/
  | lexical (error : Scan.Error)
  /-- The text between two slashes is no regular expression. -/
  | invalidRegex (source : String) (position : Position)
  /-- A letter behind a regular expression is no flag. -/
  | invalidRegexFlag (flag : Char) (position : Position)
  /-- The lower bound of a suffix exceeds its upper bound. -/
  | invalidRange (lower upper : UInt64) (position : Position)
  /-- A stretch of the text was asked for that the text does not have. -/
  | outsideText (span : Span)
  deriving DecidableEq, Repr, Inhabited

namespace ParseError

/-- Where the failure happened. -/
def position? : ParseError → Option Position
  | lexical error => error.position?
  | invalidRegex _ position => some position
  | invalidRegexFlag _ position => some position
  | invalidRange _ _ position => some position
  | outsideText _ => none

/-- The failure in words. -/
def message : ParseError → String
  | lexical error => error.message
  | invalidRegex source position => s!"Invalid regex /{source}/ at {position.render}: "
  | invalidRegexFlag flag position => s!"Unknown regex flag {quotedChar flag} at {position.render}"
  | invalidRange lower upper position =>
    s!"Invalid repetition range \x7b{lower.toNat},{upper.toNat}\x7d at {position.render}, " ++
      "lower bound exceeds upper"
  | outsideText span => s!"No text at {span.render}"

end ParseError

end GrammarLang.Grammar
