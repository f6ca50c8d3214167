import GrammarLang.Text.Quoted
import GrammarLang.Text.Source

/-! # What can go wrong while scanning

An **`Error`** says why a rule table could not be made, why a text could not be scanned, or why a
token was not the one asked for. **`Error.message`** puts it in words, **`Error.position?`** says
where. -/

namespace GrammarLang.Scan

open GrammarLang.Text

/-- A failure of scanning. -/
inductive Error
  /-- The pattern of a rule is no regular expression. -/
  | invalidPattern (rule : String)
  /-- Two rules of a mode match the same literal: they would always tie. -/
  | duplicateLiteral (mode literal earlier later : String)
  /-- No rule matches the text from this character on. -/
  | invalidToken (found : Char) (position : Position)
  /-- Of the rules that tie for the longest match, some ignore the text and some do not. -/
  | ambiguousIgnore (text : String) (rules : List String) (position : Position)
  /-- The text of a token stands for no value. -/
  | decode (rule text reason : String) (position : Position)
  /-- The current token is not one of those asked for. -/
  | unexpectedToken (expected : List String) (rule text : String) (position : Position)
  /-- The text ends where a token was asked for. -/
  | unexpectedEnd (expected : List String) (position : Position)
  /-- The current token can be read as more than one of those asked for. -/
  | ambiguousAlternative (text : String) (rules : List String) (position : Position)
  /-- A pattern matched text that does not start where the scanner stands. -/
  | misplacedMatch (rule : String)
  deriving DecidableEq, Repr, Inhabited

namespace Error

/-- Where the failure happened; a rule table has no such place. -/
def position? : Error → Option Position
  | .invalidPattern _ => none
  | .duplicateLiteral .. => none
  | .invalidToken _ position => some position
  | .ambiguousIgnore _ _ position => some position
  | .decode _ _ _ position => some position
  | .unexpectedToken _ _ _ position => some position
  | .unexpectedEnd _ position => some position
  | .ambiguousAlternative _ _ position => some position
  | .misplacedMatch _ => none

/-- Names with commas between them. -/
def renderNames (names : List String) : String := ", ".intercalate names

/-- What was asked for, in words. -/
def renderExpected : List String → String
  | [] => "nothing"
  | [name] => s!"'{name}'"
  | names => "one of " ++ renderNames (names.map fun name => s!"'{name}'")

/-- The failure in words. -/
def message : Error → String
  | .invalidPattern rule => s!"Invalid pattern for rule '{rule}': "
  | .duplicateLiteral mode literal earlier later =>
    s!"Rules '{earlier}' and '{later}' both match the literal {quotedString literal} " ++
      s!"in mode '{mode}'"
  | .invalidToken found position => s!"Invalid token {quotedChar found} at {position.render}"
  | .ambiguousIgnore text rules position =>
    s!"Ambiguous ignore vs non-ignore match {quotedString text} at {position.render} " ++
      s!"(rules {renderNames rules})"
  | .decode rule text reason position =>
    s!"Invalid {rule} {quotedString text} at {position.render}: {reason}"
  | .unexpectedToken expected rule text position =>
    s!"Unexpected token at {position.render}. Expected {renderExpected expected} " ++
      s!"found: '{text}' ({rule})"
  | .unexpectedEnd expected position =>
    s!"Unexpected end of input at {position.render}. Expected {renderExpected expected}"
  | .ambiguousAlternative text rules position =>
    s!"Ambiguous token '{text}' at {position.render} matches {renderNames rules}"
  | .misplacedMatch rule => s!"Rule '{rule}' matched away from the scan position"

end Error

end GrammarLang.Scan
