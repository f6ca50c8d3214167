import GrammarLang.Text.Quoted
import GrammarLang.Text.Source

/-! # Tokens

A **`Token`** is a stretch of the source text with the name of the rule that matched it and the
value the text stands for. Several rules may match the same stretch, so the scanner deals in a
**`TokenSet`**, which holds one token for each of them and is never empty. Looking ahead gives a
**`Sighting`**: a token set, or the end of the text, or text that no rule matches. -/

namespace GrammarLang.Scan

open GrammarLang.Text

/-- What the text of a token stands for. -/
inductive Value
  /-- Not worked out, as the token was only looked at. -/
  | unevaluated
  /-- A text. -/
  | text (text : String)
  /-- A number of 64 bits. -/
  | integer (number : UInt64)
  deriving DecidableEq, Repr, Inhabited

namespace Value

/-- The text of a value that is one. -/
def asText? : Value → Option String
  | .text content => some content
  | _ => none

/-- The number of a value that is one. -/
def asInteger? : Value → Option UInt64
  | .integer number => some number
  | _ => none

/-- The value with its kind named. -/
def describe : Value → String
  | .unevaluated => "Unevaluated"
  | .text content => s!"Text({quotedString content})"
  | .integer number => s!"Integer({number.toNat})"

end Value

/-- A stretch of the source text as one rule sees it. -/
structure Token where
  /-- Name of the rule that matched. -/
  rule : String
  /-- Where the text stands. -/
  span : Span
  /-- The text. -/
  text : String
  /-- What the text stands for. -/
  value : Value
  deriving DecidableEq, Repr, Inhabited

/-- The token with its fields named. -/
def Token.describe (token : Token) : String :=
  s!"Token \x7b rule: {quotedString token.rule}, span: {token.span.describe}, " ++
    s!"text: {quotedString token.text}, value: {token.value.describe} \x7d"

/-- Every reading of one stretch of the source text, in the order of the rules. -/
structure TokenSet where
  /-- The reading of the first rule. -/
  first : Token
  /-- The readings of further rules. -/
  others : List Token
  deriving DecidableEq, Repr, Inhabited

namespace TokenSet

/-- The tokens of the set, in the order of the rules. -/
def toList (set : TokenSet) : List Token := set.first :: set.others

/-- The first token of a rule. -/
def find? (set : TokenSet) (rule : String) : Option Token :=
  set.toList.find? fun token => token.rule = rule

/-- Whether a rule is among those that matched. -/
def contains (set : TokenSet) (rule : String) : Bool := (set.find? rule).isSome

/-- The names of the rules that matched. -/
def rules (set : TokenSet) : List String := set.toList.map Token.rule

@[simp] theorem toList_mk (first : Token) (others : List Token) :
    (TokenSet.mk first others).toList = first :: others := rfl

theorem toList_ne_nil (set : TokenSet) : set.toList ≠ [] := by simp [toList]

end TokenSet

/-- What is seen at a place of the source text. -/
inductive Sighting
  /-- Text that some rules match. -/
  | tokens (set : TokenSet)
  /-- The end of the text. -/
  | atEnd
  /-- Text that no rule matches. -/
  | unknown
  deriving DecidableEq, Repr, Inhabited

namespace Sighting

/-- The tokens seen; there are none at the end and before unknown text. -/
def toList : Sighting → List Token
  | .tokens set => set.toList
  | _ => []

/-- The tokens seen, with their fields named. -/
def describe : Sighting → String
  | .tokens set => "Tokens([" ++ ", ".intercalate (set.toList.map Token.describe) ++ "])"
  | .atEnd => "Eof"
  | .unknown => "Invalid"

/-- Whether a token of some rule is seen. -/
def contains (sighting : Sighting) (rule : String) : Bool :=
  match sighting with
  | .tokens set => set.contains rule
  | _ => false

end Sighting

end GrammarLang.Scan
