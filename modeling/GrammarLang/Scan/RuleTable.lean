import GrammarLang.Journal
import GrammarLang.Regex.Meaning
import GrammarLang.Scan.Error
import GrammarLang.Scan.Token

/-! # Rule tables

A scanner works by rules. A **`RuleSpec`** declares one: its name, the literal or pattern it
matches, the mode it belongs to, whether its matches are ignored, and how its text becomes a value.
A list of declarations is compiled into a **`RuleTable`** by **`RuleTable.compile`**, which refuses
patterns that are no regular expressions and literals that a mode has twice.

* **`Rule.matchAt`** — what a compiled rule makes of a text.
* **`longest`** — the rules whose match of a text is longest. -/

namespace GrammarLang.Scan

open GrammarLang.Text

/-- The mode that every text starts in. -/
def defaultMode : String := "default"

/-- Turns the text of a token into a value, or says why it stands for none. -/
abbrev Decoder := String → Except String Value

/-- What a rule matches. -/
inductive Matcher
  /-- A given text, character for character. -/
  | literal (text : String)
  /-- Whatever a regular expression matches. -/
  | regex (pattern : String)
  deriving DecidableEq, Repr

/-- The declaration of a rule. -/
structure RuleSpec where
  /-- Name of the rule. -/
  name : String
  /-- What the rule matches. -/
  matcher : Matcher
  /-- The mode in which the rule is tried. -/
  mode : String := defaultMode
  /-- Whether matches are passed over instead of becoming tokens. -/
  ignored : Bool := false
  /-- How the text of a match becomes a value; without it the text is the value. -/
  decoder : Option Decoder := none

/-- A compiled rule. -/
structure Rule where
  /-- Name of the rule. -/
  name : String
  /-- The pattern that is matched, which holds to the start of a text. -/
  pattern : String
  /-- The compiled pattern. -/
  regex : Regex
  /-- The mode in which the rule is tried. -/
  mode : String
  /-- Whether matches are passed over instead of becoming tokens. -/
  ignored : Bool
  /-- Whether the rule was declared by a literal. -/
  isLiteral : Bool
  /-- How the text of a match becomes a value. -/
  decoder : Option Decoder

/-- What a rule makes of a text. -/
inductive MatchAt
  /-- It does not match at the start, or matches no whole character there. -/
  | none
  /-- It matches some characters at the start. -/
  | chars (count : Nat)
  /-- It matches, but not at the start. -/
  | misplaced
  deriving DecidableEq, Repr

namespace Rule

/-- The rule with its fields named. -/
def describe (rule : Rule) : String :=
  s!"Rule \x7b name: {quotedString rule.name}, regex: {quotedString rule.pattern}, " ++
    s!"mode: {quotedString rule.mode}, ignore: {rule.ignored}, literal: {rule.isLiteral} \x7d"

/-- What the rule makes of a text, given by its start. A match that ends inside a character is cut
back to the start of that character. -/
def matchAt {text : List Char} (rule : Rule) (start : Regex.Spot text) : MatchAt :=
  match rule.regex.find? start with
  | none => .none
  | some (found, stop) =>
    if found = start then
      let count := start.left - stop.left
      if count = 0 then .none else .chars count
    else .misplaced

/-- The value that a text has for the rule. -/
def evaluate (rule : Rule) (text : String) : Except String Value :=
  match rule.decoder with
  | none => .ok (.text text)
  | some decoder => decoder text

theorem pos_of_matchAt {text : List Char} {rule : Rule} {start : Regex.Spot text} {count : Nat}
    (h : rule.matchAt start = .chars count) : 0 < count := by
  simp only [matchAt] at h
  split at h
  · simp at h
  · split at h
    · split at h <;> simp at h
      omega
    · simp at h

end Rule

/-- The pattern of a declaration, held to the start of a text. -/
def Matcher.anchoredPattern : Matcher → List Char
  | .literal text => "^(?:".toList ++ Regex.escape text.toList ++ [')']
  | .regex pattern => "^(?:".toList ++ pattern.toList ++ [')']

/-- Whether a declaration is by a literal. -/
def Matcher.isLiteral : Matcher → Bool
  | .literal _ => true
  | .regex _ => false

/-- Compiles a declaration, unless its pattern is no regular expression. Without `unicode` patterns
work on bytes. -/
def RuleSpec.compile? (unicode : Bool) (spec : RuleSpec) : Option Rule := do
  let pattern := spec.matcher.anchoredPattern
  let regex ← Regex.compile? ⟨{ unicode }, false⟩ false pattern
  return {
    name := spec.name
    pattern := String.ofList pattern
    regex
    mode := spec.mode
    ignored := spec.ignored
    isLiteral := spec.matcher.isLiteral
    decoder := spec.decoder }

/-- A set of rules for a scanner. -/
structure RuleTable where
  /-- Name of the table. -/
  name : String
  /-- The rules, in the order they were declared. -/
  rules : List Rule

namespace RuleTable

/-- The first of some declarations that matches the same literal in the same mode. -/
def sameLiteral? (specs : List RuleSpec) (spec : RuleSpec) : Option RuleSpec :=
  specs.find? fun earlier =>
    spec.matcher.isLiteral && earlier.mode = spec.mode && earlier.matcher = spec.matcher

/-- Compiles declarations in order, where those in `earlier` came before. A literal that its mode
has already is refused before its pattern is looked at. -/
def compileRules (unicode : Bool) (earlier : List RuleSpec) :
    List RuleSpec → Except Error (List Rule)
  | [] => .ok []
  | spec :: specs =>
    match sameLiteral? earlier spec, spec.matcher with
    | some previous, .literal text =>
      .error (.duplicateLiteral spec.mode text previous.name spec.name)
    | _, _ =>
      match spec.compile? unicode with
      | none => .error (.invalidPattern spec.name)
      | some rule => (compileRules unicode (earlier ++ [spec]) specs).map (rule :: ·)

/-- Compiles declarations into a table. -/
def compile (name : String) (unicode : Bool) (specs : List RuleSpec) : Except Error RuleTable :=
  (compileRules unicode [] specs).map fun rules => { name, rules }

/-- The rules of a mode, in the order they were declared. -/
def rulesInMode (table : RuleTable) (mode : String) : List Rule :=
  table.rules.filter fun rule => rule.mode = mode

/-- Whether a mode has any rules. -/
def hasMode (table : RuleTable) (mode : String) : Bool :=
  table.rules.any fun rule => rule.mode = mode

/-- The modes that have rules, each once. -/
def modes (table : RuleTable) : List String := (table.rules.map Rule.mode).eraseDups

/-- The line that tells of a table just compiled. -/
def announcement (table : RuleTable) : Entry where
  detail := .debug
  message := s!"Compiled lexer '{table.name}' with {table.rules.length} rules " ++
    s!"in {table.modes.length} modes"

end RuleTable

/-- Rules with the number of characters each of them matches. -/
abbrev Matches := List (Rule × Nat)

/-- What each of some rules matches at the start of a text. The first rule whose match is misplaced
is given back instead. -/
def matchesAt {text : List Char} (start : Regex.Spot text) : List Rule → Except Rule Matches
  | [] => .ok []
  | rule :: rules =>
    match rule.matchAt start with
    | .none => matchesAt start rules
    | .chars count => (matchesAt start rules).map ((rule, count) :: ·)
    | .misplaced => .error rule

/-- The greatest number of characters that a rule matches. -/
def Matches.best (found : Matches) : Nat := found.foldr (fun entry best => max entry.2 best) 0

/-- The rules that match the greatest number of characters. -/
def Matches.winners (found : Matches) : List Rule :=
  (found.filter fun entry => entry.2 = best found).map Prod.fst

/-- The rules whose match of a text, given by its start, is longest, and how many characters that
is: none where no rule matches. -/
def longest {text : List Char} (rules : List Rule) (start : Regex.Spot text) :
    Except Rule (Nat × List Rule) :=
  (matchesAt start rules).map fun found => (found.best, found.winners)

end GrammarLang.Scan
