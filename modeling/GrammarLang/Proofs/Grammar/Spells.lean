import GrammarLang.Grammar.Lexicon
import GrammarLang.Grammar.Render

/-! # How token sets spell a grammar

The grammar of the notation, said on token sets and without a parser: which token sets, one behind
the other, spell a node of a grammar tree. Every token set belongs to one node, every name, value,
bound and text of the tree is that of the token sets which spell it, and nothing else is left.

* **`CodeSpells`**, **`TerminalSpells`**, **`SuffixSpells`** — the leaves.
* **`ElementSpells`**, **`ComponentSpells`**, **`BranchesSpell`** — what is nested.
* **`GrammarSpells`** — a whole grammar. -/

namespace GrammarLang.Grammar

open GrammarLang.Scan GrammarLang.Text

open Lexicon (ident number string)

/-- A token of the set is of the rule. -/
structure Offers (set : TokenSet) (rule : String) (token : Token) : Prop where
  /-- The token belongs to the set. -/
  mem : token ∈ set.toList
  /-- Its rule is the one asked for. -/
  rule_eq : token.rule = rule

/-- A token of the set is of one of the rules. -/
def IsOneOf (set : TokenSet) (rules : List String) : Prop :=
  ∃ rule ∈ rules, ∃ token, Offers set rule token

/-- A token of the set is of the rule. -/
def Is (set : TokenSet) (rule : String) : Prop := ∃ token, Offers set rule token

theorem is_iff_mem_rules {set : TokenSet} {rule : String} : Is set rule ↔ rule ∈ set.rules := by
  rw [TokenSet.rules, List.mem_map]
  constructor
  · rintro ⟨token, hoffers⟩
    exact ⟨token, hoffers.mem, hoffers.rule_eq⟩
  · rintro ⟨token, hmem, hrule⟩
    exact ⟨token, hmem, hrule⟩

/-- The text of token sets without gaps between them. -/
def textOfSets (sets : List TokenSet) : List Char :=
  sets.flatMap fun set => set.first.text.toList

/-- Token sets spell a part that may be missing. -/
inductive Maybe {α : Type} (spells : α → List TokenSet → Prop) : Option α → List TokenSet → Prop
  /-- The part is missing. -/
  | none : Maybe spells none []
  /-- The part is there. -/
  | some {part : α} {sets : List TokenSet} (spelt : spells part sets) :
      Maybe spells (some part) sets

/-- Token sets spell several parts, one behind the other. -/
inductive Each {α : Type} (spells : α → List TokenSet → Prop) : List α → List TokenSet → Prop
  /-- There is no part. -/
  | nil : Each spells [] []
  /-- A part and those behind it. -/
  | cons {part : α} {parts : List α} {sets further : List TokenSet} (spelt : spells part sets)
      (others : Each spells parts further) : Each spells (part :: parts) (sets ++ further)

/-! ## Code -/

/-- `(code | '{' … '}')*`: the braces are balanced. -/
inductive Balanced : List TokenSet → Prop
  /-- Nothing. -/
  | nil : Balanced []
  /-- A token that is no brace. -/
  | code {set : TokenSet} {further : List TokenSet} (opens : ¬ Is set "\x7b")
      (closes : ¬ Is set "\x7d") (others : Balanced further) : Balanced (set :: further)
  /-- Braces with balanced code between them. -/
  | braces {opening closing : TokenSet} {inner further : List TokenSet} (opens : Is opening "\x7b")
      (inside : Balanced inner) (closes : Is closing "\x7d") (others : Balanced further) :
      Balanced (opening :: inner ++ closing :: further)

/-- `'{' (code | '{' … '}')* '}'`, where the text between the braces is that of the code. -/
inductive CodeSpells : CodeSegment → List TokenSet → Prop
  /-- Balanced code between braces. -/
  | braces {code : CodeSegment} {opening closing : TokenSet} {inner : List TokenSet}
      (opens : Is opening "\x7b") (inside : Balanced inner) (closes : Is closing "\x7d")
      (text : code.text.toList = textOfSets inner) :
      CodeSpells code (opening :: inner ++ [closing])

/-! ## Regular expressions -/

/-- A part of a regular expression. -/
inductive RegexPart
  /-- Alternatives with bars between them. -/
  | disjunction
  /-- Terms in a row. -/
  | alternative
  /-- A condition, or an atom with a quantifier. -/
  | term
  /-- How often an atom may occur. -/
  | quantifier
  /-- A character, a class or a group. -/
  | atom
  /-- A class of characters. -/
  | cls
  /-- The members of a class. -/
  | members
  deriving DecidableEq, Repr

/-- Token sets spell a part of a regular expression. -/
inductive RegexSpells : RegexPart → List TokenSet → Prop
  /-- `alternative` -/
  | alternative {sets : List TokenSet} (only : RegexSpells .alternative sets) :
      RegexSpells .disjunction sets
  /-- `alternative '|' disjunction` -/
  | bar {sets further : List TokenSet} {bar : TokenSet} (first : RegexSpells .alternative sets)
      (sign : Is bar "|") (others : RegexSpells .disjunction further) :
      RegexSpells .disjunction (sets ++ bar :: further)
  /-- No term. -/
  | noTerm : RegexSpells .alternative []
  /-- `term alternative` -/
  | term {sets further : List TokenSet} (first : RegexSpells .term sets)
      (others : RegexSpells .alternative further) : RegexSpells .alternative (sets ++ further)
  /-- `'^' | '$' | flags` -/
  | condition {set : TokenSet} (sign : IsOneOf set ["^", "$", Lexicon.regexInlineFlags]) :
      RegexSpells .term [set]
  /-- `('(?=' | '(?!' | '(?<=' | '(?<!') disjunction ')'` -/
  | lookAround {opening closing : TokenSet} {inner : List TokenSet}
      (opens : IsOneOf opening ["(?=", "(?!", "(?<=", "(?<!"])
      (inside : RegexSpells .disjunction inner) (closes : Is closing ")") :
      RegexSpells .term (opening :: inner ++ [closing])
  /-- `atom quantifier` -/
  | atom {sets further : List TokenSet} (first : RegexSpells .atom sets)
      (count : RegexSpells .quantifier further) : RegexSpells .term (sets ++ further)
  /-- No quantifier. -/
  | once : RegexSpells .quantifier []
  /-- `'*' | '+' | '?' | counts` -/
  | greedy {set : TokenSet} (sign : IsOneOf set ["*", "+", "?", Lexicon.regexRepeat]) :
      RegexSpells .quantifier [set]
  /-- `('*' | '+' | '?' | counts) '?'` -/
  | reluctant {set mark : TokenSet} (sign : IsOneOf set ["*", "+", "?", Lexicon.regexRepeat])
      (lazy : Is mark "?") : RegexSpells .quantifier [set, mark]
  /-- `char | escape | '.' | '-' | ']'` -/
  | char {set : TokenSet}
      (sign : IsOneOf set [Lexicon.regexChar, Lexicon.regexEscape, ".", "-", "]"]) :
      RegexSpells .atom [set]
  /-- `class` -/
  | cls {sets : List TokenSet} (only : RegexSpells .cls sets) : RegexSpells .atom sets
  /-- `('(' | opening) disjunction ')'` -/
  | group {opening closing : TokenSet} {inner : List TokenSet}
      (opens : IsOneOf opening ["(", Lexicon.regexGroupOpen])
      (inside : RegexSpells .disjunction inner) (closes : Is closing ")") :
      RegexSpells .atom (opening :: inner ++ [closing])
  /-- `('[' | '[^') members ']'` -/
  | brackets {opening closing : TokenSet} {inner : List TokenSet}
      (opens : IsOneOf opening ["[", "[^"]) (inside : RegexSpells .members inner)
      (closes : Is closing "]") : RegexSpells .cls (opening :: inner ++ [closing])
  /-- `('[' | '[^') ']' members ']'`, where the first closing bracket is a member. -/
  | bracketsBracket {opening bracket closing : TokenSet} {inner : List TokenSet}
      (opens : IsOneOf opening ["[", "[^"]) (member : Is bracket "]")
      (inside : RegexSpells .members inner) (closes : Is closing "]") :
      RegexSpells .cls (opening :: bracket :: inner ++ [closing])
  /-- No member. -/
  | noMember : RegexSpells .members []
  /-- `class members` -/
  | nested {sets further : List TokenSet} (first : RegexSpells .cls sets)
      (others : RegexSpells .members further) : RegexSpells .members (sets ++ further)
  /-- `member members`, where any token but a bracket is a member. -/
  | member {set : TokenSet} {further : List TokenSet} (opens : ¬ IsOneOf set ["[", "[^"])
      (closes : ¬ Is set "]") (others : RegexSpells .members further) :
      RegexSpells .members (set :: further)

/-! ## Terminals and suffixes -/

/-- `ident | number | string | '/' disjunction '/' flags?` -/
inductive TerminalSpells : Terminal → List TokenSet → Prop
  /-- A name is its own text. -/
  | ident {set : TokenSet} {token : Token} (offers : Offers set ident token) :
      TerminalSpells (.ident token.text) [set]
  /-- A number is the value of its token. -/
  | number {set : TokenSet} {token : Token} {value : UInt64} (offers : Offers set number token)
      (value_eq : token.value = .integer value) : TerminalSpells (.number value) [set]
  /-- A text is the value of its literal. -/
  | string {set : TokenSet} {token : Token} {value : String} (offers : Offers set string token)
      (value_eq : token.value = .text value) : TerminalSpells (.string value) [set]
  /-- A set is given by the expression between the slashes. -/
  | set {opening closing : TokenSet} {inner : List TokenSet} {regexSet : RegexSet}
      (opens : Is opening "/") (inside : RegexSpells .disjunction inner) (closes : Is closing "/")
      (compiled : RegexSet.compile (String.ofList (textOfSets inner)) "" = .ok regexSet) :
      TerminalSpells (.set regexSet) (opening :: inner ++ [closing])
  /-- The letters of a name that touches the closing slash are flags. -/
  | setWithFlags {opening closing name : TokenSet} {inner : List TokenSet} {token : Token}
      {regexSet : RegexSet} (opens : Is opening "/") (inside : RegexSpells .disjunction inner)
      (closes : Is closing "/") (offers : Offers name Lexicon.ident token)
      (touches : token.span.start = closing.first.span.stop)
      (compiled : RegexSet.compile (String.ofList (textOfSets inner)) token.text = .ok regexSet) :
      TerminalSpells (.set regexSet) (opening :: inner ++ [closing, name])

/-- A token set with the value of a number. -/
def NumberSpells (value : UInt64) (set : TokenSet) : Prop :=
  ∃ token, Offers set number token ∧ token.value = .integer value

/-- `'*' | '+' | '?' | '{' number (',' number?)? '}'` -/
inductive SuffixSpells : Suffix → List TokenSet → Prop
  /-- A sign of its own. -/
  | sign {set : TokenSet} {sign : String} (usual : sign ∈ ["*", "+", "?"]) (offers : Is set sign) :
      SuffixSpells (.ofSign sign) [set]
  /-- One number is both bounds. -/
  | exactly {opening lowest closing : TokenSet} {bound : UInt64} (opens : Is opening "\x7b")
      (lower : NumberSpells bound lowest) (closes : Is closing "\x7d") :
      SuffixSpells (.ofBounds bound (some bound)) [opening, lowest, closing]
  /-- A comma without a number behind it leaves the upper bound open. -/
  | atLeast {opening lowest comma closing : TokenSet} {bound : UInt64} (opens : Is opening "\x7b")
      (lower : NumberSpells bound lowest) (separates : Is comma ",") (closes : Is closing "\x7d") :
      SuffixSpells (.ofBounds bound none) [opening, lowest, comma, closing]
  /-- Two numbers in order. -/
  | between {opening lowest comma highest closing : TokenSet} {least most : UInt64}
      (opens : Is opening "\x7b") (lower : NumberSpells least lowest) (separates : Is comma ",")
      (upper : NumberSpells most highest) (closes : Is closing "\x7d") (le : least ≤ most) :
      SuffixSpells (.ofBounds least (some most)) [opening, lowest, comma, highest, closing]

/-! ## Components -/

/-- `(code '?')? code?`: the predicate and the code in front of an element. -/
inductive FrontSpells : Option CodeSegment → Option CodeSegment → List TokenSet → Prop
  /-- Neither. -/
  | none : FrontSpells none none []
  /-- Code without a question mark is no predicate. -/
  | code {code : CodeSegment} {sets : List TokenSet} (spelt : CodeSpells code sets) :
      FrontSpells .none (some code) sets
  /-- A predicate, and code or no code behind it. -/
  | predicate {predicate : CodeSegment} {code : Option CodeSegment} {mark : TokenSet}
      {sets further : List TokenSet} (spelt : CodeSpells predicate sets) (asks : Is mark "?")
      (behind : Maybe CodeSpells code further) :
      FrontSpells (some predicate) code (sets ++ mark :: further)

/-- `ident '='`: a label is its own text. -/
inductive LabelSpells : String → List TokenSet → Prop
  /-- A name with a sign of equality behind it. -/
  | name {set equals : TokenSet} {token : Token} (offers : Offers set ident token)
      (sign : Is equals "=") : LabelSpells token.text [set, equals]

mutual

/-- `'~' element | ('(' | '(?=' | '(?!') branches ')' | terminal`; terminals are kept in an arena. -/
inductive ElementSpells (arena : Arena) : Element → List TokenSet → Prop
  /-- The terminal that the arena has for the id. -/
  | terminal {id : TerminalId} {terminal : Terminal} {sets : List TokenSet}
      (stored : arena.get? id = some terminal) (spelt : TerminalSpells terminal sets) :
      ElementSpells arena (.terminal id) sets
  /-- A tilde and the inner element. -/
  | negation {inner : Element} {sign : TokenSet} {sets : List TokenSet} (negates : Is sign "~")
      (spelt : ElementSpells arena inner sets) : ElementSpells arena (.negation inner) (sign :: sets)
  /-- The branches between parentheses, the first of which says what the group does. -/
  | group {kind : GroupKind} {branches : List Branch} {opening closing : TokenSet}
      {sets : List TokenSet} (opens : Is opening kind.opening)
      (spelt : BranchesSpell arena branches sets) (closes : Is closing ")") :
      ElementSpells arena (.group kind branches) (opening :: sets ++ [closing])

/-- `(code '?')? code? (ident '=')? element suffix* code?` -/
inductive ComponentSpells (arena : Arena) : Component → List TokenSet → Prop
  /-- The parts of the component, in order. -/
  | parts {component : Component} {front label element suffixes behind : List TokenSet}
      (inFront : FrontSpells component.predicate component.codeBefore front)
      (labelled : Maybe LabelSpells component.label label)
      (spelt : ElementSpells arena component.element element)
      (repeated : Each SuffixSpells component.suffixes suffixes)
      (code : Maybe CodeSpells component.codeAfter behind) :
      ComponentSpells arena component (front ++ label ++ element ++ suffixes ++ behind)

/-- `component*` -/
inductive ComponentsSpell (arena : Arena) : List Component → List TokenSet → Prop
  /-- There is no component. -/
  | nil : ComponentsSpell arena [] []
  /-- A component and those behind it. -/
  | cons {first : Component} {others : List Component} {sets further : List TokenSet}
      (spelt : ComponentSpells arena first sets) (behind : ComponentsSpell arena others further) :
      ComponentsSpell arena (first :: others) (sets ++ further)

/-- `branch ('|' branch)*` -/
inductive BranchesSpell (arena : Arena) : List Branch → List TokenSet → Prop
  /-- The last branch. -/
  | last {branch : Branch} {sets : List TokenSet}
      (spelt : ComponentsSpell arena branch.components sets) : BranchesSpell arena [branch] sets
  /-- A branch, a bar, and the branches behind it. -/
  | bar {first : Branch} {others : List Branch} {bar : TokenSet} {sets further : List TokenSet}
      (spelt : ComponentsSpell arena first.components sets) (separates : Is bar "|")
      (behind : BranchesSpell arena others further) :
      BranchesSpell arena (first :: others) (sets ++ bar :: further)

end

/-! ## Grammars -/

/-- `ident ':' branches ';'` -/
inductive ProductionSpells (arena : Arena) : Production → List TokenSet → Prop
  /-- The name, and the branches between a colon and a semicolon. -/
  | named {production : Production} {name colon semicolon : TokenSet} {token : Token}
      {sets : List TokenSet} (offers : Offers name ident token)
      (named : production.name = token.text) (opens : Is colon ":")
      (spelt : BranchesSpell arena production.branches sets) (closes : Is semicolon ";") :
      ProductionSpells arena production (name :: colon :: sets ++ [semicolon])

/-- `'grammar' ident '{' production* '}'` -/
inductive GrammarSpells : Grammar → List TokenSet → Prop
  /-- The keyword, the name, and the productions between braces. -/
  | named {grammar : Grammar} {keyword name opening closing : TokenSet} {token : Token}
      {sets : List TokenSet} (starts : Is keyword Lexicon.keyword)
      (offers : Offers name ident token) (named : grammar.name = token.text)
      (opens : Is opening "\x7b")
      (spelt : Each (ProductionSpells grammar.arena) grammar.productions sets)
      (closes : Is closing "\x7d") :
      GrammarSpells grammar (keyword :: name :: opening :: sets ++ [closing])

end GrammarLang.Grammar
