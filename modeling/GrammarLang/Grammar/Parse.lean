import GrammarLang.Grammar.Reply

/-! # Parsing grammars

A grammar text is parsed by recursive descent:

```
grammar    := 'grammar' ident '{' production* '}'
production := ident ':' branches ';'
branches   := branch ('|' branch)*
branch     := component*
component  := (code '?')? code? (ident '=')? element suffix* code?
element    := '~' element | ('(' | '(?=' | '(?!') branches ')' | terminal
terminal   := ident | number | string | regex
suffix     := '*' | '+' | '?' | '{' number (',' number?)? '}'
```

Each function answers with the node it has read. **`Grammar.parse`** reads a whole text,
**`Grammar.parseWithTokens`** also gives the token sets it was read from.

Code stands between braces. Inside, only braces matter to the grammar: strings, characters and
comments are single tokens, so braces in them do not count. **`Parser.codeSegment`** reads code up to
the brace that closes it.

A regular expression in a grammar stands between slashes. To find the closing slash its structure is
parsed: groups and classes are balanced, and a slash inside a class is a member of the class. What
the expression means is then up to `GrammarLang.Regex`. **`Parser.regexLiteral`** reads the expression
with its flags. -/

namespace GrammarLang.Grammar.Parser

open GrammarLang.Scan GrammarLang.Text

open Lexicon (ident number string regexChar regexEscape regexRepeat regexInlineFlags regexGroupOpen)

/-! ## Embedded code -/

/-- Consumes code up to the brace that closes it, where `depth` more braces were opened than closed
before. -/
def codeTokens (depth : Nat) (parser : Parser) : Reply Unit 0 parser :=
  if parser.sees "\x7b" then
    (parser.skip ["\x7d"]).bind (fun _ after _ => codeTokens (depth + 1) after) |>.since (by omega)
  else if parser.sees "\x7d" && depth = 0 then .done () parser
  else
    let inner := if parser.sees "\x7d" then depth - 1 else depth
    (parser.skip ["\x7d"]).bind (fun _ after _ => codeTokens inner after) |>.since (by omega)
termination_by parser.remaining

/-- `'{' (code | '{' … '}')* '}'` -/
def codeSegment (parser : Parser) : Reply CodeSegment 1 parser :=
  let opening := parser.start
  ((parser.enter Lexicon.codeMode).consume "\x7b").bind (fun _ inside _ =>
    (codeTokens 0 inside).bind fun _ behind _ =>
      (behind.leave.consume "\x7d").across behind.remaining_leave
      |>.bind fun _ after _ =>
        (after.textBetween inside.scanner.previousEnd behind.start).map fun text =>
          { span := after.spanFrom opening, text := text })
  |>.since (by simp)

/-! ## Regular expressions between slashes -/

mutual

/-- `('[' | '[^') ']'? (class | member)* ']'`; all other tokens, the slash included, are members. -/
def regexClass (parser : Parser) : Reply Unit 1 parser :=
  (parser.consumeAny ["[", "[^"]).bind (fun _ inside hinside =>
    match inside.tryConsume "]" with
    | .failed error after => .failed error after
    | .absent =>
      (regexMembers inside).bind fun _ behind _ =>
        (behind.consume "]").map fun _ => ()
    | .taken _ further hfurther =>
      (regexMembers further).since (by omega) |>.bind fun _ behind _ =>
        (behind.consume "]").map fun _ => ())
  |>.since (by omega)
termination_by 2 * parser.remaining

/-- The members of a class up to its closing bracket. -/
def regexMembers (parser : Parser) : Reply Unit 0 parser :=
  if parser.sees "]" then .done () parser
  else if parser.scanner.atEnd then parser.expected ["]"]
  else if parser.seesAny ["[", "[^"] then
    (regexClass parser).bind (fun _ after _ => regexMembers after) |>.since (by omega)
  else
    (parser.skip ["]"]).bind (fun _ after _ => regexMembers after) |>.since (by omega)
termination_by 2 * parser.remaining + 1

end

/-- `('*' | '+' | '?' | counts) '?'?`, or nothing. -/
def regexQuantifier (parser : Parser) : Reply Unit 0 parser :=
  match parser.tryConsumeAny ["*", "+", "?", regexRepeat] with
  | .failed error after => .failed error after
  | .absent => .done () parser
  | .taken _ after hafter =>
    match after.tryConsume "?" with
    | .failed error last => .failed error last
    | .absent => .ok () after (by omega)
    | .taken _ last hlast => .ok () last (by omega)

mutual

/-- `alternative ('|' alternative)*` -/
def regexDisjunction (parser : Parser) : Reply Unit 0 parser :=
  (regexAlternative parser).bind (fun _ after hafter =>
    match after.tryConsume "|" with
    | .failed error last => .failed error last
    | .absent => .done () after
    | .taken _ last hlast => (regexDisjunction last).since (by omega))
  |>.since (by omega)
termination_by 4 * parser.remaining + 3

/-- `term*` -/
def regexAlternative (parser : Parser) : Reply Unit 0 parser :=
  if parser.scanner.atEnd || parser.seesAny ["|", ")", "/"] then .done () parser
  else (regexTerm parser).bind (fun _ after _ => regexAlternative after) |>.since (by omega)
termination_by 4 * parser.remaining + 2

/-- `'^' | '$' | flags | lookaround | atom quantifier?` -/
def regexTerm (parser : Parser) : Reply Unit 1 parser :=
  match parser.tryConsumeAny ["^", "$", regexInlineFlags] with
  | .failed error after => .failed error after
  | .taken _ after hafter => .ok () after (by omega)
  | .absent =>
    match parser.tryConsumeAny ["(?=", "(?!", "(?<=", "(?<!"] with
    | .failed error after => .failed error after
    | .taken _ inside _ =>
      (regexDisjunction inside).bind (fun _ behind _ => (behind.consume ")").map fun _ => ())
      |>.since (by omega)
    | .absent => (regexAtom parser).bind fun _ after _ => regexQuantifier after
termination_by 4 * parser.remaining + 1

/-- `char | escape | '.' | '-' | ']' | class | ('(' | opening) disjunction ')'` -/
def regexAtom (parser : Parser) : Reply Unit 1 parser :=
  match parser.tryConsumeAny [regexChar, regexEscape, ".", "-", "]"] with
  | .failed error after => .failed error after
  | .taken _ after hafter => .ok () after (by omega)
  | .absent =>
    if parser.seesAny ["[", "[^"] then regexClass parser
    else
      match parser.tryConsumeAny ["(", regexGroupOpen] with
      | .failed error after => .failed error after
      | .taken _ inside _ =>
        (regexDisjunction inside).bind (fun _ behind _ => (behind.consume ")").map fun _ => ())
        |>.since (by omega)
      | .absent => parser.expected [regexChar, regexEscape, ".", "[", "("]
termination_by 4 * parser.remaining

end

/-- The name that touches the last consumed token, which is a closing slash, if there is one: its
letters are flags. -/
def regexFlags (parser : Parser) : Reply (Option Token) 0 parser :=
  match parser.scanner.matching? Lexicon.ident with
  | none => .done none parser
  | some token =>
    if token.span.start = parser.scanner.previousEnd then
      ((parser.consume Lexicon.ident).map some).since parser.remaining_le_succ
    else .done none parser

/-- The set of texts of a regular expression that starts at the offset `opening`. -/
def regexSet (parser : Parser) (opening : Nat) (source : String) (flags : Option Token) :
    Reply RegexSet 0 parser :=
  match RegexSet.compile source ((flags.map Token.text).getD "") with
  | .ok set => .done set parser
  | .error .invalidRegex => .failed (.invalidRegex source (parser.scanner.position opening)) parser
  | .error (.unknownFlag letter index) =>
    let place := (flags.map fun token => token.span.start).getD 0 + index
    .failed (.invalidRegexFlag letter (parser.scanner.position place)) parser

/-- `'/' disjunction '/' flags?` -/
def regexLiteral (parser : Parser) : Reply RegexSet 1 parser :=
  let opening := parser.start
  ((parser.enter Lexicon.regexMode).consume "/").bind (fun _ inside _ =>
    (regexDisjunction inside).bind fun _ behind _ =>
      if behind.sees "/" then
        (behind.leave.consume "/").across behind.remaining_leave
        |>.bind fun _ after _ =>
          (after.textBetween inside.scanner.previousEnd behind.start).bind fun source after _ =>
            (regexFlags after).bind fun flags after _ => regexSet after opening source flags
      else behind.expected ["/"])
  |>.since (by simp)

/-! ## Grammars -/

/-- Tokens that end a branch. -/
def branchEnds : List String := ["|", ";", ")"]

/-- Tokens that start an element. -/
def elementStarts : List String := [ident, number, string, "/", "(", "(?=", "(?!", "~"]

/-- The number that a token stands for. -/
def numberOf (token : Token) : UInt64 := token.value.asInteger?.getD 0

/-- The text that a token stands for. -/
def textOf (token : Token) : String := token.value.asText?.getD token.text

/-- `ident | number | string | regex` -/
def terminal (parser : Parser) : Reply TerminalId 1 parser :=
  match parser.tryConsume ident with
  | .failed error after => .failed error after
  | .taken token after _ => (after.intern (.ident token.text)).since (by omega)
  | .absent =>
    match parser.tryConsume number with
    | .failed error after => .failed error after
    | .taken token after _ => (after.intern (.number (numberOf token))).since (by omega)
    | .absent =>
      match parser.tryConsume string with
      | .failed error after => .failed error after
      | .taken token after _ => (after.intern (.string (textOf token))).since (by omega)
      | .absent =>
        if parser.sees "/" then
          (regexLiteral parser).bind fun set after _ => after.intern (.set set)
        else parser.expected elementStarts

/-- `number?` behind the comma of a range. -/
def upperBound (parser : Parser) : Reply (Option UInt64) 0 parser :=
  match parser.tryConsume number with
  | .failed error after => .failed error after
  | .taken token after hafter => .ok (some (numberOf token)) after (by omega)
  | .absent => .done none parser

/-- `'{' number (',' number?)? '}'` -/
def rangeSuffix (parser : Parser) : Reply Suffix 1 parser :=
  (parser.consume "\x7b").bind (fun opening inside _ =>
    (inside.consume number).bind fun lowest after _ =>
      let lower := numberOf lowest
      let upper : Reply (Option UInt64) 0 after :=
        match after.tryConsume "," with
        | .failed error last => .failed error last
        | .absent => .done (some lower) after
        | .taken _ last _ => (upperBound last).since (by omega)
      upper.bind fun upper behind _ =>
        (behind.consume "\x7d").bind fun _ last _ =>
          match upper with
          | none => .done (Suffix.ofBounds lower none) last
          | some bound =>
            if bound < lower then
              .failed (.invalidRange lower bound (last.scanner.position opening.span.start)) last
            else .done (Suffix.ofBounds lower bound) last)
  |>.since (by omega)

/-- `suffix*`; a brace opens a suffix only if a number follows it. -/
def suffixes (parser : Parser) : Reply (List Suffix) 0 parser :=
  match parser.tryConsumeAny ["*", "+", "?"] with
  | .failed error after => .failed error after
  | .taken token after _ =>
    ((suffixes after).map (Suffix.ofSign token.rule :: ·)).since (by omega)
  | .absent =>
    (parser.seesSequence ["\x7b", number]).bind (fun isRange same _ =>
      if isRange then
        (rangeSuffix same).bind (fun suffix after _ =>
          (suffixes after).map (suffix :: ·)) |>.since (by omega)
      else .done [] same)
    |>.since (by omega)
termination_by parser.remaining

/-- `(code '?')? code?` in front of an element: the predicate and the code. -/
def codeInFront (parser : Parser) :
    Reply (Option CodeSegment × Option CodeSegment) 0 parser :=
  if parser.sees "\x7b" then
    (codeSegment parser).bind (fun code after _ =>
      match after.tryConsume "?" with
      | .failed error last => .failed error last
      | .absent => .done (none, some code) after
      | .taken _ last hlast =>
        if last.sees "\x7b" then
          ((codeSegment last).map fun before => (some code, some before)).since (by omega)
        else .ok (some code, none) last (by omega))
    |>.since (by omega)
  else .done (none, none) parser

/-- `(ident '=')?`; only the sign behind it makes a name a label. -/
def labelName (parser : Parser) : Reply (Option String) 0 parser :=
  (parser.seesSequence [ident, "="]).bind (fun isLabel same _ =>
    if isLabel then
      (same.consume ident).bind (fun name after _ =>
        (after.consume "=").map fun _ => some name.text)
      |>.since (by omega)
    else .done none same)
  |>.since (by omega)

/-- `code?` behind an element. -/
def codeBehind (parser : Parser) : Reply (Option CodeSegment) 0 parser :=
  if parser.sees "\x7b" then ((codeSegment parser).map some).since parser.remaining_le_succ
  else .done none parser

/-- What a group does, by the token that opens it. -/
def groupKindOf (token : Token) : GroupKind :=
  match token.rule with
  | "(?=" => .ahead
  | "(?!" => .notAhead
  | _ => .plain

mutual

/-- `branch ('|' branch)*` -/
def branches (parser : Parser) : Reply (List Branch) 0 parser :=
  (branch parser).bind (fun first after _ =>
    match after.tryConsume "|" with
    | .failed error last => .failed error last
    | .absent => .done [first] after
    | .taken _ last _ => ((branches last).map (first :: ·)).since (by omega))
  |>.since (by omega)
termination_by 5 * parser.remaining + 4

/-- `component*` with the place of the branch. -/
def branch (parser : Parser) : Reply Branch 0 parser :=
  let start := parser.start
  (components parser).bind (fun components after _ =>
    .done { span := after.spanFrom start, components } after)
  |>.since (by omega)
termination_by 5 * parser.remaining + 3

/-- `component*` -/
def components (parser : Parser) : Reply (List Component) 0 parser :=
  if parser.seesAny branchEnds then .done [] parser
  else
    (component parser).bind (fun first after _ =>
      (components after).map (first :: ·))
    |>.since (by omega)
termination_by 5 * parser.remaining + 2

/-- `(code '?')? code? (ident '=')? element suffix* code?` -/
def component (parser : Parser) : Reply Component 1 parser :=
  let start := parser.start
  (codeInFront parser).bind (fun (predicate, codeBefore) atLabel _ =>
    (labelName atLabel).bind fun label atElement _ =>
      (element atElement).bind fun element atSuffixes _ =>
        (suffixes atSuffixes).bind fun suffixes atCode _ =>
          (codeBehind atCode).bind fun codeAfter after _ =>
            .done {
              span := after.spanFrom start
              label, predicate, codeBefore, element, suffixes, codeAfter } after)
  |>.since (by omega)
termination_by 5 * parser.remaining + 1

/-- `'~' element | ('(' | '(?=' | '(?!') branches ')' | terminal` -/
def element (parser : Parser) : Reply Element 1 parser :=
  match parser.tryConsume "~" with
  | .failed error after => .failed error after
  | .taken _ after _ => ((element after).map Element.negation).since (by omega)
  | .absent =>
    match parser.tryConsumeAny ["(", "(?=", "(?!"] with
    | .failed error after => .failed error after
    | .taken opening inside _ =>
      (branches inside).bind (fun inner behind _ =>
        (behind.consume ")").map fun _ => .group (groupKindOf opening) inner)
      |>.since (by omega)
    | .absent => (terminal parser).map Element.terminal
termination_by 5 * parser.remaining

end

/-- `ident ':' branches ';'` -/
def production (parser : Parser) : Reply Production 1 parser :=
  let start := parser.start
  (parser.consume ident).bind (fun name after _ =>
    (after.consume ":").bind fun _ after _ =>
      (branches after).bind fun choices after _ =>
        (after.consume ";").bind fun _ after _ =>
          let told := after.tell .debug
            s!"Parsed production '{name.text}' with {choices.length} alternatives"
          Reply.across (.done {
            span := told.spanFrom start
            name := name.text
            branches := choices } told) (after.remaining_tell ..))
  |>.since (by omega)

/-- `production*` -/
def productions (parser : Parser) : Reply (List Production) 0 parser :=
  if parser.sees ident then
    (production parser).bind (fun first after _ =>
      (productions after).map (first :: ·))
    |>.since (by omega)
  else .done [] parser
termination_by parser.remaining

/-- `'grammar' ident '{' production* '}'`, up to the end of the text. -/
def wholeGrammar (parser : Parser) : Reply Grammar 0 parser :=
  let start := parser.start
  (parser.consume Lexicon.keyword).bind (fun _ after _ =>
    (after.consume ident).bind fun name after _ =>
      (after.consume "\x7b").bind fun _ after _ =>
        (productions after).bind fun productions after _ =>
          if after.sees "\x7d" then
            (after.consume "\x7d").bind fun _ after _ =>
              if after.scanner.atEnd then
                .done {
                  span := after.spanFrom start
                  name := name.text
                  productions
                  arena := after.arena } after
              else after.expected ["end of input"]
          else after.expected [ident, "\x7d"])
  |>.since (by omega)

end GrammarLang.Grammar.Parser

namespace GrammarLang

open GrammarLang.Scan GrammarLang.Text

/-- A result, and what was told on the way to it. -/
structure Report (α : Type) where
  /-- The value, or why there is none. -/
  result : Except Grammar.ParseError α
  /-- What was told. -/
  journal : Journal

namespace Grammar

/-- Runs a parsing function on a text, from a scanner that `prepare` makes ready. -/
def run (source : Source) (prepare : Scanner → Scanner) :
    Except ParseError (Grammar × Scanner) × Journal :=
  match Lexicon.table with
  | .error error => (.error (.lexical error), [])
  | .ok table =>
    match Scanner.create table source with
    | .failed error scanner => (.error (.lexical error), scanner.journal)
    | .ok _ scanner =>
      match Parser.wholeGrammar ⟨prepare scanner, .empty⟩ with
      | .failed error after => (.error error, after.scanner.journal)
      | .ok grammar after _ => (.ok (grammar, after.scanner), after.scanner.journal)

/-- The grammar that a text spells. -/
def parse (source : Source) : Report Grammar :=
  let (result, journal) := run source id
  ⟨result.map Prod.fst, journal⟩

/-- The grammar that a text spells, and every token set it was read from. -/
def parseWithTokens (source : Source) : Report (Grammar × List TokenSet) :=
  let (result, journal) := run source Scanner.record
  ⟨result.map fun (grammar, scanner) => (grammar, scanner.takeRecorded.1), journal⟩

end Grammar

end GrammarLang
