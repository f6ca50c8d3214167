import GrammarLang.Grammar.Lexicon
import GrammarLang.Grammar.ParseError
import GrammarLang.Grammar.Tree
import GrammarLang.Scan.Scanner

/-! # Steps of a parser

A **`Parser`** is a scanner together with the terminals met so far. What one of its functions
answers is a **`Reply`**, which carries the proof that a success used up tokens: at least `least` of
them were consumed. The replies of several steps are put together by **`Reply.bind`**, so each
function of the parser shows in its type whether it makes progress, and that makes its recursion
well founded. -/

namespace GrammarLang.Grammar

open GrammarLang.Scan GrammarLang.Text

/-- The state of parsing. -/
structure Parser where
  /-- What is left of the text. -/
  scanner : Scanner
  /-- The terminals met so far. -/
  arena : Arena

/-- What is left to parse. -/
def Parser.remaining (parser : Parser) : Nat := parser.scanner.remaining

/-- What takes a token is also an answer that promises none. -/
theorem Parser.remaining_le_succ (parser : Parser) : parser.remaining + 0 ≤ parser.remaining + 1 :=
  Nat.le_succ _

/-- The answer of a parsing function that started in the state `parser`. -/
inductive Reply (α : Type) (least : Nat) (parser : Parser) where
  /-- The function gave a value and consumed at least `least` tokens. -/
  | ok (value : α) (after : Parser) (used : after.remaining + least ≤ parser.remaining)
  /-- The function failed. -/
  | failed (error : ParseError) (after : Parser)

namespace Reply

variable {α β : Type} {least more : Nat} {parser : Parser}

/-- Goes on from a success. -/
def bind (reply : Reply α least parser)
    (next : (value : α) → (after : Parser) → after.remaining + least ≤ parser.remaining →
      Reply β more after) : Reply β (least + more) parser :=
  match reply with
  | .failed error after => .failed error after
  | .ok value middle hmiddle =>
    match next value middle hmiddle with
    | .failed error after => .failed error after
    | .ok result after hafter => .ok result after (by omega)

/-- Changes the value of a success. -/
def map (change : α → β) : Reply α least parser → Reply β least parser
  | .failed error after => .failed error after
  | .ok value after used => .ok (change value) after used

/-- The same answer, seen from an earlier state or promising less. -/
def since {earlier : Parser} {fewer : Nat} (reply : Reply α least parser)
    (h : parser.remaining + fewer ≤ earlier.remaining + least) : Reply α fewer earlier :=
  match reply with
  | .failed error after => .failed error after
  | .ok value after used => .ok value after (by omega)

/-- The same answer, seen from a state with as much to parse. -/
def across {other : Parser} (reply : Reply α least other)
    (h : other.remaining = parser.remaining) : Reply α least parser :=
  match reply with
  | .failed error after => .failed error after
  | .ok value after used => .ok value after (by omega)

/-- A success that consumed nothing. -/
def done (value : α) (parser : Parser) : Reply α 0 parser := .ok value parser (Nat.le_refl _)

end Reply

/-- The answer of a function that may find nothing to consume, and then leaves the state alone. -/
inductive Attempt (parser : Parser) where
  /-- A token was consumed. -/
  | taken (token : Token) (after : Parser) (used : after.remaining + 1 ≤ parser.remaining)
  /-- Nothing fits. -/
  | absent
  /-- The function failed. -/
  | failed (error : ParseError) (after : Parser)

namespace Parser

/-- The same parser with another scanner. -/
def withScanner (parser : Parser) (scanner : Scanner) : Parser := { parser with scanner }

@[simp] theorem remaining_withScanner (parser : Parser) (scanner : Scanner) :
    (parser.withScanner scanner).remaining = scanner.remaining := rfl

/-- Where the current token starts. -/
def start (parser : Parser) : Nat := parser.scanner.currentOffset

/-- From an offset to the end of the last consumed token. -/
def spanFrom (parser : Parser) (start : Nat) : Span := ⟨start, max parser.scanner.previousEnd start⟩

/-- Whether some current token is of the rule. -/
def sees (parser : Parser) (rule : String) : Bool := parser.scanner.matchesRule rule

/-- Whether some current token is of one of the rules. -/
def seesAny (parser : Parser) (rules : List String) : Bool := parser.scanner.matchesAny rules

/-- Fails because something else was expected here. -/
def expected {α : Type} {least : Nat} (parser : Parser) (names : List String) :
    Reply α least parser :=
  .failed (.lexical (parser.scanner.unexpected names)) parser

/-- Adds a line to the journal. -/
def tell (parser : Parser) (detail : Detail) (message : String) : Parser :=
  parser.withScanner (parser.scanner.tell detail message)

/-- Enters a mode of the scanner. -/
def enter (parser : Parser) (mode : String) : Parser :=
  parser.withScanner (parser.scanner.pushMode mode)

/-- Leaves the mode of the scanner that was entered last. -/
def leave (parser : Parser) : Parser := parser.withScanner parser.scanner.popMode.2

@[simp] theorem remaining_tell (parser : Parser) (detail : Detail) (message : String) :
    (parser.tell detail message).remaining = parser.remaining := rfl

@[simp] theorem remaining_enter (parser : Parser) (mode : String) :
    (parser.enter mode).remaining = parser.remaining := by
  simp [enter, remaining, withScanner]

@[simp] theorem remaining_leave (parser : Parser) : parser.leave.remaining = parser.remaining := by
  simp [leave, remaining, withScanner]

/-- Consumes a token of one of the rules. -/
def consumeAny (parser : Parser) (rules : List String) : Reply Token 1 parser :=
  match h : parser.scanner.consumeAny rules with
  | .ok token scanner => .ok token (parser.withScanner scanner) (Scanner.remaining_consumeAny h)
  | .failed error scanner => .failed (.lexical error) (parser.withScanner scanner)

/-- Consumes a token of the rule. -/
def consume (parser : Parser) (rule : String) : Reply Token 1 parser := parser.consumeAny [rule]

/-- Consumes a token of one of the rules, if there is one. -/
def tryConsumeAny (parser : Parser) (rules : List String) : Attempt parser :=
  match h : parser.scanner.tryConsumeAny rules with
  | .ok (some token) scanner =>
    .taken token (parser.withScanner scanner) (Scanner.remaining_tryConsumeAny h)
  | .ok none _ => .absent
  | .failed error scanner => .failed (.lexical error) (parser.withScanner scanner)

/-- Consumes a token of the rule, if there is one. -/
def tryConsume (parser : Parser) (rule : String) : Attempt parser := parser.tryConsumeAny [rule]

/-- Consumes the current tokens, whatever they are, unless the text ends here; there `names` were
expected. -/
def skip (parser : Parser) (names : List String) : Reply Unit 1 parser :=
  match hcurrent : parser.scanner.current with
  | none => parser.expected names
  | some _ =>
    match h : parser.scanner.next with
    | .ok _ scanner =>
      .ok () (parser.withScanner scanner) (Scanner.remaining_next h (by rw [hcurrent]; rfl))
    | .failed error scanner => .failed (.lexical error) (parser.withScanner scanner)

/-- Whether token sets of the rules follow one another, from the current one on. -/
def seesSequence (parser : Parser) (rules : List String) : Reply Bool 0 parser :=
  match parser.scanner.matchesSequence rules with
  | .ok found _ => .done found.isSome parser
  | .failed error scanner => .failed (.lexical error) (parser.withScanner scanner)

/-- The text between two offsets. -/
def textBetween (parser : Parser) (start stop : Nat) : Reply String 0 parser :=
  match parser.scanner.source.slice? ⟨start, stop⟩ with
  | some text => .done text parser
  | none => .failed (.outsideText ⟨start, stop⟩) parser

/-- The place of a terminal in the arena. -/
def intern (parser : Parser) (terminal : Terminal) : Reply TerminalId 0 parser :=
  let (id, arena) := parser.arena.intern terminal
  .ok id { parser with arena } (Nat.le_refl _)

end Parser

end GrammarLang.Grammar
