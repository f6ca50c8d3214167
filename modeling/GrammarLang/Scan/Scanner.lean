import GrammarLang.Scan.Longest

/-! # The scanner

A **`Scanner`** stands somewhere in a source text and holds the token set there. It is advanced one
token set at a time, may look ahead without moving, and has a stack of modes that choose the rules
for the next advance: a mode that is entered or left takes effect on the text behind the current
tokens.

* **`Scanner.next`** — advance to the next token set.
* **`Scanner.peek`**, **`Scanner.matchesSequence`** — look at token sets to come. Nothing is
  evaluated, and text that no rule matches is no failure.
* **`Scanner.tryConsumeAny`**, **`Scanner.consumeAny`** — advance over an expected token.
* **`Scanner.pull`** — take several token sets in a row.

A failed operation says what the scanner is like afterwards. Every advance over a token makes the
measure **`Scanner.remaining`** smaller, so a loop that consumes a token in each round ends. -/

namespace GrammarLang.Scan

open GrammarLang.Text

/-- A source text that is read token set by token set. -/
structure Scanner where
  /-- The rules. -/
  table : RuleTable
  /-- The text. -/
  source : Source
  /-- Where the text that is not scanned yet starts. -/
  place : Cursor source
  /-- Where the last consumed token ends. -/
  previousEnd : Nat
  /-- The modes entered and not left, innermost first. -/
  entered : List String
  /-- The token set the scanner stands at; none at the end of the text. -/
  current : Option TokenSet
  /-- The token sets scanned since recording started, if it did, the latest first. -/
  recorded : Option (List TokenSet)
  /-- What the scanner has told so far, the latest first. -/
  told : List Entry

/-- What an operation of a scanner comes to: a value or a failure, and the scanner afterwards. -/
inductive Outcome (α : Type) where
  /-- The operation gave a value. -/
  | ok (value : α) (after : Scanner)
  /-- The operation failed. -/
  | failed (error : Error) (after : Scanner)

namespace Outcome

/-- The same outcome with another value. -/
def map {α β : Type} (change : α → β) : Outcome α → Outcome β
  | .ok value after => .ok (change value) after
  | .failed error after => .failed error after

/-- The scanner afterwards. -/
def after {α : Type} : Outcome α → Scanner
  | .ok _ after => after
  | .failed _ after => after

/-- The result without the scanner. -/
def result {α : Type} : Outcome α → Except Error α
  | .ok value _ => .ok value
  | .failed error _ => .error error

end Outcome

namespace Scanner

/-- Where the text not scanned yet starts. -/
def offset (scanner : Scanner) : Nat := scanner.place.offset

/-- What the scanner has told so far. -/
def journal (scanner : Scanner) : Journal := scanner.told.reverse

/-- The mode that chooses the rules for the next advance. -/
def mode (scanner : Scanner) : String := scanner.entered.head?.getD defaultMode

/-- The rules for the next advance. -/
def rules (scanner : Scanner) : List Rule := scanner.table.rulesInMode scanner.mode

/-- Whether the end of the text is reached. -/
def atEnd (scanner : Scanner) : Bool := scanner.current.isNone

/-- The tokens the scanner stands at; none at the end of the text. -/
def currentTokens (scanner : Scanner) : List Token :=
  match scanner.current with
  | some set => set.toList
  | none => []

/-- The first token the scanner stands at. -/
def token? (scanner : Scanner) : Option Token := scanner.current.map TokenSet.first

/-- Where the current tokens start, or the end of the text. -/
def currentOffset (scanner : Scanner) : Nat :=
  match scanner.current with
  | some set => set.first.span.start
  | none => scanner.offset

/-- The line and column of an offset. -/
def position (scanner : Scanner) (offset : Nat) : Position := scanner.source.position offset

/-- A measure of what is left to scan; the token set the scanner stands at counts once. -/
def remaining (scanner : Scanner) : Nat :=
  scanner.place.left + if scanner.current.isSome then 1 else 0

/-- Adds a line to the journal. -/
def tell (scanner : Scanner) (detail : Detail) (message : String) : Scanner :=
  { scanner with told := ⟨detail, message⟩ :: scanner.told }

@[simp] theorem remaining_tell (scanner : Scanner) (detail : Detail) (message : String) :
    (scanner.tell detail message).remaining = scanner.remaining := rfl

/-! ## Advancing -/

/-- The token that a rule makes of a stretch of text. -/
def evaluate (source : Source) (span : Span) (text : String) (rule : Rule) : Except Error Token :=
  match rule.evaluate text with
  | .ok value => .ok ⟨rule.name, span, text, value⟩
  | .error reason => .error (.decode rule.name text reason (source.position span.start))

/-- The tokens that some rules make of a stretch of text; the first rule for which the text has no
value decides the failure. -/
def evaluateAll (source : Source) (span : Span) (text : String) (first : Rule)
    (others : List Rule) : Except Error TokenSet := do
  return ⟨← evaluate source span text first, ← others.mapM (evaluate source span text)⟩

/-- The tokens that some rules would make of a stretch of text, without their values. -/
def glance (span : Span) (text : String) (first : Rule) (others : List Rule) : TokenSet :=
  let token (rule : Rule) : Token := ⟨rule.name, span, text, .unevaluated⟩
  ⟨token first, others.map token⟩

/-- Stands at a token set that was just scanned. -/
def stopAt (scanner : Scanner) (set : TokenSet) : Scanner :=
  { scanner with
    current := some set
    recorded := scanner.recorded.map (set :: ·) }.tell .trace
      s!"{quotedList set.rules} {set.first.span.render} {quotedString set.first.text}"

@[simp] theorem remaining_stopAt (scanner : Scanner) (set : TokenSet) :
    (scanner.stopAt set).remaining = scanner.place.left + 1 := rfl

/-- What the rules of the mode find behind ignored text, and where. -/
def finding (scanner : Scanner) : Finding × Cursor scanner.source :=
  scan scanner.rules scanner.place

/-- Scans the next token set. Ignored text before it is passed over even when the scan fails; the
current token set changes only when it succeeds. -/
def advance (scanner : Scanner) : Outcome Unit :=
  match scanner.finding with
  | (.atEnd, place) => .ok () { scanner with place, current := none }
  | (.unknown c, place) => .failed (.invalidToken c place.position) { scanner with place }
  | (.misplaced rule, place) => .failed (.misplacedMatch rule.name) { scanner with place }
  | (.mixed rules count, place) =>
    .failed (.ambiguousIgnore (place.text count) (rules.map Rule.name) place.position)
      { scanner with place }
  | (.lexeme first others count, place) =>
    match evaluateAll scanner.source (place.span count) (place.text count) first others with
    | .error error => .failed error { scanner with place }
    | .ok set => .ok () ({ scanner with place := place.skip count }.stopAt set)

/-- A scanner for a text, at its first token set. -/
def create (table : RuleTable) (source : Source) : Outcome Unit :=
  advance {
    table, source
    place := .start source
    previousEnd := 0
    entered := []
    current := none
    recorded := none
    told := [] }

/-- Consumes the current token set and scans the next one. -/
def next (scanner : Scanner) : Outcome Unit :=
  match scanner.current with
  | none => scanner.advance
  | some set => { scanner with previousEnd := set.first.span.stop }.advance

/-- Advancing leaves fewer token sets to come than characters before it. -/
theorem remaining_advance {scanner after : Scanner} (h : scanner.advance = .ok () after) :
    after.remaining ≤ scanner.place.left := by
  have hsuffix := rest_scan_suffix scanner.rules scanner.place
  simp only [advance, finding] at h
  split at h
  · rename_i place hscan
    cases h
    have hrest := rest_of_scan_eq_atEnd hscan
    simp only [remaining, place.left_eq, hrest, Option.isSome_none, List.length_nil]
    exact Nat.zero_le _
  all_goals try contradiction
  rename_i first others count place hscan
  split at h
  · contradiction
  · cases h
    obtain ⟨hpos, hne, -, -⟩ := longest_of_scan_eq_lexeme hscan
    rw [hscan] at hsuffix
    have hlen : place.rest.length ≤ scanner.place.rest.length := hsuffix.length_le
    have hplace : 0 < place.rest.length := List.length_pos_iff.2 hne
    have hleft := place.left_eq
    have hbefore := scanner.place.left_eq
    simp only [remaining_stopAt, Cursor.left_skip]
    omega

/-- Consuming a token set leaves less to scan. -/
theorem remaining_next {scanner after : Scanner} (h : scanner.next = .ok () after)
    (hcurrent : scanner.current.isSome = true) : after.remaining < scanner.remaining := by
  simp only [next] at h
  split at h
  · simp_all
  · have := remaining_advance h
    simp only [remaining, hcurrent, if_true] at this ⊢
    omega

/-! ## Looking ahead -/

/-- What the scanner stands at. -/
def sighting (scanner : Scanner) : Sighting :=
  match scanner.current with
  | some set => .tokens set
  | none => .atEnd

/-- Steps ahead to the next place, to see what is there. Nothing is evaluated. -/
def stepAhead (scanner : Scanner) : Outcome Sighting :=
  match scanner.finding with
  | (.atEnd, place) => .ok .atEnd { scanner with place, current := none }
  | (.unknown _, place) => .ok .unknown { scanner with place }
  | (.misplaced rule, place) => .failed (.misplacedMatch rule.name) { scanner with place }
  | (.mixed rules count, place) =>
    .failed (.ambiguousIgnore (place.text count) (rules.map Rule.name) place.position)
      { scanner with place }
  | (.lexeme first others count, place) =>
    let set := glance (place.span count) (place.text count) first others
    .ok (.tokens set) { scanner with place := place.skip count, current := some set }

/-- What is seen at the next `count` places, when `last` is what is seen where the scanner stands.
Behind the end of the text and behind unknown text the same is seen again. -/
def stepsAhead (scanner : Scanner) (last : Sighting) : (count : Nat) → Outcome (List Sighting)
  | 0 => .ok [] scanner
  | count + 1 =>
    match last with
    | .tokens _ =>
      match scanner.stepAhead with
      | .failed error there => .failed error there
      | .ok seen there => (there.stepsAhead seen count).map (seen :: ·)
    | other => .ok (List.replicate (count + 1) other) scanner

/-- What is seen at the next `count` places. The scanner stays where it is, whether looking ahead
succeeds or not; only a misplaced match leaves it at the place before that match. -/
def lookAhead (scanner : Scanner) (count : Nat) : Outcome (List Sighting) :=
  match scanner.stepsAhead scanner.sighting count with
  | .ok seen _ => .ok seen scanner
  | .failed (.misplacedMatch rule) there => .failed (.misplacedMatch rule) there
  | .failed error _ => .failed error scanner

/-- What is seen `count` places ahead; the scanner itself stands at place zero. -/
def peek (scanner : Scanner) (count : Nat) : Outcome Sighting :=
  (scanner.lookAhead count).map fun seen => seen.getLast?.getD scanner.sighting

/-- Whether another token set follows the current one. -/
def hasNext (scanner : Scanner) : Outcome Bool :=
  if scanner.atEnd then .ok false scanner
  else (scanner.peek 1).map fun seen =>
    match seen with
    | .tokens _ => true
    | _ => false

/-- Looking ahead leaves the scanner as it is. -/
theorem eq_of_lookAhead_eq_ok {scanner after : Scanner} {count : Nat} {seen : List Sighting}
    (h : scanner.lookAhead count = .ok seen after) : after = scanner := by
  simp only [lookAhead] at h
  split at h <;> simp_all

/-- The first current token of a rule. -/
def matching? (scanner : Scanner) (rule : String) : Option Token :=
  scanner.current.bind (·.find? rule)

/-- Whether some current token is of the rule. -/
def matchesRule (scanner : Scanner) (rule : String) : Bool := (scanner.matching? rule).isSome

/-- Whether some current token is of one of the rules. -/
def matchesAny (scanner : Scanner) (rules : List String) : Bool :=
  rules.any scanner.matchesRule

/-- The current token of the first rule, if token sets with the other rules follow it one after
another. -/
def matchesSequence (scanner : Scanner) (rules : List String) : Outcome (Option Token) :=
  match rules with
  | [] => .ok none scanner
  | rule :: others =>
    match scanner.matching? rule with
    | none => .ok none scanner
    | some token =>
      if others.isEmpty then .ok (some token) scanner
      else (scanner.lookAhead others.length).map fun seen =>
        if (others.zip seen).all fun (rule, sighting) => sighting.contains rule then some token
        else none

/-! ## Consuming tokens -/

/-- The current state as a mismatch with what was expected. -/
def unexpected (scanner : Scanner) (expected : List String) : Error :=
  match scanner.current with
  | some set =>
    .unexpectedToken expected set.first.rule set.first.text
      (scanner.position set.first.span.start)
  | none => .unexpectedEnd expected (scanner.position scanner.source.size)

/-- The current tokens of some rules, rule by rule. -/
def alternatives (scanner : Scanner) (rules : List String) : List Token :=
  rules.flatMap fun rule => scanner.currentTokens.filter fun token => token.rule = rule

/-- Consumes the current token set if exactly one of its tokens is of one of the rules. Nothing is
consumed if none is; it is a failure if several are. -/
def tryConsumeAny (scanner : Scanner) (rules : List String) : Outcome (Option Token) :=
  match scanner.alternatives rules with
  | [] => .ok none scanner
  | [token] =>
    match scanner.next with
    | .ok _ after => .ok (some token) after
    | .failed error after => .failed error after
  | first :: others =>
    .failed (.ambiguousAlternative first.text ((first :: others).map Token.rule)
      (scanner.position first.span.start)) scanner

/-- Consumes the current token set if it has a token of the rule. -/
def tryConsume (scanner : Scanner) (rule : String) : Outcome (Option Token) :=
  scanner.tryConsumeAny [rule]

/-- Consumes the current token set, which must have one token of one of the rules. -/
def consumeAny (scanner : Scanner) (rules : List String) : Outcome Token :=
  match scanner.tryConsumeAny rules with
  | .ok (some token) after => .ok token after
  | .ok none after => .failed (after.unexpected rules) after
  | .failed error after => .failed error after

/-- Consumes the current token set, which must have a token of the rule. -/
def consume (scanner : Scanner) (rule : String) : Outcome Token := scanner.consumeAny [rule]

theorem current_isSome_of_alternatives {scanner : Scanner} {rules : List String}
    (h : scanner.alternatives rules ≠ []) : scanner.current.isSome = true := by
  cases hcurrent : scanner.current with
  | some _ => rfl
  | none => simp [alternatives, currentTokens, hcurrent] at h

/-- Trying to consume leaves no more to scan, and less if a token was consumed. -/
theorem remaining_tryConsumeAny {scanner after : Scanner} {rules : List String}
    {found : Option Token} (h : scanner.tryConsumeAny rules = .ok found after) :
    after.remaining + (if found.isSome then 1 else 0) ≤ scanner.remaining := by
  simp only [tryConsumeAny] at h
  split at h
  · cases h; simp
  · rename_i token halternatives
    split at h
    · rename_i hnext
      cases h
      have hsome := current_isSome_of_alternatives (by rw [halternatives]; simp)
      have := remaining_next hnext hsome
      simp only [Option.isSome_some, if_true]
      omega
    · contradiction
  · contradiction

/-- Consuming a token leaves less to scan. -/
theorem remaining_consumeAny {scanner after : Scanner} {rules : List String} {token : Token}
    (h : scanner.consumeAny rules = .ok token after) : after.remaining < scanner.remaining := by
  simp only [consumeAny] at h
  split at h
  · rename_i htry
    cases h
    have := remaining_tryConsumeAny htry
    simp only [Option.isSome_some, if_true] at this
    omega
  · contradiction
  · contradiction

/-! ## Modes -/

/-- Enters a mode. -/
def pushMode (scanner : Scanner) (mode : String) : Scanner :=
  let inside := { scanner with entered := mode :: scanner.entered }
  let warned :=
    if scanner.table.hasMode mode then inside
    else inside.tell .warn s!"Entering mode '{mode}' which has no rules"
  warned.tell .debug s!"Push mode '{mode}' at {scanner.offset}"

/-- Leaves the mode entered last, and says which. The mode that all texts start in is never left. -/
def popMode (scanner : Scanner) : Option String × Scanner :=
  match scanner.entered with
  | [] => (none, scanner.tell .warn s!"Attempted to pop the base mode '{defaultMode}'")
  | mode :: outer =>
    (some mode, { scanner with entered := outer }.tell .debug
      s!"Pop mode Some({quotedString mode}) at {scanner.offset}")

@[simp] theorem remaining_pushMode (scanner : Scanner) (mode : String) :
    (scanner.pushMode mode).remaining = scanner.remaining := by
  simp only [pushMode]
  split <;> rfl

@[simp] theorem remaining_popMode (scanner : Scanner) :
    scanner.popMode.2.remaining = scanner.remaining := by
  simp only [popMode]
  split <;> rfl

/-! ## Token sets in a row -/

/-- Starts keeping every token set scanned from here on, the current one included. -/
def record (scanner : Scanner) : Scanner :=
  { scanner with recorded := some (scanner.current.toList ++ scanner.recorded.getD []) }

/-- The token sets kept since recording started; recording ends. -/
def takeRecorded (scanner : Scanner) : List TokenSet × Scanner :=
  ((scanner.recorded.getD []).reverse, { scanner with recorded := none })

/-- Consumes token sets one after another until the text ends, a scan fails, or `limit` items are
taken. A failure is an item of its own, behind the token set that was consumed by then; a misplaced
match comes in place of that token set. -/
def pull (scanner : Scanner) : (limit : Nat) → List (Except Error TokenSet) × Scanner
  | 0 => ([], scanner)
  | limit + 1 =>
    match scanner.current with
    | none => ([], scanner)
    | some set =>
      match scanner.next with
      | .ok _ after => let (items, last) := after.pull limit; (.ok set :: items, last)
      | .failed (.misplacedMatch rule) after => ([.error (.misplacedMatch rule)], after)
      | .failed error after => (.ok set :: [.error error].take limit, after)

/-- Consumes all token sets to come; no text has more of them than characters. -/
def pullAll (scanner : Scanner) : List (Except Error TokenSet) × Scanner :=
  scanner.pull (scanner.remaining + 1)

end Scanner

/-- All token sets of a text, or its first failure, and what was told on the way. -/
def tokenizeAloud (table : RuleTable) (source : Source) :
    Except Error (List TokenSet) × Journal :=
  match Scanner.create table source with
  | .failed error scanner => (.error error, scanner.journal)
  | .ok _ scanner =>
    let (items, last) := scanner.pullAll
    (items.mapM id, last.journal)

/-- All token sets of a text, or its first failure. -/
def tokenize (table : RuleTable) (source : Source) : Except Error (List TokenSet) :=
  (tokenizeAloud table source).1

end GrammarLang.Scan
