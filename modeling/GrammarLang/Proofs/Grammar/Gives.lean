import GrammarLang.Grammar.Parse

/-! # The successes of parsing steps

**`Reply.Gives`** says that a reply is a success, with a value and a state. For each way to put
replies together a lemma says when the whole gives a value, and for each step that touches the
scanner it says so in terms of the scanner:

* **`Parser.Takes`** — the current token set has one token of some rules, and is consumed.
* **`Parser.Lacks`** — it has none.
* **`Parser.Skips`** — it is consumed, whatever it is. -/

namespace GrammarLang.Grammar

open GrammarLang.Scan GrammarLang.Text

namespace Reply

variable {α β : Type} {least more : Nat} {parser : Parser}

/-- The reply is a success with the given value, which leaves the parser in the given state. -/
def Gives (reply : Reply α least parser) (value : α) (after : Parser) : Prop :=
  ∃ used, reply = .ok value after used

/-- A reply gives one value at most. -/
theorem Gives.unique {reply : Reply α least parser} {value value' : α} {after after' : Parser}
    (h : reply.Gives value after) (h' : reply.Gives value' after') :
    value = value' ∧ after = after' := by
  obtain ⟨_, rfl⟩ := h
  obtain ⟨_, h'⟩ := h'
  cases h'
  exact ⟨rfl, rfl⟩

/-- A success has consumed as many tokens as its type says. -/
theorem Gives.remaining_le {reply : Reply α least parser} {value : α} {after : Parser}
    (h : reply.Gives value after) : after.remaining + least ≤ parser.remaining := by
  obtain ⟨used, -⟩ := h
  exact used

@[simp] theorem gives_ok {value value' : α} {after after' : Parser}
    {used : after.remaining + least ≤ parser.remaining} :
    (Reply.ok value after used).Gives value' after' ↔ value = value' ∧ after = after' := by
  constructor
  · rintro ⟨_, h⟩
    cases h
    exact ⟨rfl, rfl⟩
  · rintro ⟨rfl, rfl⟩
    exact ⟨used, rfl⟩

@[simp] theorem not_gives_failed {error : ParseError} {after after' : Parser} {value : α} :
    ¬ (Reply.failed error after : Reply α least parser).Gives value after' := by
  rintro ⟨_, h⟩
  contradiction

@[simp] theorem gives_done {value value' : α} {after : Parser} :
    (Reply.done value parser).Gives value' after ↔ value = value' ∧ parser = after := gives_ok

/-- Two steps in a row give what the second gives where the first has led. -/
@[simp] theorem gives_bind {reply : Reply α least parser} {value : β} {after : Parser}
    {next : (value : α) → (after : Parser) → after.remaining + least ≤ parser.remaining →
      Reply β more after} :
    (reply.bind next).Gives value after ↔ ∃ first middle,
      ∃ h : reply.Gives first middle, (next first middle h.remaining_le).Gives value after := by
  cases reply with
  | failed error after => simp [bind]
  | ok first middle hmiddle =>
    simp only [bind]
    constructor
    · intro h
      refine ⟨first, middle, gives_ok.2 ⟨rfl, rfl⟩, ?_⟩
      cases hnext : next first middle hmiddle with
      | failed error last => simp [hnext] at h
      | ok result last hlast => simpa [hnext] using h
    · rintro ⟨first', middle', hfirst, h⟩
      obtain ⟨rfl, rfl⟩ := gives_ok.1 hfirst
      cases hnext : next first middle hmiddle with
      | failed error last => simp [hnext] at h
      | ok result last hlast => simpa [hnext] using h

/-- There is one value only that a step without a value gives. -/
@[simp] theorem exists_unit {holds : Unit → Prop} : (∃ value, holds value) ↔ holds () :=
  ⟨fun ⟨_, h⟩ => h, fun h => ⟨(), h⟩⟩

@[simp] theorem gives_map {reply : Reply α least parser} {change : α → β} {value : β}
    {after : Parser} :
    (reply.map change).Gives value after ↔ ∃ before, reply.Gives before after ∧
      change before = value := by
  cases reply with
  | failed error after => simp [map]
  | ok before after' used =>
    simp only [map, gives_ok]
    constructor
    · rintro ⟨rfl, rfl⟩
      exact ⟨before, ⟨rfl, rfl⟩, rfl⟩
    · rintro ⟨_, ⟨rfl, rfl⟩, rfl⟩
      exact ⟨rfl, rfl⟩

@[simp] theorem gives_since {earlier after : Parser} {fewer : Nat} {reply : Reply α least parser}
    {h : parser.remaining + fewer ≤ earlier.remaining + least} {value : α} :
    (reply.since h).Gives value after ↔ reply.Gives value after := by
  cases reply <;> simp [since]

@[simp] theorem gives_across {other after : Parser} {reply : Reply α least other}
    {h : other.remaining = parser.remaining} {value : α} :
    (reply.across h).Gives value after ↔ reply.Gives value after := by
  cases reply <;> simp [across]

end Reply

/-! ## What the scanner does -/

/-- A scanner consumes a token set in an attempt if one token of it fits. -/
theorem tryConsumeAny_eq_some_iff {scanner after : Scanner} {rules : List String} {token : Token} :
    scanner.tryConsumeAny rules = .ok (some token) after ↔
      scanner.alternatives rules = [token] ∧ scanner.next = .ok () after := by
  simp only [Scanner.tryConsumeAny]
  split
  · rename_i hnone
    simp [hnone]
  · rename_i one hone
    cases scanner.next <;> simp [hone]
  · rename_i first others hone hmany
    constructor
    · intro h
      cases h
    · rintro ⟨heq, -⟩
      obtain ⟨-, rfl⟩ := List.cons.inj (hmany.symm.trans heq)
      simp at hone

/-- A scanner stays where it is in an attempt if no token fits. -/
theorem tryConsumeAny_eq_none_iff {scanner : Scanner} {rules : List String} :
    scanner.tryConsumeAny rules = .ok none scanner ↔ scanner.alternatives rules = [] := by
  simp only [Scanner.tryConsumeAny]
  split
  · rename_i hnone
    simp [hnone]
  · rename_i one hone
    cases scanner.next <;> simp [hone]
  · rename_i first others hone hmany
    simp [hmany]

/-- A scanner consumes a token set if one token of it fits. -/
theorem consumeAny_eq_ok_iff {scanner after : Scanner} {rules : List String} {token : Token} :
    scanner.consumeAny rules = .ok token after ↔
      scanner.alternatives rules = [token] ∧ scanner.next = .ok () after := by
  rw [← tryConsumeAny_eq_some_iff]
  simp only [Scanner.consumeAny]
  split <;> rename_i heq <;> simp [heq]

namespace Parser

variable {parser after : Parser} {rules : List String} {token : Token}

/-- The current token set has exactly one token of one of the rules, and is consumed. -/
def Takes (parser : Parser) (rules : List String) (token : Token) (after : Parser) : Prop :=
  parser.scanner.alternatives rules = [token] ∧
    ∃ scanner, parser.scanner.next = .ok () scanner ∧ after = parser.withScanner scanner

/-- The current token set has no token of one of the rules. -/
def Lacks (parser : Parser) (rules : List String) : Prop := parser.scanner.alternatives rules = []

/-- The current token set is consumed. -/
def Skips (parser : Parser) (set : TokenSet) (after : Parser) : Prop :=
  parser.scanner.current = some set ∧
    ∃ scanner, parser.scanner.next = .ok () scanner ∧ after = parser.withScanner scanner

/-- Skipping a token set leaves less to parse. -/
theorem Skips.remaining_le {set : TokenSet} (h : parser.Skips set after) :
    after.remaining + 1 ≤ parser.remaining := by
  obtain ⟨hcurrent, scanner, hnext, rfl⟩ := h
  exact Scanner.remaining_next hnext (by rw [hcurrent]; rfl)

/-- What is taken is a token of the current token set, which is skipped so. -/
theorem Takes.skips (h : parser.Takes rules token after) :
    ∃ set, parser.Skips set after ∧ token ∈ set.toList ∧ token.rule ∈ rules := by
  obtain ⟨halternatives, hnext⟩ := h
  have hmem : token ∈ parser.scanner.alternatives rules := by rw [halternatives]; simp
  cases hcurrent : parser.scanner.current with
  | none => simp [Scanner.alternatives, Scanner.currentTokens, hcurrent] at hmem
  | some set =>
    simp only [Scanner.alternatives, Scanner.currentTokens, hcurrent, List.mem_flatMap,
      List.mem_filter, decide_eq_true_eq] at hmem
    obtain ⟨rule, hrule, htoken, rfl⟩ := hmem
    exact ⟨set, ⟨hcurrent, hnext⟩, htoken, hrule⟩

/-- An attempt takes a token where one can be taken. -/
theorem takes_iff : parser.Takes rules token after ↔
    ∃ used, parser.tryConsumeAny rules = .taken token after used := by
  rw [Takes, tryConsumeAny]
  constructor
  · rintro ⟨halternatives, scanner, hnext, rfl⟩
    have htry := tryConsumeAny_eq_some_iff.2 ⟨halternatives, hnext⟩
    refine ⟨Scanner.remaining_tryConsumeAny htry, ?_⟩
    split
    all_goals
      rename_i heq
      cases htry.symm.trans heq
    rfl
  · rintro ⟨used, h⟩
    split at h
    · rename_i found scanner htry
      cases h
      obtain ⟨halternatives, hnext⟩ := tryConsumeAny_eq_some_iff.1 htry
      exact ⟨halternatives, _, hnext, rfl⟩
    · contradiction
    · contradiction

/-- An attempt finds nothing where there is nothing to be taken. -/
theorem lacks_iff : parser.Lacks rules ↔ parser.tryConsumeAny rules = .absent := by
  rw [Lacks, tryConsumeAny]
  constructor
  · intro halternatives
    have htry := tryConsumeAny_eq_none_iff.2 halternatives
    split
    all_goals
      rename_i heq
      cases htry.symm.trans heq
    rfl
  · intro h
    split at h
    · contradiction
    · rename_i scanner htry
      have hsame : scanner = parser.scanner := by
        simp only [Scanner.tryConsumeAny] at htry
        split at htry
        · cases htry
          rfl
        · split at htry <;> cases htry
        · cases htry
      exact tryConsumeAny_eq_none_iff.1 (hsame ▸ htry)
    · contradiction

/-- Taking a token leaves less to parse. -/
theorem Takes.remaining_le (h : parser.Takes rules token after) :
    after.remaining + 1 ≤ parser.remaining := by
  obtain ⟨used, -⟩ := takes_iff.1 h
  exact used

/-- What goes on from an attempt gives a value behind the token taken, or where there was none. -/
theorem gives_attempt {α : Type} {least : Nat} {earlier : Parser} {value : α}
    {absent : Reply α least earlier}
    {taken : (token : Token) → (middle : Parser) → middle.remaining + 1 ≤ parser.remaining →
      Reply α least earlier} :
    (match parser.tryConsumeAny rules with
      | .failed error middle => Reply.failed error middle
      | .taken token middle used => taken token middle used
      | .absent => absent).Gives value after ↔
      (∃ token middle, ∃ h : parser.Takes rules token middle,
        (taken token middle h.remaining_le).Gives value after) ∨
      parser.Lacks rules ∧ absent.Gives value after := by
  cases h : parser.tryConsumeAny rules with
  | failed error middle => simp [takes_iff, lacks_iff, h]
  | absent => simp [takes_iff, lacks_iff, h]
  | taken token middle used =>
    simp only [lacks_iff, h, reduceCtorEq, false_and, or_false]
    constructor
    · intro hgives
      exact ⟨token, middle, takes_iff.2 ⟨used, h⟩, hgives⟩
    · rintro ⟨token', middle', htakes, hgives⟩
      obtain ⟨_, heq⟩ := takes_iff.1 htakes
      cases h.symm.trans heq
      exact hgives

/-- The same where the failure to find a token is looked at first. -/
theorem gives_attempt_absent {α : Type} {least : Nat} {earlier : Parser} {value : α}
    {absent : Reply α least earlier}
    {taken : (token : Token) → (middle : Parser) → middle.remaining + 1 ≤ parser.remaining →
      Reply α least earlier} :
    (match parser.tryConsumeAny rules with
      | .failed error middle => Reply.failed error middle
      | .absent => absent
      | .taken token middle used => taken token middle used).Gives value after ↔
      (∃ token middle, ∃ h : parser.Takes rules token middle,
        (taken token middle h.remaining_le).Gives value after) ∨
      parser.Lacks rules ∧ absent.Gives value after := by
  rw [← gives_attempt]
  cases parser.tryConsumeAny rules <;> rfl

@[simp] theorem gives_consumeAny :
    (parser.consumeAny rules).Gives token after ↔ parser.Takes rules token after := by
  rw [Takes, consumeAny]
  constructor
  · rintro ⟨used, h⟩
    split at h
    · rename_i scanner hconsume
      cases h
      obtain ⟨halternatives, hnext⟩ := consumeAny_eq_ok_iff.1 hconsume
      exact ⟨halternatives, _, hnext, rfl⟩
    · contradiction
  · rintro ⟨halternatives, scanner, hnext, rfl⟩
    have hconsume := consumeAny_eq_ok_iff.2 ⟨halternatives, hnext⟩
    refine ⟨Scanner.remaining_consumeAny hconsume, ?_⟩
    split
    all_goals
      rename_i heq
      cases hconsume.symm.trans heq
    rfl

@[simp] theorem gives_consume {rule : String} :
    (parser.consume rule).Gives token after ↔ parser.Takes [rule] token after := gives_consumeAny

@[simp] theorem not_gives_expected {α : Type} {least : Nat} {names : List String} {value : α} :
    ¬ (parser.expected names : Reply α least parser).Gives value after := Reply.not_gives_failed

@[simp] theorem gives_skip {names : List String} {value : Unit} :
    (parser.skip names).Gives value after ↔ ∃ set, parser.Skips set after := by
  simp only [Skips, skip]
  constructor
  · rintro ⟨used, h⟩
    split at h
    · contradiction
    · rename_i set hcurrent
      split at h
      · rename_i hnext
        cases h
        exact ⟨set, hcurrent, _, hnext, rfl⟩
      · contradiction
  · rintro ⟨set, hcurrent, scanner, hnext, rfl⟩
    refine ⟨Scanner.remaining_next hnext (by rw [hcurrent]; rfl), ?_⟩
    split
    · simp_all
    · split
      · rename_i heq
        cases hnext.symm.trans heq
        rfl
      · rename_i heq
        cases hnext.symm.trans heq

/-- Looking ahead for token sets of some rules in a row succeeds, and finds them or not. -/
def Foresees (parser : Parser) (rules : List String) (found : Bool) : Prop :=
  ∃ first scanner, parser.scanner.matchesSequence rules = .ok first scanner ∧
    first.isSome = found

/-- Looking ahead leaves the state alone. -/
@[simp] theorem gives_seesSequence {found : Bool} :
    (parser.seesSequence rules).Gives found after ↔
      parser.Foresees rules found ∧ parser = after := by
  rw [seesSequence, Foresees]
  split
  · rename_i first scanner hsequence
    simp only [Reply.gives_done, hsequence, Outcome.ok.injEq]
    constructor
    · rintro ⟨rfl, rfl⟩
      exact ⟨⟨first, scanner, ⟨rfl, rfl⟩, rfl⟩, rfl⟩
    · rintro ⟨⟨_, _, ⟨rfl, rfl⟩, rfl⟩, rfl⟩
      exact ⟨rfl, rfl⟩
  · rename_i hsequence
    simp [hsequence]

@[simp] theorem gives_textBetween {start stop : Nat} {text : String} :
    (parser.textBetween start stop).Gives text after ↔
      parser.scanner.source.slice? ⟨start, stop⟩ = some text ∧ parser = after := by
  rw [textBetween]
  split
  · rename_i heq
    simp [heq]
  · rename_i heq
    simp [heq]

@[simp] theorem gives_intern {terminal : Terminal} {id : TerminalId} :
    (parser.intern terminal).Gives id after ↔
      (parser.arena.intern terminal).1 = id ∧
        { parser with arena := (parser.arena.intern terminal).2 } = after := by
  exact Reply.gives_ok

end Parser

end GrammarLang.Grammar
