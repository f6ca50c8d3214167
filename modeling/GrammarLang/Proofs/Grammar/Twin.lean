import GrammarLang.Proofs.Grammar.Standing

/-! # Parsers side by side

Two runs of the parser are compared by following a parser and its *twin* step by step. A
**`Twinning`** says when they are at the same point of their work and what their failures, tokens and
places have to do with each other; **`Reply.Twins`** lifts this to what a function of the parser
answers. If a twinning is **`Lawful`**, which is about single steps of the scanner, then the functions
for code and for regular expressions keep parsers side by side: **`Parser.codeTokens_twins`**,
**`Parser.regexDisjunction_twins`**.

The first parser need not be followed to its end: below the `horizon` nothing more is asked of the
twin, and a `lenient` twinning asks nothing where the first parser fails. A parser is its own twin if
something is to be shown of one run. -/

namespace GrammarLang.Grammar

open GrammarLang.Scan GrammarLang.Text

open Lexicon (ident)

/-- How a parser and its twin are compared. -/
structure Twinning where
  /-- They are at the same point of their work. -/
  beside : Parser → Parser → Prop
  /-- A parser with less left than this is not followed any further. -/
  horizon : Nat
  /-- Nothing is asked of the twin where the first parser fails. -/
  lenient : Prop
  /-- The failures of the two. -/
  failures : ParseError → ParseError → Prop
  /-- The tokens that they take. -/
  tokens : Token → Token → Prop
  /-- The places of the nodes that they give. -/
  spans : Span → Span → Prop
  /-- The terminals of the nodes that they give, each in an arena. -/
  terminals : Arena → Arena → TerminalId → TerminalId → Prop
  /-- A parser that is not followed any further may fail. -/
  lenient_of_horizon : 0 < horizon → lenient

variable {twinning : Twinning} {α β : Type} {least least' more more' : Nat} {parser twin : Parser}

namespace Reply

/-- What the twin answers fits what the parser answers: a value for a value, and a failure for a
failure. `values` compares the values, together with the parsers that they come with. -/
def Twins (twinning : Twinning) (values : Parser → Parser → α → α → Prop)
    (reply : Reply α least parser) (reply' : Reply α least' twin) : Prop :=
  match reply with
  | .ok value after _ => after.remaining < twinning.horizon ∨
      ∃ value' after', reply'.Gives value' after' ∧ twinning.beside after after' ∧
        values after after' value value'
  | .failed error _ => twinning.lenient ∨
      ∃ error' after', reply' = .failed error' after' ∧ twinning.failures error error'

namespace Twins

variable {values values' : Parser → Parser → α → α → Prop} {results : Parser → Parser → β → β → Prop}
  {reply : Reply α least parser} {reply' : Reply α least' twin}

theorem done {value value' : α} (hbeside : twinning.beside parser twin)
    (hvalues : values parser twin value value') :
    (Reply.done value parser).Twins twinning values (Reply.done value' twin) :=
  .inr ⟨value', twin, gives_done.2 ⟨rfl, rfl⟩, hbeside, hvalues⟩

theorem ok {value value' : α} {after after' : Parser}
    {used : after.remaining + least ≤ parser.remaining}
    {used' : after'.remaining + least' ≤ twin.remaining} (hbeside : twinning.beside after after')
    (hvalues : values after after' value value') :
    (Reply.ok value after used).Twins twinning values (Reply.ok value' after' used') :=
  .inr ⟨value', after', gives_ok.2 ⟨rfl, rfl⟩, hbeside, hvalues⟩

theorem failed {error error' : ParseError} {after after' : Parser}
    (hfailures : twinning.lenient ∨ twinning.failures error error') :
    (Reply.failed error after : Reply α least parser).Twins twinning values
      (Reply.failed error' after' : Reply α least' twin) :=
  hfailures.imp id fun h => ⟨error', after', rfl, h⟩

/-- A lenient twinning asks something of successes only. -/
theorem of_gives (hlenient : twinning.lenient)
    (h : ∀ value after, reply.Gives value after → twinning.horizon ≤ after.remaining →
      ∃ value' after', reply'.Gives value' after' ∧ twinning.beside after after' ∧
        values after after' value value') : reply.Twins twinning values reply' := by
  cases reply with
  | ok value after used =>
    exact (Nat.lt_or_ge after.remaining twinning.horizon).imp id (h value after ⟨used, rfl⟩)
  | failed error after => exact .inl hlenient

/-- What is given in front of the horizon is given by the twin as well. -/
theorem exists_gives (h : reply.Twins twinning values reply') {value : α} {after : Parser}
    (hgives : reply.Gives value after) (hhorizon : twinning.horizon ≤ after.remaining) :
    ∃ value' after', reply'.Gives value' after' ∧ twinning.beside after after' ∧
      values after after' value value' := by
  obtain ⟨used, rfl⟩ := hgives
  exact h.resolve_left (Nat.not_lt.2 hhorizon)

theorem since {earlier earlier' : Parser} {fewer fewer' : Nat}
    {used : parser.remaining + fewer ≤ earlier.remaining + least}
    {used' : twin.remaining + fewer' ≤ earlier'.remaining + least'}
    (h : reply.Twins twinning values reply') :
    (reply.since used).Twins twinning values (reply'.since used') := by
  cases reply with
  | ok value after _ =>
    refine Or.imp_right ?_ h
    rintro ⟨value', after', hgives, hafter⟩
    exact ⟨value', after', gives_since.2 hgives, hafter⟩
  | failed error after =>
    refine Or.imp_right ?_ h
    rintro ⟨error', after', rfl, hfailures⟩
    exact ⟨error', after', rfl, hfailures⟩

theorem across {other other' : Parser} {same : parser.remaining = other.remaining}
    {same' : twin.remaining = other'.remaining} (h : reply.Twins twinning values reply') :
    (reply.across same).Twins twinning values (reply'.across same') := by
  cases reply with
  | ok value after _ =>
    refine Or.imp_right ?_ h
    rintro ⟨value', after', hgives, hafter⟩
    exact ⟨value', after', gives_across.2 hgives, hafter⟩
  | failed error after =>
    refine Or.imp_right ?_ h
    rintro ⟨error', after', rfl, hfailures⟩
    exact ⟨error', after', rfl, hfailures⟩

theorem mono (h : reply.Twins twinning values reply')
    (himp : ∀ value value' after after', reply.Gives value after → reply'.Gives value' after' →
      values after after' value value' → values' after after' value value') :
    reply.Twins twinning values' reply' := by
  cases reply with
  | ok value after used =>
    refine Or.imp_right ?_ h
    rintro ⟨value', after', hgives, hbeside, hvalues⟩
    exact ⟨value', after', hgives, hbeside, himp _ _ _ _ ⟨used, rfl⟩ hgives hvalues⟩
  | failed error after => exact h

theorem map {change change' : α → β} (h : reply.Twins twinning values reply')
    (himp : ∀ value value' after after', reply.Gives value after → reply'.Gives value' after' →
      values after after' value value' → results after after' (change value) (change' value')) :
    (reply.map change).Twins twinning results (reply'.map change') := by
  cases reply with
  | ok value after used =>
    refine Or.imp_right ?_ h
    rintro ⟨value', after', hgives, hbeside, hvalues⟩
    exact ⟨change' value', after', gives_map.2 ⟨value', hgives, rfl⟩, hbeside,
      himp _ _ _ _ ⟨used, rfl⟩ hgives hvalues⟩
  | failed error after =>
    refine Or.imp_right ?_ h
    rintro ⟨error', after', rfl, hfailures⟩
    exact ⟨error', after', rfl, hfailures⟩

/-- Two steps in a row keep parsers side by side if each of them does. -/
theorem bind
    {next : (value : α) → (after : Parser) → after.remaining + least ≤ parser.remaining →
      Reply β more after}
    {next' : (value : α) → (after : Parser) → after.remaining + least' ≤ twin.remaining →
      Reply β more' after}
    (h : reply.Twins twinning values reply')
    (hnext : ∀ value value' after after' (hgives : reply.Gives value after)
      (hgives' : reply'.Gives value' after'), twinning.beside after after' →
      values after after' value value' →
      (next value after hgives.remaining_le).Twins twinning results
        (next' value' after' hgives'.remaining_le)) :
    (reply.bind next).Twins twinning results (reply'.bind next') := by
  cases reply with
  | failed error after =>
    refine Or.imp_right ?_ h
    rintro ⟨error', after', rfl, hfailures⟩
    exact ⟨error', after', rfl, hfailures⟩
  | ok value after used =>
    simp only [Reply.bind]
    rcases h with hlost | ⟨value', after', hgives', hbeside, hvalues⟩
    · -- The parser was not to be followed already before the second step.
      cases next value after used with
      | failed error last => exact .inl (twinning.lenient_of_horizon (Nat.zero_lt_of_lt hlost))
      | ok result last hlast => exact .inl (by omega)
    · have hsecond := hnext value value' after after' ⟨used, rfl⟩ hgives' hbeside hvalues
      obtain ⟨used', rfl⟩ := hgives'
      cases hresult : next value after used with
      | failed error last =>
        rw [hresult] at hsecond
        refine Or.imp_right ?_ hsecond
        rintro ⟨error', last', hfailed, hfailures⟩
        exact ⟨error', last', by simp only [hfailed], hfailures⟩
      | ok result last hlast =>
        rw [hresult] at hsecond
        refine Or.imp_right ?_ hsecond
        rintro ⟨result', last', ⟨hlast', hgives⟩, hafter⟩
        exact ⟨result', last', ⟨by omega, by simp only [hgives]⟩, hafter⟩

end Twins

end Reply

/-- All that is answered lies below the horizon. -/
def Reply.Lost (twinning : Twinning) (reply : Reply α least parser) : Prop :=
  ∀ value after, reply.Gives value after → after.remaining < twinning.horizon

namespace Reply.Lost

/-- Below the horizon all answers are. -/
theorem since {earlier : Parser} {fewer : Nat} {reply : Reply α least parser}
    {used : parser.remaining + fewer ≤ earlier.remaining + least}
    (h : parser.remaining < twinning.horizon) : (reply.since used).Lost twinning := by
  intro value after hgives
  have hle := (gives_since.1 hgives).remaining_le
  omega

theorem since_of_lost {earlier : Parser} {fewer : Nat} {reply : Reply α least parser}
    {used : parser.remaining + fewer ≤ earlier.remaining + least} (h : reply.Lost twinning) :
    (reply.since used).Lost twinning :=
  fun value after hgives => h value after (gives_since.1 hgives)

theorem ok {value : α} {after : Parser} {used : after.remaining + least ≤ parser.remaining}
    (h : after.remaining < twinning.horizon) : (Reply.ok value after used).Lost twinning := by
  rintro _ _ hgives
  obtain ⟨-, rfl⟩ := gives_ok.1 hgives
  exact h

theorem bind {reply : Reply α least parser}
    {next : (value : α) → (after : Parser) → after.remaining + least ≤ parser.remaining →
      Reply β more after} (h : reply.Lost twinning) : (reply.bind next).Lost twinning := by
  intro result last hgives
  obtain ⟨value, after, hfirst, hsecond⟩ := gives_bind.1 hgives
  have hbelow := h value after hfirst
  have hle := hsecond.remaining_le
  omega

/-- Nothing is asked of the twin of a parser that is not to be followed. -/
theorem twins {values : Parser → Parser → α → α → Prop} {reply : Reply α least parser}
    {reply' : Reply α least' twin} (h : reply.Lost twinning) (hlenient : twinning.lenient) :
    reply.Twins twinning values reply' := by
  cases reply with
  | ok value after used => exact .inl (h value after ⟨used, rfl⟩)
  | failed error after => exact .inl hlenient

end Reply.Lost

/-- What the twin finds in an attempt fits what the parser finds. -/
def Attempt.Twins (twinning : Twinning) (attempt : Attempt parser) (attempt' : Attempt twin) : Prop :=
  match attempt with
  | .taken token after _ => after.remaining < twinning.horizon ∨
      ∃ token' after' used, attempt' = .taken token' after' used ∧ twinning.beside after after' ∧
        twinning.tokens token token'
  | .absent => attempt' = .absent
  | .failed error _ => twinning.lenient ∨
      ∃ error' after', attempt' = .failed error' after' ∧ twinning.failures error error'

/-- Rules that no token set has two tokens of: only the keyword is a name at the same time. -/
def Askable (rules : List String) : Prop :=
  rules.Nodup ∧ ¬ (Lexicon.keyword ∈ rules ∧ ident ∈ rules)

instance (rules : List String) : Decidable (Askable rules) :=
  inferInstanceAs (Decidable (_ ∧ ¬ _))

/-- What a twinning has to say of single steps, so that it says the same of parsing functions. -/
structure Twinning.Lawful (twinning : Twinning) : Prop where
  /-- The parser and the twin stand at tokens that fit, one by one. -/
  current : ∀ {parser twin}, twinning.beside parser twin →
    List.Forall₂ twinning.tokens parser.scanner.currentTokens twin.scanner.currentTokens
  /-- The tokens are of the same rule, with the same text and value. -/
  same : ∀ {token token'}, twinning.tokens token token' →
    token'.rule = token.rule ∧ token'.text = token.text ∧ token'.value = token.value
  /-- The parser is never asked to choose between two tokens. -/
  single : ∀ {parser twin rules}, twinning.beside parser twin → Askable rules →
    twinning.lenient ∨ (parser.scanner.alternatives rules).length ≤ 1
  /-- Behind the current tokens they are side by side again. -/
  next : ∀ {parser twin}, twinning.beside parser twin → parser.scanner.currentTokens ≠ [] →
    match parser.scanner.next with
    | .ok _ scanner => (parser.withScanner scanner).remaining < twinning.horizon ∨
        ∃ scanner', twin.scanner.next = .ok () scanner' ∧
          twinning.beside (parser.withScanner scanner) (twin.withScanner scanner')
    | .failed error _ => twinning.lenient ∨ ∃ error' scanner',
        twin.scanner.next = .failed error' scanner' ∧
          twinning.failures (.lexical error) (.lexical error')
  /-- A mismatch of the parser is one of the twin. -/
  unexpected : ∀ {parser twin}, twinning.beside parser twin → ∀ names, twinning.lenient ∨
    twinning.failures (.lexical (parser.scanner.unexpected names))
      (.lexical (twin.scanner.unexpected names))

namespace Parser

variable {rules : List String} {rule : String}

theorem forall₂_filter_rule {tokens : Token → Token → Prop} {left right : List Token}
    (hsame : ∀ {token token'}, tokens token token' → token'.rule = token.rule)
    (h : List.Forall₂ tokens left right) (rule : String) :
    List.Forall₂ tokens (left.filter fun token => token.rule = rule)
      (right.filter fun token => token.rule = rule) := by
  induction h with
  | nil => exact .nil
  | cons htoken _ ih =>
    simp only [List.filter_cons, hsame htoken]
    split
    · exact .cons htoken ih
    · exact ih

/-- The parser sees the rules of the current tokens. -/
theorem sees_eq_any (parser : Parser) (rule : String) :
    parser.sees rule = parser.scanner.currentTokens.any fun token => token.rule = rule := by
  rw [sees, Scanner.matchesRule, Scanner.matching?, Scanner.currentTokens]
  cases parser.scanner.current with
  | none => rfl
  | some set => exact List.isSome_find?

/-- There is nothing to choose from where there is no token. -/
theorem alternatives_of_nil {scanner : Scanner} (h : scanner.currentTokens = [])
    (rules : List String) : scanner.alternatives rules = [] := by
  rw [Scanner.alternatives, h]
  exact List.flatMap_eq_nil_iff.2 fun _ _ => rfl

/-- An attempt fails where the scan behind the token fails. -/
theorem tryConsumeAny_of_next_failed {token : Token} {error : Error} {scanner : Scanner}
    (halternatives : parser.scanner.alternatives rules = [token])
    (hnext : parser.scanner.next = .failed error scanner) :
    parser.tryConsumeAny rules = .failed (.lexical error) (parser.withScanner scanner) := by
  have htry : parser.scanner.tryConsumeAny rules = .failed error scanner := by
    simp only [Scanner.tryConsumeAny, halternatives, hnext]
  rw [tryConsumeAny]
  split
  all_goals
    rename_i heq
    cases htry.symm.trans heq
  rfl

/-- An attempt fails where there are several tokens to choose from. -/
theorem tryConsumeAny_of_many {first second : Token} {others : List Token}
    (halternatives : parser.scanner.alternatives rules = first :: second :: others) :
    ∃ text names position, parser.tryConsumeAny rules =
      .failed (.lexical (.ambiguousAlternative text names position)) parser := by
  have htry : ∃ text names position, parser.scanner.tryConsumeAny rules =
      .failed (.ambiguousAlternative text names position) parser.scanner := by
    simp only [Scanner.tryConsumeAny, halternatives]
    exact ⟨_, _, _, rfl⟩
  obtain ⟨text, names, position, htry⟩ := htry
  rw [tryConsumeAny]
  split
  all_goals
    rename_i heq
    cases htry.symm.trans heq
  exact ⟨text, names, position, rfl⟩

/-- An attempt fails for no other reason than these two. -/
theorem cases_of_attempt_failed {error : ParseError} {after : Parser}
    (h : parser.tryConsumeAny rules = .failed error after) :
    (∃ token failure scanner, parser.scanner.alternatives rules = [token] ∧
      parser.scanner.next = .failed failure scanner ∧ error = .lexical failure ∧
      after = parser.withScanner scanner) ∨
    ∃ text names position, error = .lexical (.ambiguousAlternative text names position) ∧
      after = parser := by
  cases halternatives : parser.scanner.alternatives rules with
  | nil =>
    rw [lacks_iff.1 halternatives] at h
    contradiction
  | cons token others =>
    cases others with
    | nil =>
      cases hnext : parser.scanner.next with
      | ok _ scanner =>
        obtain ⟨used, htaken⟩ := takes_iff.1 ⟨halternatives, scanner, hnext, rfl⟩
        rw [htaken] at h
        contradiction
      | failed failure scanner =>
        rw [tryConsumeAny_of_next_failed halternatives hnext] at h
        cases h
        exact .inl ⟨token, failure, scanner, rfl, rfl, rfl, rfl⟩
    | cons second others =>
      obtain ⟨text, names, position, hfailed⟩ := tryConsumeAny_of_many halternatives
      rw [hfailed] at h
      cases h
      exact .inr ⟨text, names, position, rfl, rfl⟩

/-- Consuming a token is an attempt that must find one. -/
theorem consumeAny_eq (parser : Parser) (rules : List String) :
    parser.consumeAny rules =
      match parser.tryConsumeAny rules with
      | .failed error middle => .failed error middle
      | .taken token middle used => .ok token middle used
      | .absent => parser.expected rules := by
  cases hattempt : parser.tryConsumeAny rules with
  | taken token middle used =>
    obtain ⟨_, hgives⟩ := gives_consumeAny.2 (takes_iff.2 ⟨used, hattempt⟩)
    exact hgives
  | absent =>
    have htry := tryConsumeAny_eq_none_iff.2 (lacks_iff.2 hattempt)
    have hconsume : parser.scanner.consumeAny rules =
        .failed (parser.scanner.unexpected rules) parser.scanner := by
      rw [Scanner.consumeAny, htry]
    rw [consumeAny]
    split
    all_goals
      rename_i heq
      cases hconsume.symm.trans heq
    rfl
  | failed error middle =>
    rw [tryConsumeAny] at hattempt
    split at hattempt
    · contradiction
    · contradiction
    · rename_i scannerError scanner htry
      cases hattempt
      have hconsume : parser.scanner.consumeAny rules = .failed scannerError scanner := by
        rw [Scanner.consumeAny, htry]
      rw [consumeAny]
      split
      all_goals
        rename_i heq
        cases hconsume.symm.trans heq
      rfl

/-- Where there is a token, skipping it is a step of the scanner. -/
theorem skip_eq {names : List String} (hsome : parser.scanner.currentTokens ≠ []) :
    (∀ scanner, parser.scanner.next = .ok () scanner →
      (parser.skip names).Gives () (parser.withScanner scanner)) ∧
    (∀ error scanner, parser.scanner.next = .failed error scanner →
      parser.skip names = .failed (.lexical error) (parser.withScanner scanner)) := by
  cases hcurrent : parser.scanner.current with
  | none => simp [Scanner.currentTokens, hcurrent] at hsome
  | some set =>
    refine ⟨fun scanner hnext => gives_skip.2 ⟨set, hcurrent, scanner, hnext, rfl⟩,
      fun error scanner hnext => ?_⟩
    rw [skip]
    split
    · rename_i hnone
      cases hcurrent.symm.trans hnone
    · split
      all_goals
        rename_i heq
        cases hnext.symm.trans heq
      rfl

theorem atEnd_eq_isEmpty (scanner : Scanner) : scanner.atEnd = scanner.currentTokens.isEmpty := by
  rw [Scanner.atEnd, Scanner.currentTokens]
  cases scanner.current <;> rfl

section Steps

variable (hlaw : twinning.Lawful) (h : twinning.beside parser twin)
include hlaw h

/-- The tokens to choose from fit one by one. -/
theorem alternatives_twins (rules : List String) :
    List.Forall₂ twinning.tokens (parser.scanner.alternatives rules)
      (twin.scanner.alternatives rules) := by
  have hcurrent := hlaw.current h
  simp only [Scanner.alternatives]
  induction rules with
  | nil => exact .nil
  | cons rule rules ih =>
    simp only [List.flatMap_cons]
    exact List.rel_append (forall₂_filter_rule (fun htoken => (hlaw.same htoken).1) hcurrent rule) ih

theorem sees_twins (rule : String) : twin.sees rule = parser.sees rule := by
  have hcurrent := hlaw.current h
  rw [sees_eq_any, sees_eq_any]
  generalize parser.scanner.currentTokens = left at hcurrent
  generalize twin.scanner.currentTokens = right at hcurrent
  induction hcurrent with
  | nil => rfl
  | cons htoken _ ih => rw [List.any_cons, List.any_cons, ih, (hlaw.same htoken).1]

theorem seesAny_twins (rules : List String) : twin.seesAny rules = parser.seesAny rules := by
  have hsees : twin.scanner.matchesRule = parser.scanner.matchesRule :=
    funext (sees_twins hlaw h)
  rw [seesAny, Scanner.matchesAny, hsees]
  rfl

theorem atEnd_twins : twin.scanner.atEnd = parser.scanner.atEnd := by
  have hcurrent := hlaw.current h
  rw [atEnd_eq_isEmpty, atEnd_eq_isEmpty]
  generalize parser.scanner.currentTokens = left at hcurrent
  generalize twin.scanner.currentTokens = right at hcurrent
  cases hcurrent <;> rfl

/-- A mismatch is a mismatch for both. -/
theorem expected_twins {values : Parser → Parser → α → α → Prop} (names : List String) :
    (parser.expected names : Reply α least parser).Twins twinning values
      (twin.expected names : Reply α least' twin) :=
  .failed (hlaw.unexpected h names)

/-- Trying to consume a token keeps parsers side by side. -/
theorem tryConsumeAny_twins (hrules : Askable rules) :
    (parser.tryConsumeAny rules).Twins twinning (twin.tryConsumeAny rules) := by
  have halternatives := alternatives_twins hlaw h rules
  have hsingle := hlaw.single h hrules
  have hnext := hlaw.next h
  cases hparser : parser.scanner.alternatives rules with
  | nil =>
    rw [hparser, List.forall₂_nil_left_iff] at halternatives
    rw [lacks_iff.1 hparser]
    exact lacks_iff.1 halternatives
  | cons token others =>
    rw [hparser] at hsingle
    specialize hnext fun hnil => by
      rw [alternatives_of_nil hnil] at hparser
      contradiction
    cases others with
    | nil =>
      rw [hparser, List.forall₂_cons_left_iff] at halternatives
      obtain ⟨token', others', htoken, hothers, halternatives⟩ := halternatives
      obtain rfl := List.forall₂_nil_left_iff.1 hothers
      cases hscanner : parser.scanner.next with
      | ok _ scanner =>
        rw [hscanner] at hnext
        obtain ⟨used, htakes⟩ := takes_iff.1 ⟨hparser, scanner, hscanner, rfl⟩
        rw [htakes]
        refine hnext.imp id ?_
        rintro ⟨scanner', hscanner', hbeside⟩
        obtain ⟨used', htakes'⟩ := takes_iff.1 ⟨halternatives, scanner', hscanner', rfl⟩
        exact ⟨token', _, used', htakes', hbeside, htoken⟩
      | failed error scanner =>
        rw [hscanner] at hnext
        rw [tryConsumeAny_of_next_failed hparser hscanner]
        refine hnext.imp id ?_
        rintro ⟨error', scanner', hscanner', hfailures⟩
        exact ⟨_, _, tryConsumeAny_of_next_failed halternatives hscanner', hfailures⟩
    | cons second others =>
      obtain ⟨text, names, position, hfailed⟩ := tryConsumeAny_of_many hparser
      rw [hfailed]
      exact .inl (hsingle.resolve_right (by simp))

/-- What goes on from an attempt keeps parsers side by side behind the token taken, and where there was
none. -/
theorem attempt_twins {values : Parser → Parser → α → α → Prop} {earlier earlier' : Parser}
    {absent : Reply α least earlier} {absent' : Reply α least' earlier'}
    {taken : (token : Token) → (middle : Parser) → middle.remaining + 1 ≤ parser.remaining →
      Reply α least earlier}
    {taken' : (token : Token) → (middle : Parser) → middle.remaining + 1 ≤ twin.remaining →
      Reply α least' earlier'}
    (hrules : Askable rules)
    (hlost : ∀ token after used, after.remaining < twinning.horizon →
      (taken token after used).Lost twinning)
    (htaken : ∀ token token' after after' (htakes : parser.Takes rules token after)
      (htakes' : twin.Takes rules token' after'), twinning.beside after after' →
      twinning.tokens token token' →
      (taken token after htakes.remaining_le).Twins twinning values
        (taken' token' after' htakes'.remaining_le))
    (habsent : parser.Lacks rules → absent.Twins twinning values absent') :
    (match parser.tryConsumeAny rules with
      | .failed error middle => Reply.failed error middle
      | .taken token middle used => taken token middle used
      | .absent => absent).Twins twinning values
    (match twin.tryConsumeAny rules with
      | .failed error middle => Reply.failed error middle
      | .taken token middle used => taken' token middle used
      | .absent => absent') := by
  have hattempt := tryConsumeAny_twins hlaw h hrules
  cases hparser : parser.tryConsumeAny rules with
  | failed error middle =>
    rw [hparser] at hattempt
    refine Or.imp_right ?_ hattempt
    rintro ⟨error', middle', hfailed, hfailures⟩
    exact ⟨error', middle', by simp only [hfailed], hfailures⟩
  | absent =>
    rw [hparser] at hattempt
    simp only [show twin.tryConsumeAny rules = .absent from hattempt]
    exact habsent (lacks_iff.2 hparser)
  | taken token middle used =>
    rw [hparser] at hattempt
    rcases hattempt with hbelow | ⟨token', middle', used', htwin, hbeside, htoken⟩
    · exact (hlost token middle used hbelow).twins
        (twinning.lenient_of_horizon (Nat.zero_lt_of_lt hbelow))
    · simp only [htwin]
      exact htaken _ _ _ _ (takes_iff.2 ⟨used, hparser⟩) (takes_iff.2 ⟨used', htwin⟩) hbeside htoken

/-- The same where the failure to find a token is looked at first. -/
theorem attempt_absent_twins {values : Parser → Parser → α → α → Prop} {earlier earlier' : Parser}
    {absent : Reply α least earlier} {absent' : Reply α least' earlier'}
    {taken : (token : Token) → (middle : Parser) → middle.remaining + 1 ≤ parser.remaining →
      Reply α least earlier}
    {taken' : (token : Token) → (middle : Parser) → middle.remaining + 1 ≤ twin.remaining →
      Reply α least' earlier'}
    (hrules : Askable rules)
    (hlost : ∀ token after used, after.remaining < twinning.horizon →
      (taken token after used).Lost twinning)
    (htaken : ∀ token token' after after' (htakes : parser.Takes rules token after)
      (htakes' : twin.Takes rules token' after'), twinning.beside after after' →
      twinning.tokens token token' →
      (taken token after htakes.remaining_le).Twins twinning values
        (taken' token' after' htakes'.remaining_le))
    (habsent : parser.Lacks rules → absent.Twins twinning values absent') :
    (match parser.tryConsumeAny rules with
      | .failed error middle => Reply.failed error middle
      | .absent => absent
      | .taken token middle used => taken token middle used).Twins twinning values
    (match twin.tryConsumeAny rules with
      | .failed error middle => Reply.failed error middle
      | .absent => absent'
      | .taken token middle used => taken' token middle used) := by
  have hattempt := attempt_twins hlaw h hrules hlost htaken habsent
  cases hparser : parser.tryConsumeAny rules <;> cases htwin : twin.tryConsumeAny rules <;>
    simpa only [hparser, htwin] using hattempt

/-- Consuming a token keeps parsers side by side. -/
theorem consumeAny_twins (hrules : Askable rules) :
    (parser.consumeAny rules).Twins twinning (fun _ _ => twinning.tokens) (twin.consumeAny rules) := by
  rw [consumeAny_eq, consumeAny_eq]
  exact attempt_twins hlaw h hrules (fun _ _ _ hbelow => .ok hbelow)
    (fun _ _ _ _ _ _ hbeside htoken => .ok hbeside htoken) fun _ => expected_twins hlaw h rules

/-- Skipping the current tokens keeps parsers side by side. -/
theorem skip_twins (names : List String) :
    (parser.skip names).Twins twinning (fun _ _ _ _ => True) (twin.skip names) := by
  have hcurrent := hlaw.current h
  by_cases hnil : parser.scanner.currentTokens = []
  · rw [hnil, List.forall₂_nil_left_iff] at hcurrent
    have hexpected : ∀ {other : Parser}, other.scanner.currentTokens = [] →
        other.skip names = other.expected names := by
      intro other hother
      rw [skip]
      split
      · rfl
      · rename_i set hset
        simp [Scanner.currentTokens, hset, TokenSet.toList] at hother
    rw [hexpected hnil, hexpected hcurrent]
    exact expected_twins hlaw h names
  · have hsome : twin.scanner.currentTokens ≠ [] := by
      intro hnil'
      rw [hnil', List.forall₂_nil_right_iff] at hcurrent
      exact hnil hcurrent
    have hnext := hlaw.next h hnil
    cases hscanner : parser.scanner.next with
    | ok _ scanner =>
      rw [hscanner] at hnext
      obtain ⟨used, hskip⟩ := (skip_eq hnil).1 scanner hscanner
      rw [hskip]
      refine hnext.imp id ?_
      rintro ⟨scanner', hscanner', hbeside⟩
      exact ⟨(), _, (skip_eq hsome).1 scanner' hscanner', hbeside, trivial⟩
    | failed error scanner =>
      rw [hscanner] at hnext
      rw [(skip_eq hnil).2 error scanner hscanner]
      refine hnext.imp id ?_
      rintro ⟨error', scanner', hscanner', hfailures⟩
      exact ⟨_, _, (skip_eq hsome).2 error' scanner' hscanner', hfailures⟩

end Steps

/-! ## Code and regular expressions

Each function is followed along its own recursion. -/

/-- Nothing is said of values. -/
def anyValues (_ _ : Parser) (_ _ : Unit) : Prop := True

theorem codeTokens_twins (hlaw : twinning.Lawful) {depth : Nat} {parser twin : Parser}
    (h : twinning.beside parser twin) :
    (codeTokens depth parser).Twins twinning anyValues (codeTokens depth twin) := by
  -- All branches but the last skip the current tokens.
  have hskip (inner : Nat) : ((parser.skip ["\x7d"]).bind fun _ after _ =>
      codeTokens inner after).Twins twinning anyValues
        ((twin.skip ["\x7d"]).bind fun _ after _ => codeTokens inner after) :=
    (skip_twins hlaw h _).bind fun _ _ after after' hgives _ hbeside _ =>
      have hless := hgives.remaining_le
      codeTokens_twins hlaw hbeside
  rw [codeTokens, codeTokens]
  simp only [sees_twins hlaw h]
  split
  · exact (hskip _).since
  · split
    · exact .done h trivial
    · exact (hskip _).since
termination_by parser.remaining

mutual

theorem regexClass_twins (hlaw : twinning.Lawful) {parser twin : Parser}
    (h : twinning.beside parser twin) :
    (regexClass parser).Twins twinning anyValues (regexClass twin) := by
  rw [regexClass, regexClass]
  refine ((consumeAny_twins hlaw h (by decide)).bind fun _ _ inside inside' hgives _ hinside _ =>
    ?_).since
  have hless := hgives.remaining_le
  have hclosing {behind behind' : Parser} (hbehind : twinning.beside behind behind') :
      ((behind.consume "]").map fun _ => ()).Twins twinning anyValues
        ((behind'.consume "]").map fun _ => ()) :=
    (consumeAny_twins hlaw hbehind (by decide)).map fun _ _ _ _ _ _ _ => trivial
  refine attempt_absent_twins hlaw hinside (by decide) (fun _ _ _ hbelow => .bind (.since hbelow)) ?_
    ?_
  · intro _ _ further further' htakes _ hfurther _
    have hless' := htakes.remaining_le
    exact (regexMembers_twins hlaw hfurther).since.bind
      fun _ _ _ _ _ _ hbehind _ => hclosing hbehind
  · exact fun _ => (regexMembers_twins hlaw hinside).bind
      fun _ _ _ _ _ _ hbehind _ => hclosing hbehind
termination_by 2 * parser.remaining

theorem regexMembers_twins (hlaw : twinning.Lawful) {parser twin : Parser}
    (h : twinning.beside parser twin) :
    (regexMembers parser).Twins twinning anyValues (regexMembers twin) := by
  rw [regexMembers, regexMembers]
  simp only [sees_twins hlaw h, seesAny_twins hlaw h, atEnd_twins hlaw h]
  split
  · exact .done h trivial
  · split
    · exact expected_twins hlaw h _
    · split
      · refine ((regexClass_twins hlaw h).bind fun _ _ after after' hgives _ hbeside _ => ?_).since
        have hless := hgives.remaining_le
        exact regexMembers_twins hlaw hbeside
      · refine ((skip_twins hlaw h _).bind fun _ _ after after' hgives _ hbeside _ => ?_).since
        have hless := hgives.remaining_le
        exact regexMembers_twins hlaw hbeside
termination_by 2 * parser.remaining + 1

end

theorem regexQuantifier_twins (hlaw : twinning.Lawful) (h : twinning.beside parser twin) :
    (regexQuantifier parser).Twins twinning anyValues (regexQuantifier twin) := by
  rw [regexQuantifier, regexQuantifier]
  refine attempt_absent_twins hlaw h (by decide) ?_ ?_ fun _ => .done h trivial
  · intro _ after _ hbelow _ last hgives
    obtain ⟨_, _, hmark, hlast⟩ | ⟨-, hlast⟩ := gives_attempt_absent.1 hgives
    · obtain ⟨-, rfl⟩ := Reply.gives_ok.1 hlast
      have hless := hmark.remaining_le
      omega
    · obtain ⟨-, rfl⟩ := Reply.gives_ok.1 hlast
      exact hbelow
  · intro _ _ after after' _ _ hbeside _
    exact attempt_absent_twins hlaw hbeside (by decide) (fun _ _ _ hbelow => .ok hbelow)
      (fun _ _ _ _ _ _ hlast _ => .ok hlast trivial) fun _ => .ok hbeside trivial

mutual

theorem regexDisjunction_twins (hlaw : twinning.Lawful) {parser twin : Parser}
    (h : twinning.beside parser twin) :
    (regexDisjunction parser).Twins twinning anyValues (regexDisjunction twin) := by
  rw [regexDisjunction, regexDisjunction]
  refine ((regexAlternative_twins hlaw h).bind fun _ _ after after' hgives _ hafter _ => ?_).since
  have hless := hgives.remaining_le
  refine attempt_absent_twins hlaw hafter (by decide) (fun _ _ _ hbelow => .since hbelow) ?_
    fun _ => .done hafter trivial
  intro _ _ last last' htakes _ hlast _
  have hless' := htakes.remaining_le
  exact (regexDisjunction_twins hlaw hlast).since
termination_by 4 * parser.remaining + 3

theorem regexAlternative_twins (hlaw : twinning.Lawful) {parser twin : Parser}
    (h : twinning.beside parser twin) :
    (regexAlternative parser).Twins twinning anyValues (regexAlternative twin) := by
  rw [regexAlternative, regexAlternative]
  simp only [seesAny_twins hlaw h, atEnd_twins hlaw h]
  split
  · exact .done h trivial
  · refine ((regexTerm_twins hlaw h).bind fun _ _ after after' hgives _ hafter _ => ?_).since
    have hless := hgives.remaining_le
    exact regexAlternative_twins hlaw hafter
termination_by 4 * parser.remaining + 2

theorem regexTerm_twins (hlaw : twinning.Lawful) {parser twin : Parser}
    (h : twinning.beside parser twin) :
    (regexTerm parser).Twins twinning anyValues (regexTerm twin) := by
  rw [regexTerm, regexTerm]
  refine attempt_twins hlaw h (by decide) (fun _ _ _ hbelow => .ok hbelow)
    (fun _ _ _ _ _ _ hafter _ => .ok hafter trivial) fun _ => ?_
  refine attempt_twins hlaw h (by decide) (fun _ _ _ hbelow => .since hbelow) ?_ fun _ => ?_
  · intro _ _ inside inside' htakes _ hinside _
    have hless := htakes.remaining_le
    exact ((regexDisjunction_twins hlaw hinside).bind fun _ _ _ _ _ _ hbehind _ =>
      (consumeAny_twins hlaw hbehind (by decide)).map fun _ _ _ _ _ _ _ => trivial).since
  · exact (regexAtom_twins hlaw h).bind fun _ _ _ _ _ _ hafter _ => regexQuantifier_twins hlaw hafter
termination_by 4 * parser.remaining + 1

theorem regexAtom_twins (hlaw : twinning.Lawful) {parser twin : Parser}
    (h : twinning.beside parser twin) :
    (regexAtom parser).Twins twinning anyValues (regexAtom twin) := by
  rw [regexAtom, regexAtom]
  refine attempt_twins hlaw h (by decide) (fun _ _ _ hbelow => .ok hbelow)
    (fun _ _ _ _ _ _ hafter _ => .ok hafter trivial) fun _ => ?_
  simp only [seesAny_twins hlaw h]
  split
  · exact regexClass_twins hlaw h
  · refine attempt_twins hlaw h (by decide) (fun _ _ _ hbelow => .since hbelow) ?_
      fun _ => expected_twins hlaw h _
    intro _ _ inside inside' htakes _ hinside _
    have hless := htakes.remaining_le
    exact ((regexDisjunction_twins hlaw hinside).bind fun _ _ _ _ _ _ hbehind _ =>
      (consumeAny_twins hlaw hbehind (by decide)).map fun _ _ _ _ _ _ _ => trivial).since
termination_by 4 * parser.remaining

end

end Parser

end GrammarLang.Grammar
