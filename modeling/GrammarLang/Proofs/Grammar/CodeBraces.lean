import GrammarLang.Proofs.Grammar.Brackets
import GrammarLang.Proofs.Grammar.Calls
import GrammarLang.Proofs.Grammar.CodeClosed
import GrammarLang.Proofs.Grammar.Marks
import GrammarLang.Proofs.Grammar.Placed
import GrammarLang.Proofs.Scan.Retry

/-! # Code ends at the brace that matches

The text behind an opening brace is cut into token sets by the rules of code, which never fail
(**`Parser.exists_munch_code`**). The parser reads these sets and counts how many more braces are
opened than closed. So what it comes to is told by the sets alone, whatever the text
(**`Parser.Stands.codeCourse`**): it stops in front of the first brace that closes more than is open,
or goes on to the end of the text, where it fails. Behind the closing brace the text is scanned
outside of code again, as it is where the mode is left before the brace is consumed.

* **`Parser.CodeCourse`** — the two ways that reading code can take, given its token sets.
* **`Parser.ReadsCode`**, **`Parser.FailsBehind`** — what becomes of code that is closed.
* **`codeSegment_closes`** — both together, for every text. -/

namespace GrammarLang.Grammar

open GrammarLang.Scan GrammarLang.Text

namespace Parser

variable {parser middle after : Parser} {entered : List String} {text : List Char}
  {set : TokenSet} {sets : List TokenSet} {source : Source} {depth : Nat}

/-! ## What is seen -/

/-- What is seen is told by the current token set. -/
theorem sees_eq_contains (hcurrent : parser.scanner.current = some set) (rule : String) :
    parser.sees rule = set.contains rule := by
  rw [sees, Scanner.matchesRule, Scanner.matching?, hcurrent]
  rfl

/-- A token that is seen is the only one to choose from, if its rule can be asked for. -/
theorem StandsIn.exists_alternative (h : parser.StandsIn source) {rule : String}
    (hrule : Askable [rule]) (hsees : parser.sees rule = true) :
    ∃ token, parser.scanner.alternatives [rule] = [token] := by
  obtain ⟨set, hcurrent, token, hoffers⟩ := current_of_sees hsees
  have hne : parser.scanner.alternatives [rule] ≠ [] := by
    intro hnil
    rw [Scanner.alternatives_eq_nil_iff] at hnil
    have hmem : token ∈ parser.scanner.fitting [rule] := by
      rw [Scanner.mem_fitting, Scanner.currentTokens, hcurrent, hoffers.rule_eq]
      exact ⟨hoffers.mem, List.mem_singleton_self rule⟩
    rw [hnil] at hmem
    contradiction
  have hle := h.length_alternatives_le hrule
  have hpos := List.length_pos_iff.2 hne
  exact List.length_eq_one_iff.1 (by omega)

/-- A token that is the only one to choose from is taken where the scanner advances. -/
theorem failure?_consume {rule : String} {token : Token} {error : Error} {scanner : Scanner}
    (halternatives : parser.scanner.alternatives [rule] = [token])
    (hnext : parser.scanner.next = .failed error scanner) :
    (parser.consume rule).failure? = some (.lexical error, parser.withScanner scanner) := by
  have hconsume : parser.scanner.consumeAny [rule] = .failed error scanner := by
    rw [Scanner.consumeAny, Scanner.tryConsumeAny, halternatives]
    simp only [hnext]
  rw [consume, consumeAny]
  split
  · rename_i heq
    cases hconsume.symm.trans heq
  · rename_i heq
    cases hconsume.symm.trans heq
    rfl

/-! ## Cutting code off a text -/

/-- By the rules of code, every text is cut into token sets up to its end. -/
theorem exists_munch_code {table : RuleTable} (h : Lexicon.table = .ok table) (offset : Nat)
    (text : List Char) :
    ∃ sets stop, Munch (table.rulesInMode Lexicon.codeMode) (offset, text) sets (stop, []) := by
  obtain ⟨current, stop, hfirst⟩ := exists_first_code h offset text
  cases current with
  | none =>
    have hmunch := hfirst.munch
    obtain ⟨end', rest⟩ := stop
    obtain rfl := hfirst.rest_eq_nil rfl
    exact ⟨[], end', hmunch⟩
  | some set =>
    have hless : stop.2.length < text.length := by
      obtain ⟨gap, front, htext, -, hlexeme, -⟩ := hfirst.cut
      have hpos := List.length_pos_iff.2 hlexeme.front_ne_nil
      simp only at htext
      rw [htext, List.length_append, List.length_append]
      omega
    obtain ⟨sets, end', hmunch⟩ := exists_munch_code h stop.1 stop.2
    exact ⟨set :: sets, end', hfirst.munch.append hmunch⟩
termination_by text.length

/-- Nothing fails by the rules of code. -/
theorem not_fails_code {table : RuleTable} (h : Lexicon.table = .ok table)
    (place : Nat × List Char) (error : Error) :
    ¬ Fails (table.rulesInMode Lexicon.codeMode) source place error := by
  intro hfails
  -- A cut that is stuck here has no token sets, while there is one that reaches the end.
  obtain ⟨sets, stop, hmunch⟩ := exists_munch_code h place.1 place.2
  have hhere : Munch (table.rulesInMode Lexicon.codeMode) place [] place := .last .nil
  obtain ⟨-, rfl⟩ := hhere.unique hmunch (.inr ⟨source, error, hfails⟩) (.inl rfl)
  exact hfails.ne_nil rfl

/-! ## Reading code -/

/-- What one token set of code opens or closes is told by the character that it starts with. -/
theorem Stands.surplus_code {c : Char} {cs : List Char}
    (h : parser.Stands (Lexicon.codeMode :: entered) (c :: cs))
    (hcurrent : parser.scanner.current = some set) :
    surplus ["\x7b"] ["\x7d"] [set] =
      (if c = '\x7b' then 1 else 0) - (if c = '\x7d' then 1 else 0) := by
  obtain ⟨hopens, hcloses, -⟩ := h.code_cons
  rw [sees_eq_contains hcurrent] at hopens hcloses
  rw [surplus_singleton]
  simp only [List.any_cons, List.any_nil, Bool.or_false, hopens, hcloses]

/-- What becomes of reading code whose token sets are given: it ends in front of the first brace that
closes more than is open; without one it fails at the end of the text. -/
inductive CodeCourse (depth : Nat) (parser : Parser) : List TokenSet → Prop
  /-- There is such a brace. -/
  | closed {inner behind : List TokenSet} {closing : TokenSet} {after : Parser}
      (overcloses : Overcloses ["\x7b"] ["\x7d"] depth inner closing)
      (gives : (codeTokens depth parser).Gives () after) (skips : parser.SkipsAll inner after)
      (current : after.scanner.current = some closing) :
      CodeCourse depth parser (inner ++ closing :: behind)
  /-- There is none. -/
  | unclosed {sets : List TokenSet} {last : Parser}
      (never : ∀ inner closing behind, sets = inner ++ closing :: behind →
        ¬ Overcloses ["\x7b"] ["\x7d"] depth inner closing)
      (fails : (codeTokens depth parser).failure? =
        some (.lexical (.unexpectedEnd ["\x7d"]
          (parser.scanner.source.position parser.scanner.source.size)), last)) :
      CodeCourse depth parser sets

/-- Behind a token set that does not end the code, reading goes on with as many braces open as the
token set leaves. -/
theorem CodeCourse.cons {depth' : Nat} (hskips : parser.Skips set middle)
    (hdepth : (depth' : Int) = depth + surplus ["\x7b"] ["\x7d"] [set])
    (hsource : middle.scanner.source = parser.scanner.source)
    (hmakes : Call.MakesInCode (.inCode depth parser) (.inCode depth' middle))
    (hgives : ∀ after, (codeTokens depth' middle).Gives () after →
      (codeTokens depth parser).Gives () after)
    (h : CodeCourse depth' middle sets) : CodeCourse depth parser (set :: sets) := by
  cases h with
  | @closed inner behind closing after overcloses gives skips current =>
    rw [hdepth] at overcloses
    show CodeCourse depth parser ((set :: inner) ++ closing :: behind)
    exact .closed (overcloses_cons.2 ⟨Int.natCast_nonneg depth, overcloses⟩) (hgives after gives)
      (.cons hskips skips) current
  | unclosed never fails =>
    rw [hsource] at fails
    refine .unclosed (fun inner closing behind hsets hover => ?_) (hmakes.fails fails)
    cases inner with
    | nil =>
      -- The token set itself leaves no fewer than no braces open.
      obtain ⟨rfl, -⟩ := List.cons.inj hsets
      have := hover.surplus_neg
      rw [List.nil_append] at this
      omega
    | cons first inner =>
      obtain ⟨rfl, hothers⟩ := List.cons.inj hsets
      refine never inner closing behind hothers ?_
      rw [hdepth]
      exact (overcloses_cons.1 hover).2

/-- At the end of the text, code is not closed. -/
theorem CodeCourse.nil (hcurrent : parser.scanner.current = none) : CodeCourse depth parser [] := by
  refine .unclosed (by simp) (?_ : _ = some (_, parser))
  have hsees (rule : String) : parser.sees rule = false := by
    simp [sees, Scanner.matchesRule, Scanner.matching?, hcurrent]
  rw [codeTokens]
  simp only [hsees, Bool.false_eq_true, if_false, Bool.false_and, Reply.failure?_since]
  refine Reply.failure?_bind ?_
  rw [skip]
  split
  · simp only [expected, Reply.failure?, Scanner.unexpected, hcurrent, Scanner.position]
  · rename_i set hset
    rw [hcurrent] at hset
    contradiction

/-- A token set that does not end the code is skipped, with as many braces open behind it as it
leaves. -/
theorem Stands.code_step {c : Char} {cs : List Char}
    (h : parser.Stands (Lexicon.codeMode :: entered) (c :: cs)) (hskips : parser.Skips set middle)
    (hends : ¬ (c = '\x7d' ∧ depth = 0)) :
    ∃ depth' : Nat, (depth' : Int) = depth + surplus ["\x7b"] ["\x7d"] [set] ∧
      Call.MakesInCode (.inCode depth parser) (.inCode depth' middle) ∧
      ∀ after, (codeTokens depth' middle).Gives () after →
        (codeTokens depth parser).Gives () after := by
  obtain ⟨hopens, hcloses, -⟩ := h.code_cons
  rw [h.surplus_code hskips.1]
  by_cases hopening : c = '\x7b'
  · subst hopening
    exact ⟨depth + 1, by simp, .opened (hopens.2 rfl) hskips, fun after hafter =>
      codeTokens_gives.2 (.inl ⟨hopens.2 rfl, set, middle, hskips, hafter⟩)⟩
  · have hnotOpens : parser.sees "\x7b" = false := Bool.eq_false_iff.2 (mt hopens.1 hopening)
    have hgoesOn : ¬ (parser.sees "\x7d" && decide (depth = 0)) = true := by simpa [hcloses] using hends
    have hmakes := Call.MakesInCode.passed (by simp [hnotOpens]) hgoesOn hskips
    by_cases hclosing : c = '\x7d'
    · subst hclosing
      obtain ⟨outer, rfl⟩ := Nat.exists_eq_succ_of_ne_zero fun hzero => hends ⟨rfl, hzero⟩
      rw [if_pos (hcloses.2 rfl)] at hmakes
      exact ⟨outer, by simp, hmakes, fun after hafter => codeTokens_gives.2
        (.inr (.inl ⟨hnotOpens, hcloses.2 rfl, .inr ⟨outer, rfl, set, middle, hskips, hafter⟩⟩))⟩
    · have hnotCloses : parser.sees "\x7d" = false := Bool.eq_false_iff.2 (mt hcloses.1 hclosing)
      rw [hnotCloses, if_neg Bool.false_ne_true] at hmakes
      exact ⟨depth, by simp [hopening, hclosing], hmakes, fun after hafter => codeTokens_gives.2
        (.inr (.inr ⟨hnotOpens, hnotCloses, set, middle, hskips, hafter⟩))⟩

/-- Inside code, what becomes of reading it is told by the token sets up to the end of the text. -/
theorem Stands.codeCourse (depth : Nat) {parser : Parser} {entered : List String} {text : List Char}
    (h : parser.Stands (Lexicon.codeMode :: entered) text) :
    ∃ sets stop, Munch (parser.scanner.table.rulesInMode Lexicon.codeMode)
        (parser.scanner.previousEnd, text) sets (stop, []) ∧ CodeCourse depth parser sets := by
  cases text with
  | nil => exact ⟨[], _, .last .nil, .nil h.current_of_nil⟩
  | cons c cs =>
    obtain ⟨hopens, hcloses, -, set, middle, hskips⟩ := h.code_cons
    have hfirst := h.at_text.first
    rw [hskips.1] at hfirst
    by_cases hends : c = '\x7d' ∧ depth = 0
    · obtain ⟨rfl, rfl⟩ := hends
      obtain ⟨sets, stop, hmunch⟩ := exists_munch_code h.table parser.scanner.place.offset
        parser.scanner.place.rest
      refine ⟨set :: sets, stop, hfirst.munch.append hmunch, ?_⟩
      show CodeCourse 0 parser ([] ++ set :: sets)
      refine .closed ⟨by simp, ?_⟩ ?_ .nil hskips.1
      · simp [h.surplus_code hskips.1]
      · exact codeTokens_gives.2 (.inr (.inl ⟨by simpa using hopens, hcloses.2 rfl, .inl ⟨rfl, rfl⟩⟩))
    · obtain ⟨depth', hdepth, hmakes, hgives⟩ := h.code_step hskips hends
      obtain ⟨hconsumes, -, hprevious⟩ := hskips.consumes h.table h.at_text
      have hmiddle := (h.skip hskips).stands
      obtain ⟨sets, stop, hmunch, hcourse⟩ := hmiddle.codeCourse depth'
      have htable : middle.scanner.table = parser.scanner.table :=
        Except.ok.inj (hmiddle.table.symm.trans h.table)
      rw [htable, hprevious] at hmunch
      exact ⟨set :: sets, stop, hfirst.munch.append hmunch,
        hcourse.cons hskips hdepth hconsumes.source_eq hmakes hgives⟩
termination_by parser.remaining
decreasing_by exact Nat.lt_of_succ_le hskips.remaining_le

/-! ## A piece of code -/

/-- Outside of a mode that is left, a token of one rule is taken if the text behind it has a first
token set; otherwise the scan of this text is what fails. -/
theorem Stands.takes_or_fails {rule : String} (entered' : List String) (told : List Entry)
    (h : parser.Stands entered text) (hcurrent : parser.scanner.current = some set)
    (hrule : Askable [rule]) (hsees : parser.sees rule = true) :
    (∃ token after, (parser.switched entered' told).Takes [rule] token after ∧
      after.scanner.entered = entered' ∧
      First (parser.scanner.table.rulesInMode (entered'.head?.getD defaultMode))
        (set.first.span.stop, parser.scanner.place.rest) after.scanner.current after.scanner.spot) ∨
    ∃ error last, ((parser.switched entered' told).consume rule).failure? =
        some (.lexical error, last) ∧
      last.scanner.entered = entered' ∧
      ∃ place, Munch (parser.scanner.table.rulesInMode (entered'.head?.getD defaultMode))
          (set.first.span.stop, parser.scanner.place.rest) [] place ∧
        Fails (parser.scanner.table.rulesInMode (entered'.head?.getD defaultMode))
          parser.scanner.source place error := by
  obtain ⟨token, htoken⟩ := (h.standsIn rfl).exists_alternative hrule hsees
  have halternatives : (parser.switched entered' told).scanner.alternatives [rule] = [token] := htoken
  have hanchored : Anchored (parser.switched entered' told).scanner.behindCurrent.rules :=
    Lexicon.anchored_mode h.table _
  rw [h.at_text.stop_eq hcurrent]
  cases hnext : (parser.switched entered' told).scanner.next with
  | ok value scanner =>
    rw [Scanner.next_eq] at hnext
    obtain ⟨hfirst, -, -, hentered, -⟩ := Scanner.advance_first hanchored hnext
    rw [← Scanner.next_eq] at hnext
    exact .inl ⟨token, _, ⟨halternatives, scanner, hnext, rfl⟩, hentered, hfirst⟩
  | failed error scanner =>
    have hentered := (Scanner.unmoved_next hnext).entered
    have hfailure := failure?_consume halternatives hnext
    rw [Scanner.next_eq] at hnext
    obtain ⟨hmunch, hfails⟩ := Scanner.advance_fails hanchored hnext
    exact .inr ⟨error, _, hfailure, hentered, _, hmunch, hfails⟩

/-- Code is read up to a closing brace. -/
structure ReadsCode (parser : Parser) (closing : TokenSet) (rest : List Char) (code : CodeSegment)
    (after : Parser) : Prop where
  /-- The code is read. -/
  gives : (codeSegment parser).Gives code after
  /-- Its text is that between the opening brace and the closing one. -/
  text : parser.scanner.source.slice? ⟨parser.scanner.offset, closing.first.span.start⟩ =
    some code.text
  /-- The modes are those from before. -/
  modes : after.scanner.modes = parser.scanner.modes
  /-- The parser stands at the first token set of the text behind the closing brace, by the rules that
  hold outside of code. -/
  first : First (parser.scanner.table.rulesInMode defaultMode) (closing.first.span.stop, rest)
    after.scanner.current after.scanner.spot

/-- Code is closed, and the text behind the closing brace makes the scanner fail. -/
structure FailsBehind (parser : Parser) (closing : TokenSet) (rest : List Char) (error : Error)
    (last : Parser) : Prop where
  /-- This failure is that of reading the code. -/
  fails : (codeSegment parser).failure? = some (.lexical error, last)
  /-- The modes are those from before. -/
  modes : last.scanner.modes = parser.scanner.modes
  /-- Outside of code no token set can be made of the text behind the closing brace. -/
  scan : ∃ place, Munch (parser.scanner.table.rulesInMode defaultMode)
      (closing.first.span.stop, rest) [] place ∧
    Fails (parser.scanner.table.rulesInMode defaultMode) parser.scanner.source place error

/-- Behind an opening brace the parser is inside code. -/
theorem Stands.exists_inside (h : parser.Stands [] text) (hopens : parser.sees "\x7b" = true) :
    ∃ opening inside, (parser.enter Lexicon.codeMode).Takes ["\x7b"] opening inside ∧
      inside.Stands [Lexicon.codeMode] parser.scanner.place.rest ∧
      inside.scanner.source = parser.scanner.source ∧
      inside.scanner.previousEnd = parser.scanner.place.offset := by
  obtain ⟨set, hcurrent, -⟩ := current_of_sees hopens
  obtain ⟨told, henter⟩ := parser.enter_eq Lexicon.codeMode
  rw [h.entered_eq] at henter
  obtain ⟨opening, inside, hopening, -⟩ | ⟨error, -, -, -, place, -, hfails⟩ :=
    h.takes_or_fails [Lexicon.codeMode] told hcurrent (by decide) hopens
  · obtain ⟨set', hskips, -⟩ := hopening.offers
    have hat : (parser.switched [Lexicon.codeMode] told).scanner.At defaultMode text :=
      ⟨h.at_text.first, h.at_text.suffix, h.at_text.offset_eq⟩
    obtain ⟨hconsumes, -, hprevious⟩ := hskips.consumes h.table hat
    exact ⟨opening, inside, henter ▸ hopening, hconsumes.stands, hconsumes.source_eq, hprevious⟩
  · exact absurd hfails (not_fails_code h.table place error)

/-- Code that is closed is read, unless the text behind it makes the scanner fail. -/
theorem Stands.reads_or_fails {inside behind : Parser} {opening : Token} {inner : List TokenSet}
    {closing : TokenSet} (h : parser.Stands [] text)
    (hopening : (parser.enter Lexicon.codeMode).Takes ["\x7b"] opening inside)
    (hinside : inside.Stands [Lexicon.codeMode] parser.scanner.place.rest)
    (hsource : inside.scanner.source = parser.scanner.source)
    (hprevious : inside.scanner.previousEnd = parser.scanner.place.offset)
    (hgives : (codeTokens 0 inside).Gives () behind) (hskips : inside.SkipsAll inner behind)
    (hcurrent : behind.scanner.current = some closing) :
    (∃ code after, parser.ReadsCode closing behind.scanner.place.rest code after) ∨
      ∃ error last, parser.FailsBehind closing behind.scanner.place.rest error last := by
  obtain ⟨text', hgathers, -⟩ := hskips.munch hinside codeMode_ne
  have hbehind := hgathers.consumes.stands
  obtain ⟨-, -, -, -, hcloses⟩ := codeTokens_spells hinside hgives
  obtain ⟨told, hleave⟩ := leave_eq hbehind.entered_eq
  have htable : behind.scanner.table = parser.scanner.table :=
    Except.ok.inj (hbehind.table.symm.trans h.table)
  have hbehindSource : behind.scanner.source = parser.scanner.source :=
    hgathers.consumes.source_eq.trans hsource
  have hmodes {last : Parser} (hentered : last.scanner.entered = []) :
      last.scanner.modes = parser.scanner.modes := by
    rw [Scanner.modes, Scanner.modes, hentered, h.entered_eq]
  have hends := hbehind.takes_or_fails [] told hcurrent (by decide) hcloses
  rw [← hleave, htable] at hends
  obtain ⟨token, after, hclosing, hentered, hfirst⟩ |
    ⟨error, last, hfails, hentered, place, hmunch, hscan⟩ := hends
  · obtain ⟨set, hskipsClosing, -⟩ := hclosing.offers
    have hslice := hgathers.slice_eq hinside codeMode_ne hcurrent
    have hafterSource := (hbehind.skip_leave hskipsClosing).source_eq.trans hbehindSource
    refine .inl ⟨⟨after.spanFrom parser.start, String.ofList (textOfSets inner)⟩, after, ?_, ?_,
      hmodes hentered, hfirst⟩
    · rw [hsource, ← hafterSource] at hslice
      exact codeSegment_gives.2 ⟨opening, inside, hopening, behind, hgives, token, hclosing, hslice,
        rfl⟩
    · rw [← start_eq hcurrent, Scanner.offset, ← hprevious, ← hsource]
      exact hslice
  · rw [hbehindSource] at hscan
    refine .inr ⟨error, last, ?_, hmodes hentered, place, hmunch, hscan⟩
    rw [codeSegment, Reply.failure?_since]
    refine (gives_consume.2 hopening).failure?_bind (hgives.failure?_bind (Reply.failure?_bind ?_))
    rw [Reply.failure?_across]
    exact hfails

end Parser

/-- **Code ends at the brace that matches its opening brace.** Where a parser stands at an opening
brace outside of code, the text behind the brace is cut into token sets by the rules of code, up to its
end; these rules never fail. If some brace of theirs is the first to close more than is open, then
the code is read up to it, and the parser stands outside of code at the first token set of the text
behind; reading fails only where the scan of that text fails. If there is no such brace, then reading
fails at the end of the text, where a closing brace is expected. -/
theorem codeSegment_closes {parser : Parser} {text : List Char} (h : parser.Stands [] text)
    (hopens : parser.sees "\x7b" = true) :
    (∀ source place error,
      ¬ Fails (parser.scanner.table.rulesInMode Lexicon.codeMode) source place error) ∧
    ∃ sets stop,
      Munch (parser.scanner.table.rulesInMode Lexicon.codeMode) parser.scanner.spot sets (stop, []) ∧
      (∀ inner closing behind, sets = inner ++ closing :: behind →
        Overcloses ["\x7b"] ["\x7d"] 0 inner closing →
        ∃ rest, Munch (parser.scanner.table.rulesInMode Lexicon.codeMode) parser.scanner.spot
            (inner ++ [closing]) (closing.first.span.stop, rest) ∧
          ((∃ code after, parser.ReadsCode closing rest code after) ∨
            ∃ error last, parser.FailsBehind closing rest error last)) ∧
      ((∀ inner closing behind, sets = inner ++ closing :: behind →
        ¬ Overcloses ["\x7b"] ["\x7d"] 0 inner closing) →
        ∃ last, parser.codeSegment.failure? = some (.lexical (.unexpectedEnd ["\x7d"]
          (parser.scanner.position parser.scanner.source.size)), last)) := by
  refine ⟨fun source place error => Parser.not_fails_code h.table place error, ?_⟩
  obtain ⟨opening, inside, hopening, hinside, hsource, hprevious⟩ := h.exists_inside hopens
  obtain ⟨sets, stop, hcut, hcourse⟩ := hinside.codeCourse 0
  have htable : inside.scanner.table = parser.scanner.table :=
    Except.ok.inj (hinside.table.symm.trans h.table)
  rw [htable, hprevious] at hcut
  refine ⟨sets, stop, hcut, fun inner closing behind hsets hover => ?_, fun hnever => ?_⟩
  · cases hcourse with
    | unclosed never => exact absurd hover (never inner closing behind hsets)
    | closed overcloses gives skips current =>
      obtain ⟨rfl, rfl, -⟩ := overcloses.unique hover hsets
      rename_i last
      obtain ⟨text', hgathers, hmunch⟩ := skips.munch hinside Parser.codeMode_ne
      have hlast := hgathers.consumes.stands
      have hfirst := hlast.at_text.first
      have hlastTable : last.scanner.table = parser.scanner.table :=
        Except.ok.inj (hlast.table.symm.trans h.table)
      rw [current, hlastTable] at hfirst
      rw [htable, hprevious] at hmunch
      refine ⟨last.scanner.place.rest, ?_,
        h.reads_or_fails hopening hinside hsource hprevious gives skips current⟩
      rw [hlast.at_text.stop_eq current]
      exact hmunch.append hfirst.munch
  · cases hcourse with
    | closed overcloses => exact absurd overcloses (hnever _ _ _ rfl)
    | unclosed never fails =>
      rw [hsource] at fails
      exact ⟨_, (Call.MakesInCode.segment hopening).fails fails⟩

/-- Braces in a string, in a character literal and in a comment do not count, and those of an inner
block match. -/
theorem codeSegment_closes_quoted : ∃ (parser : Parser) (text : List Char) (sets : List TokenSet)
      (stop : Nat),
    parser.Stands [] text ∧ parser.sees "\x7b" = true ∧
    Munch (parser.scanner.table.rulesInMode Lexicon.codeMode) parser.scanner.spot sets (stop, []) ∧
    (∃ code after, parser.codeSegment.Gives code after ∧
      code.text.toList = "\"\x7d\" '\x7d' /*\x7d*/ \x7b 'a \x7d".toList) ∧
    ∃ inner closing behind, sets = inner ++ closing :: behind ∧
      Overcloses ["\x7b"] ["\x7d"] 0 inner closing := by
  have hcreate : (Scanner.create Lexicon.words
        (.ofString "\x7b\"\x7d\" '\x7d' /*\x7d*/ \x7b 'a \x7d\x7d")).result.toOption.isSome = true ∧
      (Parser.mk (Scanner.create Lexicon.words
        (.ofString "\x7b\"\x7d\" '\x7d' /*\x7d*/ \x7b 'a \x7d\x7d")).after .empty).sees "\x7b" =
        true := by decide +kernel
  cases hscanner : Scanner.create Lexicon.words
    (.ofString "\x7b\"\x7d\" '\x7d' /*\x7d*/ \x7b 'a \x7d\x7d") with
  | failed error last =>
    rw [hscanner] at hcreate
    simp [Outcome.result, Except.toOption] at hcreate
  | ok created scanner =>
    rw [hscanner] at hcreate
    obtain ⟨-, hcreate⟩ := hcreate
    obtain ⟨hstands, -⟩ := Parser.stands_create .empty Lexicon.table_eq_words hscanner
    obtain ⟨-, sets, stop, hcut, -, hnever⟩ := codeSegment_closes hstands hcreate
    -- The end of the code is found in the text alone.
    have hend : codeEnd 0 "\"\x7d\" '\x7d' /*\x7d*/ \x7b 'a \x7d\x7d".toList = some [] := by
      decide +kernel
    have hgap : behindGap (Source.ofString "\x7b\"\x7d\" '\x7d' /*\x7d*/ \x7b 'a \x7d\x7d").chars =
        '\x7b' :: "\"\x7d\" '\x7d' /*\x7d*/ \x7b 'a \x7d\x7d".toList := by decide +kernel
    obtain ⟨code, after, hgives⟩ := hstands.exists_codeSegment hgap hend (.inl (by decide +kernel))
    obtain ⟨rest, htext, hrest, -⟩ := hstands.of_codeSegment hgap hgives
    obtain rfl := Option.some.inj (hend.symm.trans hrest)
    refine ⟨_, _, sets, stop, hstands, hcreate, hcut, ⟨code, after, hgives, ?_⟩, ?_⟩
    · exact (List.append_left_inj ['\x7d']).1 htext.symm
    · by_contra hnone
      obtain ⟨last, hfails⟩ := hnever fun inner closing behind hsets hover =>
        hnone ⟨inner, closing, behind, hsets, hover⟩
      obtain ⟨used, hgives⟩ := hgives
      rw [hgives] at hfails
      contradiction

end GrammarLang.Grammar
