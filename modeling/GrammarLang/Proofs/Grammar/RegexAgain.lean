import GrammarLang.Proofs.Grammar.Meets
import GrammarLang.Proofs.Grammar.RegexSpelt
import GrammarLang.Proofs.Grammar.RegexWords

/-! # Regular expressions are read again

A regular expression that was read once is read again, in front of any other text: a *twin* of the
parser, which stands **`Alongside`** it in front of the other text, takes the same steps up to the
slash. For each function of the parser a lemma says so; **`regexDisjunction_again`** says it of a whole
expression. -/

namespace GrammarLang.Scan

/-- The rules of the alternatives are told by the rules of the token set alone. -/
theorem Scanner.map_rule_alternatives {scanner : Scanner} {set : TokenSet} {rules : List String}
    (hcurrent : scanner.current = some set) :
    (scanner.alternatives rules).map Token.rule =
      rules.flatMap fun rule => set.rules.filter (· = rule) := by
  rw [Scanner.alternatives, List.map_flatMap, Scanner.currentTokens, hcurrent, TokenSet.rules]
  congr 1
  funext rule
  rw [List.filter_map]
  rfl

end GrammarLang.Scan

namespace GrammarLang.Grammar

open GrammarLang.Scan GrammarLang.Text

namespace Parser

variable {parser after stop twin : Parser} {entered entered' : List String}
  {text rest rest' : List Char}

/-! ## Up to a slash -/

/-- The parser has consumed no more than where it is to stop. -/
def Reaches (parser stop : Parser) : Prop := parser = stop ∨ stop.remaining < parser.remaining

theorem Reaches.refl (parser : Parser) : parser.Reaches parser := .inl rfl

/-- What is reached from further on is reached. -/
theorem Reaches.trans {middle : Parser} (h : parser.Reaches middle) (h' : middle.Reaches stop) :
    parser.Reaches stop := by
  rcases h with rfl | hless
  · exact h'
  · rcases h' with rfl | hless'
    · exact .inr hless
    · exact .inr (Nat.lt_trans hless' hless)

/-- Where less is left to parse, one has come further. -/
theorem Reaches.of_remaining (h : after.remaining + 1 ≤ parser.remaining) : parser.Reaches after :=
  .inr h

/-- Where a parser stops: at the slash that ends a regular expression, with a closing brace somewhere
behind it. -/
structure Slashed (stop : Parser) (entered : List String) (rest : List Char) : Prop where
  /-- It stands at the slash. -/
  stands : stop.Stands (Lexicon.regexMode :: entered) ('/' :: rest)
  /-- There is a closing brace behind. -/
  brace : '\x7d' ∈ rest

theorem remaining_of_current {set : TokenSet} (hcurrent : parser.scanner.current = some set) :
    parser.remaining = parser.scanner.place.rest.length + 1 := by
  rw [remaining, Scanner.remaining, parser.scanner.place.left_eq, hcurrent]
  rfl

theorem Slashed.remaining_eq (h : stop.Slashed entered rest) : stop.remaining = rest.length + 1 := by
  have hstands := h.stands
  rw [← List.singleton_append] at hstands
  obtain ⟨set, hcurrent, -, hrest⟩ := hstands.shows_inside (word_regexSlash h.stands.table rest)
  rw [remaining_of_current hcurrent, hrest]

/-- A parser in a mode of its own stands at a token set where there is text. -/
theorem Stands.exists_current {mode : String} (h : parser.Stands (mode :: entered) text)
    (hmode : mode ≠ defaultMode) (hne : text ≠ []) :
    ∃ set front, parser.scanner.current = some set ∧ text = front ++ parser.scanner.place.rest ∧
      Wins parser.scanner.table mode set.rules front parser.scanner.place.rest := by
  have hfirst : First (parser.scanner.table.rulesInMode mode) _ _ _ := h.at_text.first
  have hgap {gap rest : List Char} (hpassed : Passed (parser.scanner.table.rulesInMode mode) rest gap) :
      gap = [] :=
    gap_eq_nil (fun rule hrule => Lexicon.ignored_eq_false h.table hmode hrule) hpassed
  generalize hspot : parser.scanner.spot = spot at hfirst
  generalize hcurrent : parser.scanner.current = current at hfirst
  cases hfirst with
  | atEnd passed => exact absurd (hgap passed) hne
  | @lexeme _ gap front rest set passed lexeme read =>
    obtain rfl := hgap passed
    have hrest : parser.scanner.place.rest = rest := (Prod.mk.inj hspot).2
    rw [hrest]
    exact ⟨set, front, rfl, rfl, lexeme.longest, (Reads.names_eq read).symm⟩

/-- Up to the slash, a parser stands at a word that stands there in front of any other text too. -/
theorem Stands.word_in_front (h : parser.Stands (Lexicon.regexMode :: entered) (text ++ '/' :: rest))
    (hstop : stop.Slashed entered rest) (hreaches : parser.Reaches stop) (rest' : List Char) :
    ∃ set front behind, parser.scanner.current = some set ∧
      text ++ '/' :: rest' = front ++ behind ∧
      Word parser.scanner.table Lexicon.regexMode set.rules front behind ∧
      (parser = stop ∨ ∃ text', parser.scanner.place.rest = text' ++ '/' :: rest ∧
        behind = text' ++ '/' :: rest') := by
  cases text with
  | nil =>
    rw [List.nil_append, ← List.singleton_append] at h
    obtain ⟨set, hcurrent, hshows, hplace⟩ := h.shows_inside (word_regexSlash h.table rest)
    refine ⟨set, ['/'], rest', hcurrent, rfl, ?_, .inl ?_⟩
    · rw [hshows.rules_eq]
      exact word_regexSlash h.table rest'
    · refine hreaches.resolve_right fun hless => ?_
      rw [hstop.remaining_eq, remaining_of_current hcurrent, hplace] at hless
      exact Nat.lt_irrefl _ hless
  | cons c cs =>
    obtain ⟨set, front, hcurrent, htext, hwins⟩ := h.exists_current regexMode_ne (by simp)
    -- More is left behind the word than behind the slash.
    have hlength : rest.length < parser.scanner.place.rest.length := by
      rcases hreaches with rfl | hless
      · have heq := congrArg List.length (h.at_text.text_unique hstop.stands.at_text)
        simp only [List.cons_append, List.length_cons, List.length_append] at heq
        omega
      · rw [hstop.remaining_eq, remaining_of_current hcurrent] at hless
        omega
    obtain ⟨text', hfront, hplace⟩ : ∃ text', c :: cs = front ++ text' ∧
        parser.scanner.place.rest = text' ++ '/' :: rest := by
      rcases List.append_eq_append_iff.1 htext with ⟨middle, hfront, hslash⟩ | ⟨middle, hfront, hplace⟩
      · cases middle with
        | nil => exact ⟨[], by simp [hfront], by simpa using hslash.symm⟩
        | cons d middle =>
          have heq := congrArg List.length hslash
          simp only [List.cons_append, List.length_cons, List.length_append] at heq
          omega
      · exact ⟨middle, hfront, hplace⟩
    rw [hplace] at hwins
    refine ⟨set, front, text' ++ '/' :: rest', hcurrent, ?_, ?_, .inr ⟨text', hplace, rfl⟩⟩
    · rw [hfront, List.append_assoc]
    · exact (hwins.in_front h.table hstop.brace rest').word_regex h.table

/-! ## A twin -/

/-- What a parser sees is decided by the names of the rules of its token set. -/
theorem sees_iff_mem_rules {set : TokenSet} {rule : String}
    (hcurrent : parser.scanner.current = some set) : parser.sees rule = true ↔ rule ∈ set.rules :=
  (sees_iff hcurrent).trans is_iff_mem_rules

/-- Two parsers stand inside regular expressions that go on in the same way up to a slash. -/
def Alongside (entered entered' : List String) (rest rest' : List Char) (parser twin : Parser) :
    Prop :=
  ∃ text, parser.Stands (Lexicon.regexMode :: entered) (text ++ '/' :: rest) ∧
    twin.Stands (Lexicon.regexMode :: entered') (text ++ '/' :: rest')

namespace Alongside

variable (hstop : stop.Slashed entered rest) (h : Alongside entered entered' rest rest' parser twin)
  (hreaches : parser.Reaches stop)

include hstop h hreaches

/-- Both stand at token sets of the same rules. -/
theorem exists_sets : ∃ set set', parser.scanner.current = some set ∧
    twin.scanner.current = some set' ∧ set'.rules = set.rules := by
  obtain ⟨text, hparser, htwin⟩ := h
  obtain ⟨set, front, behind, hcurrent, htext, hword, -⟩ :=
    hparser.word_in_front hstop hreaches rest'
  have htable : parser.scanner.table = twin.scanner.table :=
    Except.ok.inj (hparser.table.symm.trans htwin.table)
  rw [htable] at hword
  rw [htext] at htwin
  obtain ⟨set', hcurrent', hshows, -⟩ := htwin.shows_inside hword
  exact ⟨set, set', hcurrent, hcurrent', hshows.rules_eq⟩

theorem sees_eq (rule : String) : twin.sees rule = parser.sees rule := by
  obtain ⟨set, set', hcurrent, hcurrent', hrules⟩ := h.exists_sets hstop hreaches
  rw [Bool.eq_iff_iff, sees_iff_mem_rules hcurrent', sees_iff_mem_rules hcurrent, hrules]

theorem seesAny_eq (rules : List String) : twin.seesAny rules = parser.seesAny rules := by
  rw [seesAny, seesAny, Scanner.matchesAny, Scanner.matchesAny]
  congr 1
  funext rule
  exact h.sees_eq hstop hreaches rule

theorem atEnd_eq : twin.scanner.atEnd = parser.scanner.atEnd := by
  obtain ⟨set, set', hcurrent, hcurrent', -⟩ := h.exists_sets hstop hreaches
  rw [Scanner.atEnd, Scanner.atEnd, hcurrent, hcurrent']
  rfl

theorem lacks {rules : List String} (hlacks : parser.Lacks rules) : twin.Lacks rules := by
  rw [lacks_iff_sees] at hlacks ⊢
  intro rule hrule
  rw [h.sees_eq hstop hreaches]
  exact hlacks rule hrule

omit h hreaches in
/-- Where one of them skips a token set and has not come to the slash, the other one skips one too. -/
theorem skips {set : TokenSet} (h : Alongside entered entered' rest rest' parser twin)
    (hskips : parser.Skips set after) (hreaches : after.Reaches stop) :
    ∃ set' after', twin.Skips set' after' ∧ Alongside entered entered' rest rest' after after' := by
  obtain ⟨text, hparser, htwin⟩ := h
  have hbefore := (Reaches.of_remaining hskips.remaining_le).trans hreaches
  obtain ⟨set, front, behind, hcurrent, htext, hword, hrest⟩ :=
    hparser.word_in_front hstop hbefore rest'
  have htable : parser.scanner.table = twin.scanner.table :=
    Except.ok.inj (hparser.table.symm.trans htwin.table)
  rw [htable] at hword
  have htwin' := htwin
  rw [htext] at htwin'
  obtain ⟨set', hcurrent', -, hplace⟩ := htwin'.shows_inside hword
  obtain ⟨text', hafterText, rfl⟩ := hrest.resolve_left (by
    rintro rfl
    have hless := hskips.remaining_le
    rcases hreaches with rfl | hmore <;> omega)
  have hafter := (hparser.skip hskips).stands
  rw [hafterText] at hafter
  -- The text behind has a first token set, so that it can be skipped to.
  obtain ⟨_, front', behind', -, htext', hword', -⟩ := hafter.word_in_front hstop hreaches rest'
  have htable' : after.scanner.table = twin.scanner.table :=
    Except.ok.inj (hafter.table.symm.trans htwin.table)
  rw [htable'] at hword'
  obtain ⟨_, hfirst, -⟩ := hword'.first htwin.table .nil twin.scanner.place.offset
  have hmode : twin.scanner.mode = Lexicon.regexMode := by
    rw [Scanner.mode, htwin.entered_eq]
    rfl
  rw [List.nil_append, ← htext', ← hplace, ← hmode] at hfirst
  obtain ⟨scanner, hnext⟩ := exists_next htwin.table hfirst
  have hskips' : twin.Skips set' (twin.withScanner scanner) := ⟨hcurrent', scanner, hnext, rfl⟩
  have hafter' := (htwin.skip hskips').stands
  rw [hplace] at hafter'
  exact ⟨set', _, hskips', text', hafter, hafter'⟩

omit h hreaches in
/-- Where one of them takes a token and has not come to the slash, the other one takes one too. -/
theorem takes {rules : List String} {token : Token}
    (h : Alongside entered entered' rest rest' parser twin)
    (htakes : parser.Takes rules token after) (hreaches : after.Reaches stop) :
    ∃ token' after', twin.Takes rules token' after' ∧
      Alongside entered entered' rest rest' after after' := by
  obtain ⟨set, hskips, -⟩ := htakes.skips
  have hbefore := (Reaches.of_remaining hskips.remaining_le).trans hreaches
  obtain ⟨_, set', hcurrent, hcurrent', hrules⟩ := h.exists_sets hstop hbefore
  obtain ⟨_, after', ⟨-, hnext⟩, hafter⟩ := h.skips hstop hskips hreaches
  have halternatives : (twin.scanner.alternatives rules).map Token.rule = [token.rule] := by
    have hsame := congrArg (List.map Token.rule) htakes.1
    rw [Scanner.map_rule_alternatives hcurrent] at hsame
    rw [Scanner.map_rule_alternatives hcurrent', hrules, hsame]
    rfl
  obtain ⟨token', htoken⟩ := List.length_eq_one_iff.1 (by
    rw [← List.length_map (f := Token.rule), halternatives]
    rfl)
  exact ⟨token', after', ⟨htoken, hnext⟩, hafter⟩

end Alongside

/-! ## Each function gets further or stays -/

theorem regexQuantifier_reaches (hgives : (regexQuantifier parser).Gives () after) :
    parser.Reaches after := by
  obtain ⟨sign, middle, hsign, ⟨mark, hmark⟩ | ⟨-, rfl⟩⟩ | ⟨-, rfl⟩ :=
    regexQuantifier_gives.1 hgives
  · exact (Reaches.of_remaining hsign.remaining_le).trans (.of_remaining hmark.remaining_le)
  · exact .of_remaining hsign.remaining_le
  · exact .refl parser

theorem regexMembers_reaches (hgives : (regexMembers parser).Gives () after) :
    parser.Reaches after := by
  obtain ⟨-, rfl⟩ | ⟨-, -, ⟨-, middle, hclass, hmore⟩ | ⟨-, set, middle, hskips, hmore⟩⟩ :=
    regexMembers_gives.1 hgives
  · exact .refl parser
  · have hless := hclass.remaining_le
    have hless' := hmore.remaining_le
    exact .of_remaining (by omega)
  · have hless := hskips.remaining_le
    have hless' := hmore.remaining_le
    exact .of_remaining (by omega)

theorem regexAlternative_reaches (hgives : (regexAlternative parser).Gives () after) :
    parser.Reaches after := by
  obtain ⟨-, rfl⟩ | ⟨-, middle, hterm, hmore⟩ := regexAlternative_gives.1 hgives
  · exact .refl parser
  · have hless := hterm.remaining_le
    have hless' := hmore.remaining_le
    exact .of_remaining (by omega)

theorem regexDisjunction_reaches (hgives : (regexDisjunction parser).Gives () after) :
    parser.Reaches after := by
  obtain ⟨middle, hfirst, ⟨bar, behind, hbar, hmore⟩ | ⟨-, rfl⟩⟩ := regexDisjunction_gives.1 hgives
  · have hless := hfirst.remaining_le
    have hless' := hbar.remaining_le
    have hless'' := hmore.remaining_le
    exact .of_remaining (by omega)
  · exact regexAlternative_reaches hfirst

/-! ## Each function takes the same steps again -/

mutual

theorem regexClass_again {stop parser after twin : Parser} {entered entered' : List String}
    {rest rest' : List Char} (hstop : stop.Slashed entered rest)
    (h : Alongside entered entered' rest rest' parser twin)
    (hgives : (regexClass parser).Gives () after) (hreaches : after.Reaches stop) :
    ∃ after', (regexClass twin).Gives () after' ∧
      Alongside entered entered' rest rest' after after' := by
  obtain ⟨opening, inside, hopening, ⟨bracket, further, hbracket, behind, hmembers, closing,
    hclosing⟩ | ⟨hlacks, behind, hmembers, closing, hclosing⟩⟩ := regexClass_gives.1 hgives
  · have hbehind := (Reaches.of_remaining hclosing.remaining_le).trans hreaches
    have hfurther := (regexMembers_reaches hmembers).trans hbehind
    have hinside := (Reaches.of_remaining hbracket.remaining_le).trans hfurther
    obtain ⟨opening', inside', hopening', h⟩ := h.takes hstop hopening hinside
    obtain ⟨bracket', further', hbracket', h⟩ := h.takes hstop hbracket hfurther
    obtain ⟨behind', hmembers', h⟩ := regexMembers_again hstop h hmembers hbehind
    obtain ⟨closing', after', hclosing', h⟩ := h.takes hstop hclosing hreaches
    exact ⟨after', regexClass_gives.2 ⟨opening', inside', hopening', .inl ⟨bracket', further',
      hbracket', behind', hmembers', closing', hclosing'⟩⟩, h⟩
  · have hbehind := (Reaches.of_remaining hclosing.remaining_le).trans hreaches
    have hinside := (regexMembers_reaches hmembers).trans hbehind
    obtain ⟨opening', inside', hopening', h⟩ := h.takes hstop hopening hinside
    have hlacks' := h.lacks hstop hinside hlacks
    obtain ⟨behind', hmembers', h⟩ := regexMembers_again hstop h hmembers hbehind
    obtain ⟨closing', after', hclosing', h⟩ := h.takes hstop hclosing hreaches
    exact ⟨after', regexClass_gives.2 ⟨opening', inside', hopening', .inr ⟨hlacks', behind',
      hmembers', closing', hclosing'⟩⟩, h⟩
termination_by 2 * parser.remaining
decreasing_by
  all_goals
    have hless := hopening.remaining_le
  · have hless' := hbracket.remaining_le
    omega
  · omega

theorem regexMembers_again {stop parser after twin : Parser} {entered entered' : List String}
    {rest rest' : List Char} (hstop : stop.Slashed entered rest)
    (h : Alongside entered entered' rest rest' parser twin)
    (hgives : (regexMembers parser).Gives () after) (hreaches : after.Reaches stop) :
    ∃ after', (regexMembers twin).Gives () after' ∧
      Alongside entered entered' rest rest' after after' := by
  have hbefore := (regexMembers_reaches hgives).trans hreaches
  rw [regexMembers_gives, ← h.sees_eq hstop hbefore, ← h.atEnd_eq hstop hbefore,
    ← h.seesAny_eq hstop hbefore] at hgives
  obtain ⟨hcloses, rfl⟩ | ⟨hcloses, hend, ⟨hopens, middle, hclass, hmore⟩ |
    ⟨hopens, set, middle, hskips, hmore⟩⟩ := hgives
  · exact ⟨twin, regexMembers_gives.2 (.inl ⟨hcloses, rfl⟩), h⟩
  · have hmiddle := (regexMembers_reaches hmore).trans hreaches
    obtain ⟨middle', hclass', h⟩ := regexClass_again hstop h hclass hmiddle
    obtain ⟨after', hmore', h⟩ := regexMembers_again hstop h hmore hreaches
    exact ⟨after', regexMembers_gives.2 (.inr ⟨hcloses, hend, .inl ⟨hopens, middle', hclass',
      hmore'⟩⟩), h⟩
  · have hmiddle := (regexMembers_reaches hmore).trans hreaches
    obtain ⟨set', middle', hskips', h⟩ := h.skips hstop hskips hmiddle
    obtain ⟨after', hmore', h⟩ := regexMembers_again hstop h hmore hreaches
    exact ⟨after', regexMembers_gives.2 (.inr ⟨hcloses, hend, .inr ⟨hopens, set', middle', hskips',
      hmore'⟩⟩), h⟩
termination_by 2 * parser.remaining + 1
decreasing_by
  · omega
  · have hless := hclass.remaining_le
    omega
  · have hless := hskips.remaining_le
    omega

end

theorem regexQuantifier_again (hstop : stop.Slashed entered rest)
    (h : Alongside entered entered' rest rest' parser twin)
    (hgives : (regexQuantifier parser).Gives () after) (hreaches : after.Reaches stop) :
    ∃ after', (regexQuantifier twin).Gives () after' ∧
      Alongside entered entered' rest rest' after after' := by
  obtain ⟨sign, middle, hsign, ⟨mark, hmark⟩ | ⟨hlacks, rfl⟩⟩ | ⟨hlacks, rfl⟩ :=
    regexQuantifier_gives.1 hgives
  · have hmiddle := (Reaches.of_remaining hmark.remaining_le).trans hreaches
    obtain ⟨sign', middle', hsign', h⟩ := h.takes hstop hsign hmiddle
    obtain ⟨mark', after', hmark', h⟩ := h.takes hstop hmark hreaches
    exact ⟨after', regexQuantifier_gives.2 (.inl ⟨sign', middle', hsign', .inl ⟨mark', hmark'⟩⟩), h⟩
  · obtain ⟨sign', middle', hsign', h⟩ := h.takes hstop hsign hreaches
    exact ⟨middle', regexQuantifier_gives.2 (.inl ⟨sign', middle', hsign',
      .inr ⟨h.lacks hstop hreaches hlacks, rfl⟩⟩), h⟩
  · exact ⟨twin, regexQuantifier_gives.2 (.inr ⟨h.lacks hstop hreaches hlacks, rfl⟩), h⟩

mutual

theorem regexDisjunction_again {stop parser after twin : Parser} {entered entered' : List String}
    {rest rest' : List Char} (hstop : stop.Slashed entered rest)
    (h : Alongside entered entered' rest rest' parser twin)
    (hgives : (regexDisjunction parser).Gives () after) (hreaches : after.Reaches stop) :
    ∃ after', (regexDisjunction twin).Gives () after' ∧
      Alongside entered entered' rest rest' after after' := by
  obtain ⟨middle, hfirst, ⟨bar, behind, hbar, hmore⟩ | ⟨hlacks, rfl⟩⟩ :=
    regexDisjunction_gives.1 hgives
  · have hbehind := (regexDisjunction_reaches hmore).trans hreaches
    have hmiddle := (Reaches.of_remaining hbar.remaining_le).trans hbehind
    obtain ⟨middle', hfirst', h⟩ := regexAlternative_again hstop h hfirst hmiddle
    obtain ⟨bar', behind', hbar', h⟩ := h.takes hstop hbar hbehind
    obtain ⟨after', hmore', h⟩ := regexDisjunction_again hstop h hmore hreaches
    exact ⟨after', regexDisjunction_gives.2 ⟨middle', hfirst', .inl ⟨bar', behind', hbar',
      hmore'⟩⟩, h⟩
  · obtain ⟨middle', hfirst', h⟩ := regexAlternative_again hstop h hfirst hreaches
    exact ⟨middle', regexDisjunction_gives.2 ⟨middle', hfirst',
      .inr ⟨h.lacks hstop hreaches hlacks, rfl⟩⟩, h⟩
termination_by 5 * parser.remaining + 4
decreasing_by
  · omega
  · have hless := hfirst.remaining_le
    have hless' := hbar.remaining_le
    omega
  · omega

theorem regexAlternative_again {stop parser after twin : Parser} {entered entered' : List String}
    {rest rest' : List Char} (hstop : stop.Slashed entered rest)
    (h : Alongside entered entered' rest rest' parser twin)
    (hgives : (regexAlternative parser).Gives () after) (hreaches : after.Reaches stop) :
    ∃ after', (regexAlternative twin).Gives () after' ∧
      Alongside entered entered' rest rest' after after' := by
  have hbefore := (regexAlternative_reaches hgives).trans hreaches
  rw [regexAlternative_gives, ← h.atEnd_eq hstop hbefore, ← h.seesAny_eq hstop hbefore] at hgives
  obtain ⟨hends, rfl⟩ | ⟨hends, middle, hterm, hmore⟩ := hgives
  · exact ⟨twin, regexAlternative_gives.2 (.inl ⟨hends, rfl⟩), h⟩
  · have hmiddle := (regexAlternative_reaches hmore).trans hreaches
    obtain ⟨middle', hterm', h⟩ := regexTerm_again hstop h hterm hmiddle
    obtain ⟨after', hmore', h⟩ := regexAlternative_again hstop h hmore hreaches
    exact ⟨after', regexAlternative_gives.2 (.inr ⟨hends, middle', hterm', hmore'⟩), h⟩
termination_by 5 * parser.remaining + 3
decreasing_by
  · omega
  · have hless := hterm.remaining_le
    omega

theorem takesGroup_again {stop parser after twin : Parser} {entered entered' : List String}
    {rest rest' : List Char} {openings : List String} (hstop : stop.Slashed entered rest)
    (h : Alongside entered entered' rest rest' parser twin)
    (hgroup : parser.TakesGroup openings after) (hreaches : after.Reaches stop) :
    ∃ after', twin.TakesGroup openings after' ∧
      Alongside entered entered' rest rest' after after' := by
  obtain ⟨opening, inside, hopening, behind, hinner, closing, hclosing⟩ := hgroup
  have hbehind := (Reaches.of_remaining hclosing.remaining_le).trans hreaches
  have hinside := (regexDisjunction_reaches hinner).trans hbehind
  obtain ⟨opening', inside', hopening', h⟩ := h.takes hstop hopening hinside
  obtain ⟨behind', hinner', h⟩ := regexDisjunction_again hstop h hinner hbehind
  obtain ⟨closing', after', hclosing', h⟩ := h.takes hstop hclosing hreaches
  exact ⟨after', ⟨opening', inside', hopening', behind', hinner', closing', hclosing'⟩, h⟩
termination_by 5 * parser.remaining
decreasing_by
  have hless := hopening.remaining_le
  omega

theorem regexTerm_again {stop parser after twin : Parser} {entered entered' : List String}
    {rest rest' : List Char} (hstop : stop.Slashed entered rest)
    (h : Alongside entered entered' rest rest' parser twin)
    (hgives : (regexTerm parser).Gives () after) (hreaches : after.Reaches stop) :
    ∃ after', (regexTerm twin).Gives () after' ∧
      Alongside entered entered' rest rest' after after' := by
  have hbefore := (Reaches.of_remaining hgives.remaining_le).trans hreaches
  obtain ⟨sign, hsign⟩ | ⟨hlacks, hgroup | ⟨hlacks', middle, hatom, hquantifier⟩⟩ :=
    regexTerm_gives.1 hgives
  · obtain ⟨sign', after', hsign', h⟩ := h.takes hstop hsign hreaches
    exact ⟨after', regexTerm_gives.2 (.inl ⟨sign', hsign'⟩), h⟩
  · have hlacksTwin := h.lacks hstop hbefore hlacks
    obtain ⟨after', hgroup', h⟩ := takesGroup_again hstop h hgroup hreaches
    exact ⟨after', regexTerm_gives.2 (.inr ⟨hlacksTwin, .inl hgroup'⟩), h⟩
  · have hlacksTwin := h.lacks hstop hbefore hlacks
    have hlacksTwin' := h.lacks hstop hbefore hlacks'
    have hmiddle := (regexQuantifier_reaches hquantifier).trans hreaches
    obtain ⟨middle', hatom', h⟩ := regexAtom_again hstop h hatom hmiddle
    obtain ⟨after', hquantifier', h⟩ := regexQuantifier_again hstop h hquantifier hreaches
    exact ⟨after', regexTerm_gives.2 (.inr ⟨hlacksTwin, .inr ⟨hlacksTwin', middle', hatom',
      hquantifier'⟩⟩), h⟩
termination_by 5 * parser.remaining + 2

theorem regexAtom_again {stop parser after twin : Parser} {entered entered' : List String}
    {rest rest' : List Char} (hstop : stop.Slashed entered rest)
    (h : Alongside entered entered' rest rest' parser twin)
    (hgives : (regexAtom parser).Gives () after) (hreaches : after.Reaches stop) :
    ∃ after', (regexAtom twin).Gives () after' ∧
      Alongside entered entered' rest rest' after after' := by
  have hbefore := (Reaches.of_remaining hgives.remaining_le).trans hreaches
  rw [regexAtom_gives, ← h.seesAny_eq hstop hbefore] at hgives
  obtain ⟨token, htoken⟩ | ⟨hlacks, ⟨hopens, hclass⟩ | ⟨hopens, hgroup⟩⟩ := hgives
  · obtain ⟨token', after', htoken', h⟩ := h.takes hstop htoken hreaches
    exact ⟨after', regexAtom_gives.2 (.inl ⟨token', htoken'⟩), h⟩
  · have hlacksTwin := h.lacks hstop hbefore hlacks
    obtain ⟨after', hclass', h⟩ := regexClass_again hstop h hclass hreaches
    exact ⟨after', regexAtom_gives.2 (.inr ⟨hlacksTwin, .inl ⟨hopens, hclass'⟩⟩), h⟩
  · have hlacksTwin := h.lacks hstop hbefore hlacks
    obtain ⟨after', hgroup', h⟩ := takesGroup_again hstop h hgroup hreaches
    exact ⟨after', regexAtom_gives.2 (.inr ⟨hlacksTwin, .inr ⟨hopens, hgroup'⟩⟩), h⟩
termination_by 5 * parser.remaining + 1

end

end Parser

end GrammarLang.Grammar
