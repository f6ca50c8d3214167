import GrammarLang.Proofs.Grammar.Abreast

/-! # Code, terminals and suffixes abreast

Two runs that are abreast read the same code, the same terminals and the same suffixes, and are abreast
behind them. Whether a name behind a regular expression is read as its flags depends on its place
(**`Parser.Touched`**), which is why token sets that are alike agree on flags.

They cannot part where the parser looks ahead for a range, though it then scans as a number what may
turn out to be code: if one of the runs reads a range, it passes the number, and the other one would
have to find the same number inside of code (**`Parser.not_codeBehind_of_rangeSuffix`**). -/

namespace GrammarLang.Grammar

open GrammarLang.Scan GrammarLang.Text

open Lexicon (ident number string)

/-- A token stands for the same number wherever it stands. -/
theorem SameToken.numberOf_eq {token token' : Token} (h : SameToken token token') :
    Parser.numberOf token' = Parser.numberOf token := by
  rw [Parser.numberOf, Parser.numberOf, h.value_eq]

theorem SameToken.textOf_eq {token token' : Token} (h : SameToken token token') :
    Parser.textOf token' = Parser.textOf token := by
  rw [Parser.textOf, Parser.textOf, h.value_eq, h.text_eq]

namespace Parser

variable {all all' : List TokenSet} {parser twin middle after after' : Parser} {text : List Char}

/-! ## Code and regular expressions -/

/-- Parts in a mode of their own end abreast, and have the same words inside. -/
theorem Abreast.of_encloses {read : (parser : Parser) → Reply Unit 0 parser}
    (hread : ∀ {twinning : Twinning}, twinning.Lawful → ∀ {parser twin : Parser},
      twinning.beside parser twin → (read parser).Twins twinning anyValues (read twin))
    {mode : String} {opening opening' closing closing' : TokenSet} {inner inner' : List TokenSet}
    {inside inside' behind behind' : Parser} (h : Abreast all all' [] parser twin)
    (hencloses : parser.Encloses mode opening inside inner behind closing after)
    (hencloses' : twin.Encloses mode opening' inside' inner' behind' closing' after')
    (hgives : (read inside).Gives () behind) (hgives' : (read inside').Gives () behind')
    (hafter : ∃ rest, after.Awaits all rest) (hafter' : ∃ rest', after'.Awaits all' rest') :
    Level all all' behind behind' ∧ Abreast all all' [] after after' ∧
      inner.map wordsOf = inner'.map wordsOf := by
  obtain ⟨text, hinside⟩ := hencloses.stands
  obtain ⟨text', hinside'⟩ := hencloses'.stands
  obtain ⟨hinner, hbehind⟩ := hencloses.skips.passes hinside
  obtain ⟨hinner', hbehind'⟩ := hencloses'.skips.passes hinside'
  obtain ⟨rest, rest', hrest, hrest', -⟩ := h.level
  obtain ⟨further, hfurther⟩ := hafter
  obtain ⟨further', hfurther'⟩ := hafter'
  -- What is still to come inside is known from the end backwards.
  have hawaitsInside := (hrest.between hencloses.opens (hinner.trans hencloses.closes) hfurther).2
  have hawaitsInside' :=
    (hrest'.between hencloses'.opens (hinner'.trans hencloses'.closes) hfurther').2
  have hawaitsBehind := (hawaitsInside.between hinner hencloses.closes hfurther).2
  have hawaitsBehind' := (hawaitsInside'.between hinner' hencloses'.closes hfurther').2
  have habreastInside : Abreast all all' [mode] inside inside' :=
    h.along hencloses.opens hencloses'.opens hencloses.arena_eq.1 hencloses'.arena_eq.1 ⟨_, hinside⟩
      ⟨_, hinside'⟩ ⟨_, hawaitsInside⟩ ⟨_, hawaitsInside'⟩
  have habreastBehind := habreastInside.of_skipping hread hgives hgives' hencloses.skips
    hencloses'.skips ⟨_, hawaitsBehind⟩ ⟨_, hawaitsBehind'⟩
  -- Behind what is inside, both take the closing.
  refine ⟨habreastBehind.level, habreastBehind.along hencloses.closes hencloses'.closes
    hencloses.arena_eq.2 hencloses'.arena_eq.2 hencloses.outside hencloses'.outside ⟨_, hfurther⟩
    ⟨_, hfurther'⟩, ?_⟩
  have hlength := habreastInside.level.length_eq habreastBehind.level hinner hinner'
  exact (habreastInside.level.along hinner hinner' hlength ⟨_, hawaitsBehind⟩
    ⟨_, hawaitsBehind'⟩).2

/-- Code is the same for both. -/
theorem codeSegment_abreast {code code' : CodeSegment} (h : Abreast all all' [] parser twin)
    (hgives : (codeSegment parser).Gives code after) (hgives' : (codeSegment twin).Gives code' after')
    (hafter : after.OnCourse all) (hafter' : after'.OnCourse all') :
    Abreast all all' [] after after' ∧ code.text = code'.text := by
  obtain ⟨text, hparser⟩ := h.left
  obtain ⟨text', htwin⟩ := h.right
  obtain ⟨_, _, _, _, _, hread, htext, hencloses⟩ := hparser.encloses_codeSegment hgives
  obtain ⟨_, _, _, _, _, hread', htext', hencloses'⟩ := htwin.encloses_codeSegment hgives'
  obtain ⟨-, habreast, hwords⟩ :=
    h.of_encloses (fun hlaw => codeTokens_twins hlaw) hencloses hencloses' hread hread'
    hafter.awaits hafter'.awaits
  refine ⟨habreast, String.toList_inj.1 ?_⟩
  rw [htext, htext', textOfSets_eq_of_words hwords]

/-- A name stands right behind what was passed last. -/
def Touched (parser : Parser) : Prop :=
  ∃ name, parser.scanner.current = some name ∧ name.contains ident = true ∧
    parser.scanner.previousEnd = name.first.span.start

/-- Flags are taken just if a name stands right behind the closing slash. -/
theorem Stands.regexFlags_iff {flags : Option Token} (h : parser.Stands [] text) :
    (regexFlags parser).Gives flags after ↔
      parser.Touched ∧ (∃ token, parser.Takes [ident] token after ∧ some token = flags) ∨
      ¬ parser.Touched ∧ none = flags ∧ parser = after := by
  have hfound (token : Token) (hmatching : parser.scanner.matching? ident = some token) :
      parser.Touched ↔ token.span.start = parser.scanner.previousEnd := by
    obtain ⟨set, hset, hfind⟩ := Option.bind_eq_some_iff.1 hmatching
    have hspan := (h.first_eq hset (List.mem_of_find?_eq_some hfind)).1
    have hcontains : set.contains ident = true := by rw [TokenSet.contains, hfind]; rfl
    rw [hspan]
    constructor
    · rintro ⟨name, hname, -, htouches⟩
      cases hset.symm.trans hname
      exact htouches.symm
    · exact fun htouches => ⟨set, hset, hcontains, htouches.symm⟩
  rw [regexFlags_gives]
  cases hmatching : parser.scanner.matching? ident with
  | none =>
    have hnone : ¬ parser.Touched := by
      rintro ⟨name, hname, hcontains, -⟩
      rw [Scanner.matching?, hname] at hmatching
      rw [TokenSet.contains, show name.find? ident = none from hmatching] at hcontains
      contradiction
    simp [hnone]
  | some token =>
    simp only [Option.some.injEq, exists_eq_left', reduceCtorEq, false_and, or_false, hfound token
      hmatching]

/-- Behind their closing slashes, both parsers are touched or neither of them is. -/
theorem Level.touched_iff {behind behind' : Parser} {closing closing' : TokenSet}
    (h : Level all all' behind behind') (hpasses : behind.Passes [closing] after)
    (hpasses' : behind'.Passes [closing'] after') (hafter : ∃ rest, after.Awaits all rest)
    (hafter' : ∃ rest', after'.Awaits all' rest') (hcloses : Is closing "/") (hcloses' : Is closing' "/")
    (hstop : after.scanner.previousEnd = closing.first.span.stop)
    (hstop' : after'.scanner.previousEnd = closing'.first.span.stop) :
    after.Touched ↔ after'.Touched := by
  have hslash {set : TokenSet} (his : Is set "/") : set.contains "/" = true := by
    obtain ⟨token, hmem, hrule⟩ := his
    rw [TokenSet.contains, TokenSet.find?, List.find?_isSome]
    exact ⟨token, hmem, decide_eq_true hrule⟩
  have hflagged {one : Parser} {closing : TokenSet} (his : Is closing "/")
      (hend : one.scanner.previousEnd = closing.first.span.stop) :
      one.Touched ↔ ∃ name, one.scanner.current = some name ∧ flagged closing name = true := by
    simp only [Touched, flagged, hslash his, hend, Bool.true_and, Bool.and_eq_true,
      decide_eq_true_eq]
  -- Only the places tell, and these are what being alike says of flags.
  rw [hflagged hcloses hstop, hflagged hcloses' hstop']
  have hwords := (h.along hpasses hpasses' rfl hafter hafter').1.words_current
  rw [Scanner.currentTokens, Scanner.currentTokens] at hwords
  cases hname : after.scanner.current with
  | none =>
    cases hname' : after'.scanner.current with
    | none => simp
    | some name' => simp [hname, hname', TokenSet.toList] at hwords
  | some name =>
    cases hname' : after'.scanner.current with
    | none => simp [hname, hname', TokenSet.toList] at hwords
    | some name' => simp [h.flagged_eq hpasses hpasses' hafter hafter' hname hname']

/-- Flags are the same for both, if either both have some or neither has. -/
theorem regexFlags_abreast {flags flags' : Option Token} (h : Abreast all all' [] parser twin)
    (htouched : parser.Touched ↔ twin.Touched) (hgives : (regexFlags parser).Gives flags after)
    (hgives' : (regexFlags twin).Gives flags' after') (hafter : after.OnCourse all)
    (hafter' : after'.OnCourse all') :
    Abreast all all' [] after after' ∧ flags.map Token.text = flags'.map Token.text := by
  obtain ⟨text, hparser⟩ := h.left
  obtain ⟨text', htwin⟩ := h.right
  rcases hparser.regexFlags_iff.1 hgives with ⟨hyes, token, htoken, rfl⟩ | ⟨hno, rfl, rfl⟩
  · obtain ⟨-, token', htoken', rfl⟩ | ⟨hno', -⟩ := htwin.regexFlags_iff.1 hgives'
    · obtain ⟨habreast, hsame⟩ := h.takes htoken htoken' hafter hafter'
      exact ⟨habreast, congrArg some hsame.text_eq.symm⟩
    · exact absurd (htouched.1 hyes) hno'
  · obtain ⟨hyes', -⟩ | ⟨-, rfl, rfl⟩ := htwin.regexFlags_iff.1 hgives'
    · exact absurd (htouched.2 hyes') hno
    · exact ⟨h, rfl⟩

/-- Regular expressions are the same for both. -/
theorem regexLiteral_abreast {set set' : RegexSet} (h : Abreast all all' [] parser twin)
    (hgives : (regexLiteral parser).Gives set after) (hgives' : (regexLiteral twin).Gives set' after')
    (hafter : after.OnCourse all) (hafter' : after'.OnCourse all') :
    Abreast all all' [] after after' ∧ set = set' := by
  obtain ⟨text, hparser⟩ := h.left
  obtain ⟨text', htwin⟩ := h.right
  obtain ⟨_, inside, inner, behind, closing, atFlags, flags, hread, hcloses, hencloses, hflags,
    hcompiled⟩ := hparser.encloses_regexLiteral hgives
  obtain ⟨_, inside', inner', behind', closing', atFlags', flags', hread', hcloses', hencloses',
    hflags', hcompiled'⟩ := htwin.encloses_regexLiteral hgives'
  have hatFlags := h.courseLeft.between (fun _ _ => ⟨hencloses.outside, hencloses.passes⟩)
    (regexFlags_follows hflags) hafter
  have hatFlags' := h.courseRight.between (fun _ _ => ⟨hencloses'.outside, hencloses'.passes⟩)
    (regexFlags_follows hflags') hafter'
  obtain ⟨hbehind, habreast, hwords⟩ := h.of_encloses regexDisjunction_twins hencloses hencloses'
    hread hread' hatFlags.awaits hatFlags'.awaits
  have htouched := hbehind.touched_iff hencloses.closes hencloses'.closes hatFlags.awaits
    hatFlags'.awaits hcloses hcloses' hencloses.previousEnd_eq hencloses'.previousEnd_eq
  obtain ⟨hend, hletters⟩ := regexFlags_abreast habreast htouched hflags hflags' hafter hafter'
  rw [textOfSets_eq_of_words hwords, hletters, hcompiled'] at hcompiled
  exact ⟨hend, (Except.ok.inj hcompiled).symm⟩

/-! ## Terminals -/

/-- A taken token that is added as the same terminal by both is at the same place for both. -/
theorem Abreast.takes_intern {middle' : Parser} {rules : List String} {token token' : Token}
    {id id' : TerminalId} (value : Token → Terminal) (h : Abreast all all' [] parser twin)
    (htakes : parser.Takes rules token middle) (htakes' : twin.Takes rules token' middle')
    (hvalue : SameToken token token' → value token' = value token)
    (hintern : (middle.intern (value token)).Gives id after)
    (hintern' : (middle'.intern (value token')).Gives id' after')
    (hafter : after.OnCourse all) (hafter' : after'.OnCourse all') :
    Abreast all all' [] after after' ∧ id = id' := by
  have hstep := stepwise_follows
  have hmiddle := h.courseLeft.between htakes.follows ((hstep.refl _).intern hintern) hafter
  have hmiddle' := h.courseRight.between htakes'.follows ((hstep.refl _).intern hintern') hafter'
  obtain ⟨habreast, hsame⟩ := h.takes htakes htakes' hmiddle hmiddle'
  rw [hvalue hsame] at hintern'
  exact habreast.intern hintern hintern'

theorem terminal_abreast {id id' : TerminalId} (h : Abreast all all' [] parser twin)
    (hgives : (terminal parser).Gives id after) (hgives' : (terminal twin).Gives id' after')
    (hafter : after.OnCourse all) (hafter' : after'.OnCourse all') :
    Abreast all all' [] after after' ∧ id = id' := by
  have hcases' := terminal_gives.1 hgives'
  obtain ⟨token, middle, htoken, hintern⟩ | ⟨hlacks, hmore⟩ := terminal_gives.1 hgives
  · obtain ⟨token', middle', htoken', hintern'⟩ := h.level.of_takes htoken hcases'
    exact Abreast.takes_intern (fun token => .ident token.text) h htoken htoken'
      (fun hsame => congrArg Terminal.ident hsame.text_eq) hintern hintern' hafter hafter'
  replace hcases' := h.level.of_lacks hlacks hcases'
  obtain ⟨token, middle, htoken, hintern⟩ | ⟨hlacks, hmore⟩ := hmore
  · obtain ⟨token', middle', htoken', hintern'⟩ := h.level.of_takes htoken hcases'
    exact Abreast.takes_intern (fun token => .number (numberOf token)) h htoken htoken'
      (fun hsame => congrArg Terminal.number hsame.numberOf_eq) hintern hintern' hafter hafter'
  replace hcases' := h.level.of_lacks hlacks hcases'
  obtain ⟨token, middle, htoken, hintern⟩ | ⟨hlacks, -, set, middle, hset, hintern⟩ := hmore
  · obtain ⟨token', middle', htoken', hintern'⟩ := h.level.of_takes htoken hcases'
    exact Abreast.takes_intern (fun token => .string (textOf token)) h htoken htoken'
      (fun hsame => congrArg Terminal.string hsame.textOf_eq) hintern hintern' hafter hafter'
  obtain ⟨-, set', middle', hset', hintern'⟩ := h.level.of_lacks hlacks hcases'
  have hstep := stepwise_follows
  have hmiddle := h.courseLeft.between (regexLiteral_follows hset) ((hstep.refl _).intern hintern)
    hafter
  have hmiddle' := h.courseRight.between (regexLiteral_follows hset')
    ((hstep.refl _).intern hintern') hafter'
  obtain ⟨habreast, rfl⟩ := regexLiteral_abreast h hset hset' hmiddle hmiddle'
  exact habreast.intern hintern hintern'

/-! ## Suffixes -/

theorem upperBound_follows {bound : Option UInt64} (hgives : (upperBound parser).Gives bound after) :
    parser.Follows after := by
  obtain ⟨highest, hhighest, -⟩ | ⟨-, -, rfl⟩ := upperBound_gives.1 hgives
  · exact hhighest.follows
  · exact stepwise_follows.refl parser

theorem upperBound_abreast {bound bound' : Option UInt64} (h : Abreast all all' [] parser twin)
    (hgives : (upperBound parser).Gives bound after) (hgives' : (upperBound twin).Gives bound' after')
    (hafter : after.OnCourse all) (hafter' : after'.OnCourse all') :
    Abreast all all' [] after after' ∧ bound = bound' := by
  obtain ⟨highest, hhighest, rfl⟩ | ⟨hlacks, rfl, rfl⟩ := upperBound_gives.1 hgives
  · obtain ⟨highest', hhighest', rfl⟩ := h.level.of_takes hhighest (upperBound_gives.1 hgives')
    obtain ⟨habreast, hsame⟩ := h.takes hhighest hhighest' hafter hafter'
    exact ⟨habreast, congrArg some hsame.numberOf_eq.symm⟩
  · obtain ⟨highest', hhighest', -⟩ | ⟨-, rfl, rfl⟩ := upperBound_gives.1 hgives'
    · exact absurd hhighest' (h.level.not_takes hlacks)
    · exact ⟨h, rfl⟩

theorem takesUpper_follows {lower : UInt64} {upper : Option UInt64}
    (hupper : parser.TakesUpper lower upper after) : parser.Follows after := by
  obtain ⟨comma, middle, hcomma, hbound⟩ | ⟨-, -, rfl⟩ := hupper
  · exact hcomma.follows.trans (upperBound_follows hbound)
  · exact stepwise_follows.refl parser

theorem takesUpper_abreast {lower : UInt64} {upper upper' : Option UInt64}
    (h : Abreast all all' [] parser twin) (hupper : parser.TakesUpper lower upper after)
    (hupper' : twin.TakesUpper lower upper' after') (hafter : after.OnCourse all)
    (hafter' : after'.OnCourse all') : Abreast all all' [] after after' ∧ upper = upper' := by
  obtain ⟨comma, middle, hcomma, hbound⟩ | ⟨hlacks, rfl, rfl⟩ := hupper
  · obtain ⟨comma', middle', hcomma', hbound'⟩ := h.level.of_takes hcomma hupper'
    obtain ⟨habreast, -⟩ := h.takes hcomma hcomma'
      (h.courseLeft.between hcomma.follows (upperBound_follows hbound) hafter)
      (h.courseRight.between hcomma'.follows (upperBound_follows hbound') hafter')
    exact upperBound_abreast habreast hbound hbound' hafter hafter'
  · obtain ⟨comma', middle', hcomma', -⟩ | ⟨-, rfl, rfl⟩ := hupper'
    · exact absurd hcomma' (h.level.not_takes hlacks)
    · exact ⟨h, rfl⟩

theorem rangeSuffix_abreast {suffix suffix' : Suffix} (h : Abreast all all' [] parser twin)
    (hgives : (rangeSuffix parser).Gives suffix after)
    (hgives' : (rangeSuffix twin).Gives suffix' after')
    (hafter : after.OnCourse all) (hafter' : after'.OnCourse all') :
    Abreast all all' [] after after' ∧ suffix = suffix' := by
  obtain ⟨opening, inside, hopening, lowest, atUpper, hlowest, upper, atEnd, hupper, closing,
    hclosing, -, rfl⟩ := rangeSuffix_gives.1 hgives
  obtain ⟨opening', inside', hopening', lowest', atUpper', hlowest', upper', atEnd', hupper', closing',
    hclosing', -, rfl⟩ := rangeSuffix_gives.1 hgives'
  have hfront := hopening.follows.trans hlowest.follows
  have hfront' := hopening'.follows.trans hlowest'.follows
  have hatEnd := h.courseLeft.between (hfront.trans (takesUpper_follows hupper)) hclosing.follows hafter
  have hatEnd' :=
    h.courseRight.between (hfront'.trans (takesUpper_follows hupper')) hclosing'.follows hafter'
  have hatUpper := h.courseLeft.between hfront (takesUpper_follows hupper) hatEnd
  have hatUpper' := h.courseRight.between hfront' (takesUpper_follows hupper') hatEnd'
  obtain ⟨hinside, -⟩ := h.takes hopening hopening'
    (h.courseLeft.between hopening.follows hlowest.follows hatUpper)
    (h.courseRight.between hopening'.follows hlowest'.follows hatUpper')
  obtain ⟨hupperAbreast, hlower⟩ := hinside.takes hlowest hlowest' hatUpper hatUpper'
  rw [hlower.numberOf_eq] at hupper' ⊢
  obtain ⟨hend, rfl⟩ := takesUpper_abreast hupperAbreast hupper hupper' hatEnd hatEnd'
  exact ⟨(hend.takes hclosing hclosing' hafter hafter').1, rfl⟩

/-- The rules of the current tokens are those of the mode that the parser is in. -/
theorem Stands.mem_namesOf {mode : String} {entered : List String} {rule : String}
    (h : parser.Stands (mode :: entered) text) (hsees : parser.sees rule = true) :
    rule ∈ Lexicon.namesOf mode := by
  obtain ⟨set, hcurrent, token, hoffers⟩ := current_of_sees hsees
  have hfirst := h.at_text.first
  generalize parser.scanner.spot = spot at hfirst
  rw [hcurrent] at hfirst
  cases hfirst with
  | lexeme passed lexeme read =>
    obtain ⟨other, hother, value, -, rfl⟩ := Reads.of_mem read hoffers.mem
    rw [← hoffers.rule_eq, ← Lexicon.names_rulesInMode h.table]
    exact List.mem_map_of_mem (List.mem_filter.1 hother).1

/-- Where one parser reads a range, the other one does not read code: no number is scanned there. -/
theorem not_codeBehind_of_rangeSuffix {suffix : Suffix} {code : Option CodeSegment}
    (h : Abreast all all' [] parser twin) (hgives : (rangeSuffix parser).Gives suffix after)
    (hafter : after.OnCourse all) (hafter' : after'.OnCourse all') :
    ¬ (codeBehind twin).Gives code after' := by
  intro hcode
  obtain ⟨opening, inside, hopening, lowest, atUpper, hlowest, upper, atEnd, hupper, closing,
    hclosing, -⟩ := rangeSuffix_gives.1 hgives
  obtain ⟨rule, hrule, hbrace⟩ := hopening.exists_sees
  rw [List.mem_singleton.1 hrule] at hbrace
  obtain ⟨rule, hrule, hnumber⟩ := hlowest.exists_sees
  rw [List.mem_singleton.1 hrule] at hnumber
  obtain ⟨-, segment, hsegment, -⟩ | ⟨hnone, -⟩ := codeBehind_gives.1 hcode
  · obtain ⟨text', htwin⟩ := h.right
    obtain ⟨_, inside', _, _, _, -, -, hencloses⟩ := htwin.encloses_codeSegment hsegment
    obtain ⟨text, hinside'⟩ := hencloses.stands
    have hrest := (hlowest.follows.trans (takesUpper_follows hupper)).trans hclosing.follows
    have hinside := h.courseLeft.between hopening.follows hrest hafter
    obtain ⟨set, hskips, -⟩ := hopening.skips
    obtain ⟨text'', hparser⟩ := h.left
    obtain ⟨rest', hrest'⟩ := h.courseRight.awaits
    obtain ⟨further', hfurther'⟩ := hafter'.awaits
    have hawaits' := (hrest'.between hencloses.opens
      ((hencloses.skips.passes hinside').1.trans hencloses.closes) hfurther').2
    obtain ⟨hlevel, -⟩ := h.level.along (hparser.passes_skip hskips) hencloses.opens rfl
      hinside.awaits ⟨_, hawaits'⟩
    rw [← hlevel.sees_eq] at hnumber
    exact absurd (hinside'.mem_namesOf hnumber) (by decide)
  · rw [h.level.sees_eq, hbrace] at hnone
    contradiction

/-- Suffixes are the same for both, with code or without it behind them. -/
theorem suffixes_abreast {parser twin atCode atCode' : Parser} {found found' : List Suffix}
    {code code' : Option CodeSegment} (h : Abreast all all' [] parser twin)
    (hgives : parser.suffixes.Gives found atCode) (hgives' : twin.suffixes.Gives found' atCode')
    (hcode : (codeBehind atCode).Gives code after) (hcode' : (codeBehind atCode').Gives code' after')
    (hafter : after.OnCourse all) (hafter' : after'.OnCourse all') :
    Abreast all all' [] atCode atCode' ∧ found = found' := by
  have hstep := stepwise_follows
  have hatCode := h.courseLeft.between (hstep.suffixes hgives) (hstep.codeBehind hcode) hafter
  have hatCode' := h.courseRight.between (hstep.suffixes hgives') (hstep.codeBehind hcode') hafter'
  have hcases' := suffixes_gives.1 hgives'
  rcases suffixes_gives.1 hgives with ⟨sign, middle, hsign, others, hmore, rfl⟩ | ⟨hlacks, hmore⟩
  · obtain ⟨sign', middle', hsign', others', hmore', rfl⟩ := h.level.of_takes hsign hcases'
    obtain ⟨hmiddle, hsame⟩ := h.takes hsign hsign'
      (h.courseLeft.between hsign.follows (hstep.suffixes hmore) hatCode)
      (h.courseRight.between hsign'.follows (hstep.suffixes hmore') hatCode')
    obtain ⟨hend, rfl⟩ := suffixes_abreast hmiddle hmore hmore' hcode hcode' hafter hafter'
    exact ⟨hend, by rw [hsame.rule_eq]⟩
  · replace hcases' := h.level.of_lacks hlacks hcases'
    rcases hmore with ⟨-, first, middle, hfirst, others, hmore, rfl⟩ | ⟨-, rfl, rfl⟩
    · have hmiddle := h.courseLeft.between (hstep.rangeSuffix hfirst) (hstep.suffixes hmore) hatCode
      rcases hcases' with ⟨-, first', middle', hfirst', others', hmore', rfl⟩ | ⟨-, rfl, rfl⟩
      · obtain ⟨hbehind, rfl⟩ := rangeSuffix_abreast h hfirst hfirst' hmiddle
          (h.courseRight.between (hstep.rangeSuffix hfirst') (hstep.suffixes hmore') hatCode')
        obtain ⟨hend, rfl⟩ := suffixes_abreast hbehind hmore hmore' hcode hcode' hafter hafter'
        exact ⟨hend, rfl⟩
      · exact absurd hcode' (not_codeBehind_of_rangeSuffix h hfirst hmiddle hafter')
    · rcases hcases' with ⟨-, first', middle', hfirst', others', hmore', rfl⟩ | ⟨-, rfl, rfl⟩
      · have hmiddle' :=
          h.courseRight.between (hstep.rangeSuffix hfirst') (hstep.suffixes hmore') hatCode'
        exact absurd hcode (not_codeBehind_of_rangeSuffix h.symm hfirst' hmiddle' hafter)
      · exact ⟨h, rfl⟩
termination_by parser.remaining
decreasing_by
  · have hless := hsign.remaining_le
    omega
  · have hless := hfirst.remaining_le
    omega

end Parser

end GrammarLang.Grammar
