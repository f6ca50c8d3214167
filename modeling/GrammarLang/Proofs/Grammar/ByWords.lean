import GrammarLang.Proofs.Grammar.AbreastParts
import GrammarLang.Proofs.Grammar.ReadsBack

/-! # A grammar text is read by its words

Two texts whose token sets have the same words, and the same flags among them, are parsed to the same
grammar: **`parsed_by_words`**. The two runs are abreast all the way, from one function of the parser
to the next. Blanks and comments have no part in it but for the flags. -/

namespace GrammarLang.Grammar

open GrammarLang.Scan GrammarLang.Text

open Lexicon (ident number string)

namespace Parser

variable {all all' : List TokenSet} {parser twin middle after after' : Parser} {text : List Char}

/-- All places match. -/
def anyPlaces (_ _ : Span) : Prop := True

/-! ## What stands around an element -/

/-- Code behind an element is the same for both. -/
theorem codeBehind_abreast {code code' : Option CodeSegment} (h : Abreast all all' [] parser twin)
    (hgives : (codeBehind parser).Gives code after) (hgives' : (codeBehind twin).Gives code' after')
    (hafter : after.OnCourse all) (hafter' : after'.OnCourse all') :
    Abreast all all' [] after after' ∧ CodesMatch anyPlaces code code' := by
  have hcases' := codeBehind_gives.1 hgives'
  rw [h.level.sees_eq] at hcases'
  obtain ⟨hopens, segment, hsegment, rfl⟩ | ⟨hnone, rfl, rfl⟩ := codeBehind_gives.1 hgives
  · obtain ⟨-, segment', hsegment', rfl⟩ | ⟨hnone', -⟩ := hcases'
    · obtain ⟨habreast, htext⟩ := codeSegment_abreast h hsegment hsegment' hafter hafter'
      exact ⟨habreast, .some trivial htext⟩
    · exact absurd (hopens.symm.trans hnone') (by decide)
  · obtain ⟨hopens', -⟩ | ⟨-, rfl, rfl⟩ := hcases'
    · exact absurd (hopens'.symm.trans hnone) (by decide)
    · exact ⟨h, .none⟩

/-- How code in front of an element goes on behind a first piece of code: if there is a question mark,
that piece is the predicate, and there may be a second one. -/
def GoesOnInFront (parser : Parser) (first : CodeSegment) (predicate code : Option CodeSegment)
    (after : Parser) : Prop :=
  (∃ mark behind, parser.Takes ["?"] mark behind ∧ some first = predicate ∧
    (codeBehind behind).Gives code after) ∨
  parser.Lacks ["?"] ∧ none = predicate ∧ some first = code ∧ parser = after

theorem codeInFront_iff {predicate code : Option CodeSegment} :
    (codeInFront parser).Gives (predicate, code) after ↔
      (parser.sees "\x7b" = true ∧ ∃ first middle, (codeSegment parser).Gives first middle ∧
        middle.GoesOnInFront first predicate code after) ∨
      parser.sees "\x7b" = false ∧ none = predicate ∧ none = code ∧ parser = after := by
  simp only [codeInFront_gives, GoesOnInFront, codeBehind_gives]

theorem goesOnInFront_abreast {first first' : CodeSegment}
    {predicate predicate' code code' : Option CodeSegment} (h : Abreast all all' [] parser twin)
    (htext : first.text = first'.text) (hrest : parser.GoesOnInFront first predicate code after)
    (hrest' : twin.GoesOnInFront first' predicate' code' after') (hafter : after.OnCourse all)
    (hafter' : after'.OnCourse all') :
    Abreast all all' [] after after' ∧ CodesMatch anyPlaces predicate predicate' ∧
      CodesMatch anyPlaces code code' := by
  have hstep := stepwise_follows
  obtain ⟨mark, behind, hmark, rfl, hcode⟩ | ⟨hlacks, rfl, rfl, rfl⟩ := hrest
  · obtain ⟨mark', behind', hmark', rfl, hcode'⟩ := h.level.of_takes hmark hrest'
    obtain ⟨hbehind, -⟩ := h.takes hmark hmark'
      (h.courseLeft.between hmark.follows (hstep.codeBehind hcode) hafter)
      (h.courseRight.between hmark'.follows (hstep.codeBehind hcode') hafter')
    obtain ⟨habreast, hmatch⟩ := codeBehind_abreast hbehind hcode hcode' hafter hafter'
    exact ⟨habreast, .some trivial htext, hmatch⟩
  · obtain ⟨mark', behind', hmark', -⟩ | ⟨-, rfl, rfl, rfl⟩ := hrest'
    · exact absurd hmark' (h.level.not_takes hlacks)
    · exact ⟨h, .none, .some trivial htext⟩

theorem codeInFront_abreast {predicate predicate' code code' : Option CodeSegment}
    (h : Abreast all all' [] parser twin) (hgives : (codeInFront parser).Gives (predicate, code) after)
    (hgives' : (codeInFront twin).Gives (predicate', code') after') (hafter : after.OnCourse all)
    (hafter' : after'.OnCourse all') :
    Abreast all all' [] after after' ∧ CodesMatch anyPlaces predicate predicate' ∧
      CodesMatch anyPlaces code code' := by
  have hstep := stepwise_follows
  have hrest {one last : Parser} {first : CodeSegment} {predicate code : Option CodeSegment}
      (h : one.GoesOnInFront first predicate code last) : one.Follows last := by
    obtain ⟨mark, behind, hmark, -, hcode⟩ | ⟨-, -, -, rfl⟩ := h
    · exact hmark.follows.trans (hstep.codeBehind hcode)
    · exact hstep.refl one
  have hcases' := codeInFront_iff.1 hgives'
  rw [h.level.sees_eq] at hcases'
  obtain ⟨hopens, first, middle, hfirst, hmore⟩ | ⟨hnone, rfl, rfl, rfl⟩ := codeInFront_iff.1 hgives
  · obtain ⟨-, first', middle', hfirst', hmore'⟩ | ⟨hnone', -⟩ := hcases'
    · obtain ⟨hmiddle, htext⟩ := codeSegment_abreast h hfirst hfirst'
        (h.courseLeft.between (hstep.code hfirst) (hrest hmore) hafter)
        (h.courseRight.between (hstep.code hfirst') (hrest hmore') hafter')
      exact goesOnInFront_abreast hmiddle htext hmore hmore' hafter hafter'
    · exact absurd (hopens.symm.trans hnone') (by decide)
  · obtain ⟨hopens', -⟩ | ⟨-, rfl, rfl, rfl⟩ := hcases'
    · exact absurd (hopens'.symm.trans hnone) (by decide)
    · exact ⟨h, .none, .none⟩

/-! ## Labels -/

/-- Where a name is seen, nothing else is, unless the name is the keyword. -/
theorem Stands.eq_of_sees_ident {entered : List String} {rule : String} (h : parser.Stands entered text)
    (hident : parser.sees ident = true) (hsees : parser.sees rule = true) :
    rule = ident ∨ rule = Lexicon.keyword := by
  rw [sees_eq_any, List.any_eq_true] at hident hsees
  obtain ⟨name, hname, hrule⟩ := hident
  obtain ⟨token, htoken, hrule'⟩ := hsees
  obtain rfl := of_decide_eq_true hrule'
  rcases (h.standsIn rfl).rules_current with hone | hnames
  · obtain rfl : token = name := by
      generalize parser.scanner.currentTokens = tokens at hone hname htoken
      match tokens with
      | [] => contradiction
      | [only] => rw [List.mem_singleton.1 htoken, List.mem_singleton.1 hname]
    exact .inl (of_decide_eq_true hrule)
  · have hmem := List.mem_map_of_mem (f := Token.rule) htoken
    rw [hnames] at hmem
    simpa [or_comm] using hmem

/-- An element that starts with a name is this name. -/
theorem exists_takes_of_element {element : Element} (h : parser.Stands [] text)
    (hident : parser.sees ident = true) (hgives : (Parser.element parser).Gives element after) :
    ∃ token middle id, parser.Takes [ident] token middle ∧
      (middle.intern (.ident token.text)).Gives id after := by
  have hno {rules : List String} {token : Token} {behind : Parser}
      (htakes : parser.Takes rules token behind)
      (hrules : ident ∉ rules ∧ Lexicon.keyword ∉ rules) : False := by
    obtain ⟨rule, hrule, hsees⟩ := htakes.exists_sees
    rcases h.eq_of_sees_ident hident hsees with rfl | rfl
    · exact hrules.1 hrule
    · exact hrules.2 hrule
  obtain ⟨sign, middle, hsign, -⟩ | ⟨-, ⟨opening, inside, hopening, -⟩ | ⟨-, id, hterminal, -⟩⟩ :=
    element_gives.1 hgives
  · exact (hno hsign (by decide)).elim
  · exact (hno hopening (by decide)).elim
  · obtain ⟨token, middle, htoken, hintern⟩ | ⟨hlacks, -⟩ := terminal_gives.1 hterminal
    · exact ⟨token, middle, id, htoken, hintern⟩
    · rw [lacks_iff_sees.1 hlacks ident (List.mem_singleton_self _)] at hident
      contradiction

/-- Where one parser reads a label, the other one does not read its name as an element: it would stand
in front of the sign behind the label, which it has not foreseen. -/
theorem not_element_of_label {name equals : Token} {element : Element}
    (h : Abreast all all' [] parser twin) (hname : parser.Takes [ident] name middle)
    (hequals : middle.Takes ["="] equals after) (hmiddle : middle.OnCourse all)
    (hforesees : twin.Foresees [ident, "="] false) (hafter' : after'.OnCourse all') :
    ¬ (Parser.element twin).Gives element after' := by
  intro helement
  obtain ⟨text', htwin⟩ := h.right
  obtain ⟨rule, hrule, hident⟩ := hname.exists_sees
  rw [List.mem_singleton.1 hrule, ← h.level.sees_eq] at hident
  obtain ⟨rule, hrule, hsign⟩ := hequals.exists_sees
  rw [List.mem_singleton.1 hrule] at hsign
  obtain ⟨token, middle', id, htoken, hintern⟩ := exists_takes_of_element htwin hident helement
  obtain ⟨hlevel, -⟩ := h.takes hname htoken hmiddle
    (h.courseRight.between htoken.follows ((stepwise_follows.refl _).intern hintern) hafter')
  obtain ⟨set, hskips, -⟩ := htoken.skips
  rw [← hlevel.level.sees_eq, (htwin.skip hskips).stands.sees_eq .equals] at hsign
  rw [htwin.foresees_iff .equals .equals, hident, hsign] at hforesees
  contradiction

/-- Labels are the same for both, with the element behind them. -/
theorem labelName_abreast {atElement atElement' : Parser} {label label' : Option String}
    {element element' : Element} (h : Abreast all all' [] parser twin)
    (hgives : (labelName parser).Gives label atElement)
    (hgives' : (labelName twin).Gives label' atElement')
    (helement : (Parser.element atElement).Gives element after)
    (helement' : (Parser.element atElement').Gives element' after')
    (hatElement : atElement.OnCourse all) (hatElement' : atElement'.OnCourse all')
    (hafter : after.OnCourse all) (hafter' : after'.OnCourse all') :
    Abreast all all' [] atElement atElement' ∧ label = label' := by
  rcases labelName_gives.1 hgives with ⟨-, name, middle, hname, equals, hequals, rfl⟩ | ⟨hno, rfl, rfl⟩
  · have hmiddle := h.courseLeft.between hname.follows hequals.follows hatElement
    rcases labelName_gives.1 hgives' with ⟨-, name', middle', hname', equals', hequals', rfl⟩ |
      ⟨hno', rfl, rfl⟩
    · obtain ⟨hbehind, hsame⟩ := h.takes hname hname' hmiddle
        (h.courseRight.between hname'.follows hequals'.follows hatElement')
      exact ⟨(hbehind.takes hequals hequals' hatElement hatElement').1,
        congrArg some hsame.text_eq.symm⟩
    · exact absurd helement' (not_element_of_label h hname hequals hmiddle hno' hafter')
  · rcases labelName_gives.1 hgives' with ⟨-, name', middle', hname', equals', hequals', rfl⟩ |
      ⟨-, rfl, rfl⟩
    · have hmiddle' := h.courseRight.between hname'.follows hequals'.follows hatElement'
      exact absurd helement (not_element_of_label h.symm hname' hequals' hmiddle' hno hafter)
    · exact ⟨h, rfl⟩

/-! ## The tree -/

theorem groupKindOf_eq {token token' : Token} (h : SameToken token token') :
    groupKindOf token' = groupKindOf token := by
  rw [groupKindOf, groupKindOf, h.rule_eq]

mutual

theorem branches_abreast {parser twin after after' : Parser} {found found' : List Branch}
    (h : Abreast all all' [] parser twin) (hgives : parser.branches.Gives found after)
    (hgives' : twin.branches.Gives found' after') (hafter : after.OnCourse all)
    (hafter' : after'.OnCourse all') :
    Abreast all all' [] after after' ∧ BranchesMatch Eq anyPlaces found found' := by
  have hstep := stepwise_follows
  obtain ⟨first, middle, hfirst, hmore⟩ := branches_gives.1 hgives
  obtain ⟨first', middle', hfirst', hmore'⟩ := branches_gives.1 hgives'
  have hcomponents := (branch_gives.1 hfirst).1
  have hcomponents' := (branch_gives.1 hfirst').1
  have hrest {one last : Parser} {first : Branch} {found : List Branch}
      (h : (∃ bar behind, one.Takes ["|"] bar behind ∧ ∃ others, behind.branches.Gives others last ∧
        first :: others = found) ∨ one.Lacks ["|"] ∧ [first] = found ∧ one = last) :
      one.Follows last := by
    obtain ⟨bar, behind, hbar, others, hothers, -⟩ | ⟨-, -, rfl⟩ := h
    · exact hbar.follows.trans (hstep.branches hothers)
    · exact hstep.refl one
  obtain ⟨hmiddle, hmatch⟩ := components_abreast h hcomponents hcomponents'
    (h.courseLeft.between (hstep.components hcomponents) (hrest hmore) hafter)
    (h.courseRight.between (hstep.components hcomponents') (hrest hmore') hafter')
  have hbranch : first.Matches Eq anyPlaces first' := by
    obtain ⟨span, parts⟩ := first
    obtain ⟨span', parts'⟩ := first'
    exact .components trivial hmatch
  rcases hmore with ⟨bar, behind, hbar, others, hothers, rfl⟩ | ⟨hlacks, rfl, rfl⟩
  · obtain ⟨bar', behind', hbar', others', hothers', rfl⟩ := hmiddle.level.of_takes hbar hmore'
    obtain ⟨hbehind, -⟩ := hmiddle.takes hbar hbar'
      (hmiddle.courseLeft.between hbar.follows (hstep.branches hothers) hafter)
      (hmiddle.courseRight.between hbar'.follows (hstep.branches hothers') hafter')
    obtain ⟨habreast, hothersMatch⟩ := branches_abreast hbehind hothers hothers' hafter hafter'
    exact ⟨habreast, .cons hbranch hothersMatch⟩
  · obtain ⟨rfl, rfl⟩ := hmiddle.level.of_lacks hlacks hmore'
    exact ⟨hmiddle, .cons hbranch .nil⟩
termination_by 4 * parser.remaining + 3
decreasing_by
  · omega
  · have hless := hfirst.remaining_le
    have hless' := hbar.remaining_le
    omega

theorem components_abreast {parser twin after after' : Parser} {found found' : List Component}
    (h : Abreast all all' [] parser twin) (hgives : parser.components.Gives found after)
    (hgives' : twin.components.Gives found' after') (hafter : after.OnCourse all)
    (hafter' : after'.OnCourse all') :
    Abreast all all' [] after after' ∧ ComponentsMatch Eq anyPlaces found found' := by
  have hstep := stepwise_follows
  have hcases' := components_gives.1 hgives'
  rw [h.level.seesAny_eq] at hcases'
  obtain ⟨hends, rfl, rfl⟩ | ⟨hgoes, first, middle, hfirst, others, hothers, rfl⟩ :=
    components_gives.1 hgives
  · obtain ⟨-, rfl, rfl⟩ | ⟨hgoes', -⟩ := hcases'
    · exact ⟨h, .nil⟩
    · exact absurd (hends.symm.trans hgoes') (by decide)
  · obtain ⟨hends', -⟩ | ⟨-, first', middle', hfirst', others', hothers', rfl⟩ := hcases'
    · exact absurd (hends'.symm.trans hgoes) (by decide)
    · obtain ⟨hmiddle, hmatch⟩ := component_abreast h hfirst hfirst'
        (h.courseLeft.between (hstep.component hfirst) (hstep.components hothers) hafter)
        (h.courseRight.between (hstep.component hfirst') (hstep.components hothers') hafter')
      obtain ⟨habreast, hothersMatch⟩ := components_abreast hmiddle hothers hothers' hafter hafter'
      exact ⟨habreast, .cons hmatch hothersMatch⟩
termination_by 4 * parser.remaining + 2
decreasing_by
  · omega
  · have hless := hfirst.remaining_le
    omega

theorem component_abreast {parser twin after after' : Parser} {found found' : Component}
    (h : Abreast all all' [] parser twin) (hgives : parser.component.Gives found after)
    (hgives' : twin.component.Gives found' after') (hafter : after.OnCourse all)
    (hafter' : after'.OnCourse all') :
    Abreast all all' [] after after' ∧ found.Matches Eq anyPlaces found' := by
  have hstep := stepwise_follows
  obtain ⟨span, label, predicate, codeBefore, element, suffixes, codeAfter⟩ := found
  obtain ⟨span', label', predicate', codeBefore', element', suffixes', codeAfter'⟩ := found'
  obtain ⟨atLabel, hinFront, atElement, hlabel, atSuffixes, helement, atCode, hsuffixes, hbehind,
    -⟩ := component_gives.1 hgives
  obtain ⟨atLabel', hinFront', atElement', hlabel', atSuffixes', helement', atCode', hsuffixes',
    hbehind', -⟩ := component_gives.1 hgives'
  -- All states between the parts are on the course of their run.
  have hlast := hstep.trans (hstep.suffixes hsuffixes) (hstep.codeBehind hbehind)
  have hlast' := hstep.trans (hstep.suffixes hsuffixes') (hstep.codeBehind hbehind')
  have hfront := hstep.trans (hstep.codeInFront hinFront) (hstep.labelName hlabel)
  have hfront' := hstep.trans (hstep.codeInFront hinFront') (hstep.labelName hlabel')
  have hatSuffixes := h.courseLeft.between (hstep.trans hfront (hstep.element helement)) hlast hafter
  have hatSuffixes' :=
    h.courseRight.between (hstep.trans hfront' (hstep.element helement')) hlast' hafter'
  have hatElement := h.courseLeft.between hfront (hstep.element helement) hatSuffixes
  have hatElement' := h.courseRight.between hfront' (hstep.element helement') hatSuffixes'
  have hatLabel := h.courseLeft.between (hstep.codeInFront hinFront) (hstep.labelName hlabel) hatElement
  have hatLabel' :=
    h.courseRight.between (hstep.codeInFront hinFront') (hstep.labelName hlabel') hatElement'
  -- So the parts are read abreast one by one.
  obtain ⟨h, hpredicate, hbefore⟩ := codeInFront_abreast h hinFront hinFront' hatLabel hatLabel'
  obtain ⟨h, rfl⟩ := labelName_abreast h hlabel hlabel' helement helement' hatElement hatElement'
    hatSuffixes hatSuffixes'
  obtain ⟨h, hmatch⟩ := element_abreast h helement helement' hatSuffixes hatSuffixes'
  obtain ⟨h, rfl⟩ := suffixes_abreast h hsuffixes hsuffixes' hbehind hbehind' hafter hafter'
  obtain ⟨h, hcode⟩ := codeBehind_abreast h hbehind hbehind' hafter hafter'
  exact ⟨h, .parts trivial hpredicate hbefore hmatch hcode⟩
termination_by 4 * parser.remaining + 1
decreasing_by
  have hless := hinFront.remaining_le
  have hless' := hlabel.remaining_le
  omega

theorem element_abreast {parser twin after after' : Parser} {found found' : Element}
    (h : Abreast all all' [] parser twin) (hgives : parser.element.Gives found after)
    (hgives' : twin.element.Gives found' after') (hafter : after.OnCourse all)
    (hafter' : after'.OnCourse all') :
    Abreast all all' [] after after' ∧ found.Matches Eq anyPlaces found' := by
  have hstep := stepwise_follows
  have hcases' := element_gives.1 hgives'
  obtain ⟨sign, middle, hsign, inner, hinner, rfl⟩ | ⟨hlacks, hmore⟩ := element_gives.1 hgives
  · obtain ⟨sign', middle', hsign', inner', hinner', rfl⟩ := h.level.of_takes hsign hcases'
    obtain ⟨hmiddle, -⟩ := h.takes hsign hsign'
      (h.courseLeft.between hsign.follows (hstep.element hinner) hafter)
      (h.courseRight.between hsign'.follows (hstep.element hinner') hafter')
    obtain ⟨habreast, hmatch⟩ := element_abreast hmiddle hinner hinner' hafter hafter'
    exact ⟨habreast, .negation hmatch⟩
  replace hcases' := h.level.of_lacks hlacks hcases'
  obtain ⟨opening, inside, hopening, inner, behind, hinner, closing, hclosing, rfl⟩ |
    ⟨hlacks, id, hterminal, rfl⟩ := hmore
  · obtain ⟨opening', inside', hopening', inner', behind', hinner', closing', hclosing', rfl⟩ :=
      h.level.of_takes hopening hcases'
    have hbehind := h.courseLeft.between (hopening.follows.trans (hstep.branches hinner))
      hclosing.follows hafter
    have hbehind' := h.courseRight.between (hopening'.follows.trans (hstep.branches hinner'))
      hclosing'.follows hafter'
    obtain ⟨hinside, hsame⟩ := h.takes hopening hopening'
      (h.courseLeft.between hopening.follows (hstep.branches hinner) hbehind)
      (h.courseRight.between hopening'.follows (hstep.branches hinner') hbehind')
    obtain ⟨hend, hmatch⟩ := branches_abreast hinside hinner hinner' hbehind hbehind'
    rw [groupKindOf_eq hsame]
    exact ⟨(hend.takes hclosing hclosing' hafter hafter').1, .group hmatch⟩
  · obtain ⟨id', hterminal', rfl⟩ := h.level.of_lacks hlacks hcases'
    obtain ⟨habreast, rfl⟩ := terminal_abreast h hterminal hterminal' hafter hafter'
    exact ⟨habreast, .terminal rfl⟩
termination_by 4 * parser.remaining
decreasing_by
  · have hless := hsign.remaining_le
    omega
  · have hless := hopening.remaining_le
    omega

end

/-! ## Productions -/

theorem Abreast.tell (h : Abreast all all' [] parser twin) (detail detail' : Detail)
    (message message' : String) :
    Abreast all all' [] (parser.tell detail message) (twin.tell detail' message') := by
  obtain ⟨⟨text, hleft⟩, ⟨text', hright⟩, ⟨rest, rest', hrest, hrest', halike⟩, harena⟩ := h
  exact ⟨⟨text, (hleft.tell _ _).stands⟩, ⟨text', (hright.tell _ _).stands⟩,
    ⟨rest, rest', ⟨hrest.current, hrest.recorded⟩, ⟨hrest'.current, hrest'.recorded⟩, halike⟩, harena⟩

theorem production_abreast {found found' : Production} (h : Abreast all all' [] parser twin)
    (hgives : parser.production.Gives found after) (hgives' : twin.production.Gives found' after')
    (hafter : after.OnCourse all) (hafter' : after'.OnCourse all') :
    Abreast all all' [] after after' ∧ found.Matches Eq anyPlaces found' := by
  have hstep := stepwise_follows
  obtain ⟨name, atColon, hname, colon, inside, hcolon, atEnd, hbranches, semicolon, last, hsemicolon,
    hnamed, rfl, -⟩ := production_gives.1 hgives
  obtain ⟨name', atColon', hname', colon', inside', hcolon', atEnd', hbranches', semicolon', last',
    hsemicolon', hnamed', rfl, -⟩ := production_gives.1 hgives'
  have hfront := hname.follows.trans hcolon.follows
  have hfront' := hname'.follows.trans hcolon'.follows
  have hlast := h.courseLeft.between
    ((hfront.trans (hstep.branches hbranches)).trans hsemicolon.follows) (hstep.tell _ _ _) hafter
  have hlast' := h.courseRight.between
    ((hfront'.trans (hstep.branches hbranches')).trans hsemicolon'.follows) (hstep.tell _ _ _) hafter'
  have hatEnd := h.courseLeft.between (hfront.trans (hstep.branches hbranches)) hsemicolon.follows hlast
  have hatEnd' :=
    h.courseRight.between (hfront'.trans (hstep.branches hbranches')) hsemicolon'.follows hlast'
  have hinside := h.courseLeft.between hfront (hstep.branches hbranches) hatEnd
  have hinside' := h.courseRight.between hfront' (hstep.branches hbranches') hatEnd'
  obtain ⟨h, hsame⟩ := h.takes hname hname' (h.courseLeft.between hname.follows hcolon.follows hinside)
    (h.courseRight.between hname'.follows hcolon'.follows hinside')
  obtain ⟨h, -⟩ := h.takes hcolon hcolon' hinside hinside'
  obtain ⟨h, hmatch⟩ := branches_abreast h hbranches hbranches' hatEnd hatEnd'
  obtain ⟨h, -⟩ := h.takes hsemicolon hsemicolon' hlast hlast'
  exact ⟨h.tell .., trivial, by rw [hnamed, hnamed', hsame.text_eq], hmatch⟩

theorem productions_abreast {parser twin after after' : Parser} {found found' : List Production}
    (h : Abreast all all' [] parser twin) (hgives : parser.productions.Gives found after)
    (hgives' : twin.productions.Gives found' after') (hafter : after.OnCourse all)
    (hafter' : after'.OnCourse all') :
    Abreast all all' [] after after' ∧
      List.Forall₂ (Production.Matches Eq anyPlaces) found found' := by
  have hstep := stepwise_follows
  have hcases' := productions_gives.1 hgives'
  rw [h.level.sees_eq] at hcases'
  obtain ⟨hmore, first, middle, hfirst, others, hothers, rfl⟩ | ⟨hnone, rfl, rfl⟩ :=
    productions_gives.1 hgives
  · obtain ⟨-, first', middle', hfirst', others', hothers', rfl⟩ | ⟨hnone', -⟩ := hcases'
    · obtain ⟨hmiddle, hmatch⟩ := production_abreast h hfirst hfirst'
        (h.courseLeft.between (hstep.production hfirst) (hstep.productions hothers) hafter)
        (h.courseRight.between (hstep.production hfirst') (hstep.productions hothers') hafter')
      obtain ⟨habreast, hothersMatch⟩ := productions_abreast hmiddle hothers hothers' hafter hafter'
      exact ⟨habreast, .cons hmatch hothersMatch⟩
    · exact absurd (hmore.symm.trans hnone') (by decide)
  · obtain ⟨hmore', -⟩ | ⟨-, rfl, rfl⟩ := hcases'
    · exact absurd (hmore'.symm.trans hnone) (by decide)
    · exact ⟨h, .nil⟩
termination_by parser.remaining
decreasing_by
  have hless := hfirst.remaining_le
  omega

/-- Two grammars that are read abreast are the same but for the places of their nodes. -/
theorem wholeGrammar_abreast {grammar grammar' : Grammar} (h : Abreast all all' [] parser twin)
    (hgives : (wholeGrammar parser).Gives grammar after)
    (hgives' : (wholeGrammar twin).Gives grammar' after') (hafter : after.OnCourse all)
    (hafter' : after'.OnCourse all') :
    grammar.name = grammar'.name ∧
      List.Forall₂ (Production.Matches Eq anyPlaces) grammar.productions grammar'.productions ∧
      grammar.arena = grammar'.arena := by
  have hstep := stepwise_follows
  obtain ⟨keyword, atName, hkeyword, name, atOpening, hname, opening, inside, hopening, atClosing,
    hproductions, -, closing, hclosing, -, hnamed, harena, -⟩ := wholeGrammar_gives.1 hgives
  obtain ⟨keyword', atName', hkeyword', name', atOpening', hname', opening', inside', hopening',
    atClosing', hproductions', -, closing', hclosing', -, hnamed', harena', -⟩ :=
    wholeGrammar_gives.1 hgives'
  have hfront := hkeyword.follows.trans hname.follows
  have hfront' := hkeyword'.follows.trans hname'.follows
  have hatClosing := h.courseLeft.between
    ((hfront.trans hopening.follows).trans (hstep.productions hproductions)) hclosing.follows hafter
  have hatClosing' := h.courseRight.between
    ((hfront'.trans hopening'.follows).trans (hstep.productions hproductions')) hclosing'.follows hafter'
  have hinside := h.courseLeft.between (hfront.trans hopening.follows)
    (hstep.productions hproductions) hatClosing
  have hinside' := h.courseRight.between (hfront'.trans hopening'.follows)
    (hstep.productions hproductions') hatClosing'
  have hatOpening := h.courseLeft.between hfront hopening.follows hinside
  have hatOpening' := h.courseRight.between hfront' hopening'.follows hinside'
  obtain ⟨h, -⟩ := h.takes hkeyword hkeyword'
    (h.courseLeft.between hkeyword.follows hname.follows hatOpening)
    (h.courseRight.between hkeyword'.follows hname'.follows hatOpening')
  obtain ⟨h, hsame⟩ := h.takes hname hname' hatOpening hatOpening'
  obtain ⟨h, -⟩ := h.takes hopening hopening' hinside hinside'
  obtain ⟨h, hmatch⟩ := productions_abreast h hproductions hproductions' hatClosing hatClosing'
  obtain ⟨h, -⟩ := h.takes hclosing hclosing' hafter hafter'
  exact ⟨by rw [hnamed, hnamed', hsame.text_eq], hmatch, by rw [harena, harena', h.arena_eq]⟩

end Parser

/-! ## Parsed texts -/

/-- A run that gives token sets is on a course through all of them, from the first to the end. -/
theorem course_of_parseWithTokens {source : Source} {grammar : Grammar} {sets : List TokenSet}
    (h : (parseWithTokens source).result = .ok (grammar, sets)) :
    ∃ parser after, parser.arena = .empty ∧ (∃ text, parser.Stands [] text) ∧
      parser.Awaits sets sets ∧ (Parser.wholeGrammar parser).Gives grammar after ∧
      after.OnCourse sets := by
  obtain ⟨parser, after, hstands, -, harena, hrecorded, hgives, rfl⟩ := run_of_parseWithTokens h
  obtain ⟨hawaits, hafter⟩ := hstands.course hrecorded hgives
  exact ⟨parser, after, harena, ⟨_, hstands⟩, hawaits, hgives, hafter⟩

/-- **A grammar text is read by its words.** If the token sets of two texts have the same rules and
texts, one by one, and the same names touch the slashes in front of them, which makes them flags, then
both texts are parsed to the same grammar: with the same name, productions that match but for their
places, the same terminals by the same ids, and the same arena. So blanks and comments have no other
influence. -/
theorem parsed_by_words {source source' : Source} {grammar grammar' : Grammar}
    {sets sets' : List TokenSet} (h : (parseWithTokens source).result = .ok (grammar, sets))
    (h' : (parseWithTokens source').result = .ok (grammar', sets'))
    (hwords : sets.map wordsOf = sets'.map wordsOf) (hflags : flaggings sets = flaggings sets') :
    grammar.name = grammar'.name ∧
      List.Forall₂ (Production.Matches Eq fun _ _ => True) grammar.productions grammar'.productions ∧
      grammar.same grammar' = true ∧ grammar.arena = grammar'.arena := by
  obtain ⟨parser, after, harena, hstands, hawaits, hgives, hafter⟩ := course_of_parseWithTokens h
  obtain ⟨twin, after', harena', hstands', hawaits', hgives', hafter'⟩ := course_of_parseWithTokens h'
  have habreast : Parser.Abreast sets sets' [] parser twin :=
    ⟨hstands, hstands', ⟨sets, sets', hawaits, hawaits', hwords, hflags⟩, harena'.trans harena.symm⟩
  obtain ⟨hname, hmatch, harenas⟩ :=
    Parser.wholeGrammar_abreast habreast hgives hgives' hafter hafter'
  exact ⟨hname, hmatch, same_of_productions hname (hmatch.imp fun _ _ hproduction =>
    ⟨hproduction.name, sameBranches_of_match hproduction.branches⟩), harenas⟩

/-- A text with a predicate, a label, flags and code is read the same with other blanks and with a
comment behind it. -/
theorem parsed_by_words_spaced : ∃ grammar grammar' sets sets',
    (parseWithTokens (.ofString "grammar G{a:{p}?x=/b/i c*{d};}")).result = .ok (grammar, sets) ∧
    (parseWithTokens (.ofString "grammar G {a : {p}? x =/b/i c*{d};} //")).result =
      .ok (grammar', sets') ∧
    sets.map wordsOf = sets'.map wordsOf ∧ flaggings sets = flaggings sets' ∧
    true ∈ flaggings sets ∧ grammar.name = grammar'.name ∧
    List.Forall₂ (Production.Matches Eq fun _ _ => True) grammar.productions grammar'.productions ∧
    grammar.same grammar' = true ∧ grammar.arena = grammar'.arena := by
  have hagree : (parseWithTokens (.ofString "grammar G{a:{p}?x=/b/i c*{d};}")).result.toOption.any
      (fun found => (parseWithTokens
        (.ofString "grammar G {a : {p}? x =/b/i c*{d};} //")).result.toOption.any fun found' =>
          decide (found.2.map wordsOf = found'.2.map wordsOf ∧
            flaggings found.2 = flaggings found'.2 ∧ true ∈ flaggings found.2)) = true := by
    rw [result_parseWithTokens_words, result_parseWithTokens_words]
    decide +kernel
  have hok {result : Except ParseError (Grammar × List TokenSet)} {found : Grammar × List TokenSet}
      (hfound : result.toOption = some found) : result = .ok found := by
    cases result with
    | error error => contradiction
    | ok other => exact congrArg Except.ok (Option.some.inj hfound)
  obtain ⟨⟨grammar, sets⟩, hfound, hagree⟩ := (Option.any_eq_true ..).1 hagree
  obtain ⟨⟨grammar', sets'⟩, hfound', hagree⟩ := (Option.any_eq_true ..).1 hagree
  obtain ⟨hwords, hflags, hflagged⟩ := of_decide_eq_true hagree
  exact ⟨grammar, grammar', sets, sets', hok hfound, hok hfound', hwords, hflags, hflagged,
    parsed_by_words (hok hfound) (hok hfound') hwords hflags⟩

end GrammarLang.Grammar
