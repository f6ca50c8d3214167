import GrammarLang.Proofs.Grammar.CodeSpelt

/-! # Parsed regular expressions are spelt by their token sets

Each part of a regular expression is spelt by the token sets that the parser consumes for it.
**`regexLiteral_spells`** says so of the whole, slashes and flags included. -/

namespace GrammarLang.Grammar.Parser

open GrammarLang.Scan GrammarLang.Text

variable {parser after : Parser} {entered : List String} {text : List Char}

/-- Taking a token inside a regular expression gathers its text. -/
theorem Takes.gathers {rules : List String} {token : Token}
    (h : parser.Stands (Lexicon.regexMode :: entered) text)
    (htakes : parser.Takes rules token after) :
    ∃ set, parser.Gathers text [set] Lexicon.regexMode entered after parser.scanner.place.rest ∧
      IsOneOf set rules := by
  obtain ⟨set, hskips, hone, -⟩ := htakes.isOneOf
  exact ⟨set, .skip h regexMode_ne hskips, hone⟩

/-- To be of one of a single rule is to be of it. -/
theorem isOneOf_singleton {set : TokenSet} {rule : String} : IsOneOf set [rule] ↔ Is set rule := by
  simp [IsOneOf, Is]

mutual

theorem regexClass_spells {parser after : Parser} {entered : List String} {text : List Char}
    (h : parser.Stands (Lexicon.regexMode :: entered) text)
    (hgives : (regexClass parser).Gives () after) :
    ∃ sets text', parser.Gathers text sets Lexicon.regexMode entered after text' ∧
      RegexSpells .cls sets := by
  obtain ⟨opening, inside, hopening, ⟨bracket, further, hbracket, behind, hmembers, closing,
    hclosing⟩ | ⟨-, behind, hmembers, closing, hclosing⟩⟩ := regexClass_gives.1 hgives
  · obtain ⟨openingSet, hinside, hopens⟩ := hopening.gathers h
    obtain ⟨bracketSet, hfurther, hmember⟩ := hbracket.gathers hinside.consumes.stands
    obtain ⟨inner, text', hbehind, hinner⟩ :=
      regexMembers_spells hfurther.consumes.stands hmembers
    obtain ⟨closingSet, hafter, hcloses⟩ := hclosing.gathers hbehind.consumes.stands
    exact ⟨openingSet :: bracketSet :: inner ++ [closingSet], _,
      ((hinside.trans hfurther).trans hbehind).trans hafter,
      .bracketsBracket hopens (isOneOf_singleton.1 hmember) hinner (isOneOf_singleton.1 hcloses)⟩
  · obtain ⟨openingSet, hinside, hopens⟩ := hopening.gathers h
    obtain ⟨inner, text', hbehind, hinner⟩ := regexMembers_spells hinside.consumes.stands hmembers
    obtain ⟨closingSet, hafter, hcloses⟩ := hclosing.gathers hbehind.consumes.stands
    exact ⟨openingSet :: inner ++ [closingSet], _, (hinside.trans hbehind).trans hafter,
      .brackets hopens hinner (isOneOf_singleton.1 hcloses)⟩
termination_by 2 * parser.remaining
decreasing_by
  all_goals
    have hless := hopening.remaining_le
  · have hless' := hbracket.remaining_le
    omega
  · omega

theorem regexMembers_spells {parser after : Parser} {entered : List String} {text : List Char}
    (h : parser.Stands (Lexicon.regexMode :: entered) text)
    (hgives : (regexMembers parser).Gives () after) :
    ∃ sets text', parser.Gathers text sets Lexicon.regexMode entered after text' ∧
      RegexSpells .members sets := by
  obtain ⟨-, rfl⟩ | ⟨hcloses, -, ⟨-, middle, hclass, hmore⟩ | ⟨hopens, set, middle, hskips, hmore⟩⟩ :=
    regexMembers_gives.1 hgives
  · exact ⟨[], text, .refl h, .noMember⟩
  · obtain ⟨sets, text', hmiddle, hspells⟩ := regexClass_spells h hclass
    obtain ⟨further, text'', hafter, hothers⟩ := regexMembers_spells hmiddle.consumes.stands hmore
    exact ⟨_, _, hmiddle.trans hafter, .nested hspells hothers⟩
  · have hmiddle := Gathers.skip h regexMode_ne hskips
    obtain ⟨further, text'', hafter, hothers⟩ := regexMembers_spells hmiddle.consumes.stands hmore
    refine ⟨_, _, hmiddle.trans hafter, .member ?_ ?_ hothers⟩
    · exact fun his => by simp [(seesAny_iff hskips.1).2 his] at hopens
    · exact fun his => by simp [(sees_iff hskips.1).2 his] at hcloses
termination_by 2 * parser.remaining + 1
decreasing_by
  · omega
  · have hless := hclass.remaining_le
    omega
  · have hless := hskips.remaining_le
    omega

end

/-- The token sets consumed for a quantifier spell it. -/
theorem regexQuantifier_spells (h : parser.Stands (Lexicon.regexMode :: entered) text)
    (hgives : (regexQuantifier parser).Gives () after) :
    ∃ sets text', parser.Gathers text sets Lexicon.regexMode entered after text' ∧
      RegexSpells .quantifier sets := by
  obtain ⟨sign, middle, hsign, ⟨mark, hmark⟩ | ⟨-, rfl⟩⟩ | ⟨-, rfl⟩ :=
    regexQuantifier_gives.1 hgives
  · obtain ⟨set, hmiddle, hone⟩ := hsign.gathers h
    obtain ⟨markSet, hafter, hlazy⟩ := hmark.gathers hmiddle.consumes.stands
    exact ⟨[set, markSet], _, hmiddle.trans hafter, .reluctant hone (isOneOf_singleton.1 hlazy)⟩
  · obtain ⟨set, hmiddle, hone⟩ := hsign.gathers h
    exact ⟨[set], _, hmiddle, .greedy hone⟩
  · exact ⟨[], text, .refl h, .once⟩

mutual

theorem regexDisjunction_spells {parser after : Parser} {entered : List String} {text : List Char}
    (h : parser.Stands (Lexicon.regexMode :: entered) text)
    (hgives : (regexDisjunction parser).Gives () after) :
    ∃ sets text', parser.Gathers text sets Lexicon.regexMode entered after text' ∧
      RegexSpells .disjunction sets := by
  obtain ⟨middle, hfirst, hrest⟩ := regexDisjunction_gives.1 hgives
  obtain ⟨sets, text', hmiddle, hspells⟩ := regexAlternative_spells h hfirst
  obtain ⟨bar, behind, hbar, hmore⟩ | ⟨-, rfl⟩ := hrest
  · obtain ⟨barSet, hbehind, hsign⟩ := hbar.gathers hmiddle.consumes.stands
    obtain ⟨further, text'', hafter, hothers⟩ :=
      regexDisjunction_spells hbehind.consumes.stands hmore
    refine ⟨sets ++ barSet :: further, text'', ?_, .bar hspells (isOneOf_singleton.1 hsign) hothers⟩
    simpa using (hmiddle.trans hbehind).trans hafter
  · exact ⟨sets, text', hmiddle, .alternative hspells⟩
termination_by 4 * parser.remaining + 3
decreasing_by
  · omega
  · have hless := hfirst.remaining_le
    have hless' := hbar.remaining_le
    omega

theorem regexAlternative_spells {parser after : Parser} {entered : List String} {text : List Char}
    (h : parser.Stands (Lexicon.regexMode :: entered) text)
    (hgives : (regexAlternative parser).Gives () after) :
    ∃ sets text', parser.Gathers text sets Lexicon.regexMode entered after text' ∧
      RegexSpells .alternative sets := by
  obtain ⟨-, rfl⟩ | ⟨-, middle, hterm, hmore⟩ := regexAlternative_gives.1 hgives
  · exact ⟨[], text, .refl h, .noTerm⟩
  · obtain ⟨sets, text', hmiddle, hspells⟩ := regexTerm_spells h hterm
    obtain ⟨further, text'', hafter, hothers⟩ :=
      regexAlternative_spells hmiddle.consumes.stands hmore
    exact ⟨_, _, hmiddle.trans hafter, .term hspells hothers⟩
termination_by 4 * parser.remaining + 2
decreasing_by
  · omega
  · have hless := hterm.remaining_le
    omega

theorem regexTerm_spells {parser after : Parser} {entered : List String} {text : List Char}
    (h : parser.Stands (Lexicon.regexMode :: entered) text)
    (hgives : (regexTerm parser).Gives () after) :
    ∃ sets text', parser.Gathers text sets Lexicon.regexMode entered after text' ∧
      RegexSpells .term sets := by
  obtain ⟨sign, hsign⟩ | ⟨-, ⟨opening, inside, hopening, behind, hinner, closing, hclosing⟩ |
    ⟨-, middle, hatom, hquantifier⟩⟩ := regexTerm_gives.1 hgives
  · obtain ⟨set, hafter, hone⟩ := hsign.gathers h
    exact ⟨[set], _, hafter, .condition hone⟩
  · obtain ⟨openingSet, hinside, hopens⟩ := hopening.gathers h
    obtain ⟨inner, text', hbehind, hspells⟩ :=
      regexDisjunction_spells hinside.consumes.stands hinner
    obtain ⟨closingSet, hafter, hcloses⟩ := hclosing.gathers hbehind.consumes.stands
    exact ⟨openingSet :: inner ++ [closingSet], _, (hinside.trans hbehind).trans hafter,
      .lookAround hopens hspells (isOneOf_singleton.1 hcloses)⟩
  · obtain ⟨sets, text', hmiddle, hspells⟩ := regexAtom_spells h hatom
    obtain ⟨further, text'', hafter, hcount⟩ :=
      regexQuantifier_spells hmiddle.consumes.stands hquantifier
    exact ⟨_, _, hmiddle.trans hafter, .atom hspells hcount⟩
termination_by 4 * parser.remaining + 1
decreasing_by
  · have hless := hopening.remaining_le
    omega
  · omega

theorem regexAtom_spells {parser after : Parser} {entered : List String} {text : List Char}
    (h : parser.Stands (Lexicon.regexMode :: entered) text)
    (hgives : (regexAtom parser).Gives () after) :
    ∃ sets text', parser.Gathers text sets Lexicon.regexMode entered after text' ∧
      RegexSpells .atom sets := by
  obtain ⟨token, htoken⟩ | ⟨-, ⟨-, hclass⟩ |
    ⟨-, opening, inside, hopening, behind, hinner, closing, hclosing⟩⟩ := regexAtom_gives.1 hgives
  · obtain ⟨set, hafter, hone⟩ := htoken.gathers h
    exact ⟨[set], _, hafter, .char hone⟩
  · obtain ⟨sets, text', hafter, hspells⟩ := regexClass_spells h hclass
    exact ⟨sets, text', hafter, .cls hspells⟩
  · obtain ⟨openingSet, hinside, hopens⟩ := hopening.gathers h
    obtain ⟨inner, text', hbehind, hspells⟩ :=
      regexDisjunction_spells hinside.consumes.stands hinner
    obtain ⟨closingSet, hafter, hcloses⟩ := hclosing.gathers hbehind.consumes.stands
    exact ⟨openingSet :: inner ++ [closingSet], _, (hinside.trans hbehind).trans hafter,
      .group hopens hspells (isOneOf_singleton.1 hcloses)⟩
termination_by 4 * parser.remaining
decreasing_by
  have hless := hopening.remaining_le
  omega

end

/-- A name is the first one found in the current token set if it can be taken. -/
theorem Takes.matching?_eq {rule : String} {token : Token} (h : parser.Takes [rule] token after) :
    parser.scanner.matching? rule = some token := by
  obtain ⟨halternatives, -⟩ := h
  cases hcurrent : parser.scanner.current with
  | none => simp [Scanner.alternatives, Scanner.currentTokens, hcurrent] at halternatives
  | some set =>
    simp only [Scanner.alternatives, Scanner.currentTokens, hcurrent, List.flatMap_cons,
      List.flatMap_nil, List.append_nil] at halternatives
    simp only [Scanner.matching?, hcurrent, Option.bind_some, TokenSet.find?]
    rw [← List.head?_filter, halternatives]
    rfl

/-- The token sets consumed for a regular expression between slashes spell its set of texts. -/
theorem regexLiteral_spells {set : RegexSet} (h : parser.Stands entered text)
    (hgives : (regexLiteral parser).Gives set after) :
    ∃ sets text', parser.Consumes text sets entered after text' ∧
      TerminalSpells (.set set) sets ∧ RegexSet.compile set.source set.flags = .ok set := by
  obtain ⟨opening, inside, hopening, behind, hinner, hsees, closing, atFlags, hclosing, source,
    hsource, flags, hflags, hcompiled⟩ := regexLiteral_gives.1 hgives
  obtain ⟨openingSet, hskipsOpening, hopens⟩ := hopening.offers
  obtain ⟨closingSet, hskipsClosing, hcloses⟩ := hclosing.offers
  have hinside := h.skip_enter hskipsOpening
  obtain ⟨inner, text', hgathers, hspells⟩ := regexDisjunction_spells hinside.stands hinner
  have hatFlags := hgathers.consumes.stands.skip_leave hskipsClosing
  obtain ⟨current, hcurrent, -⟩ := current_of_sees hsees
  have htext := hgathers.slice_eq hinside.stands regexMode_ne hcurrent
  rw [hatFlags.source_eq, hgathers.consumes.source_eq, htext, Option.some.injEq] at hsource
  subst hsource
  have hself : RegexSet.compile set.source set.flags = .ok set := by
    obtain ⟨hsource, hflags⟩ := RegexSet.compile_self hcompiled
    rw [hsource, hflags, hcompiled]
  have hslashes := (hinside.trans hgathers.consumes).trans hatFlags
  have hprevious : atFlags.scanner.previousEnd = closingSet.first.span.stop := by
    obtain ⟨told, hleave⟩ := leave_eq hgathers.consumes.stands.entered_eq
    refine hskipsClosing.previousEnd_eq ?_
    rw [hleave]
    exact hgathers.consumes.stands.table
  obtain ⟨token, htoken, ⟨htouches, name, hname, rfl⟩ | ⟨-, rfl, rfl⟩⟩ | ⟨-, rfl, rfl⟩ :=
    regexFlags_gives.1 hflags
  · obtain ⟨nameSet, hskipsName, hoffers⟩ := hname.offers
    have hsame : name = token := Option.some.inj (hname.matching?_eq.symm.trans htoken)
    subst hsame
    refine ⟨openingSet :: inner ++ [closingSet, nameSet], atFlags.scanner.place.rest, ?_,
      .setWithFlags ⟨opening, hopens⟩ hspells ⟨closing, hcloses⟩ hoffers
        (htouches.trans hprevious) hcompiled, hself⟩
    simpa using hslashes.trans (hatFlags.stands.skip hskipsName)
  · exact ⟨openingSet :: inner ++ [closingSet], _, hslashes,
      .set ⟨opening, hopens⟩ hspells ⟨closing, hcloses⟩ hcompiled, hself⟩
  · exact ⟨openingSet :: inner ++ [closingSet], _, hslashes,
      .set ⟨opening, hopens⟩ hspells ⟨closing, hcloses⟩ hcompiled, hself⟩

end GrammarLang.Grammar.Parser
