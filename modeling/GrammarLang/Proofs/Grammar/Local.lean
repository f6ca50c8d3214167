import GrammarLang.Proofs.Grammar.Beside
import GrammarLang.Proofs.Grammar.Marks
import GrammarLang.Proofs.Grammar.Placed
import GrammarLang.Proofs.Grammar.ReadsBack

/-! # Productions are read alone

The text of a production, taken out of a grammar text and put between the braces of another grammar,
is read as the same production (**`production_local`**): its place covers all of it and no more, and
nothing outside of it influences how it is read. -/

namespace GrammarLang.Grammar

open GrammarLang.Scan GrammarLang.Text

open Lexicon (ident)

namespace Parser

variable {parser after : Parser} {text rest : List Char} {production : Production}

/-! ## The text of a production -/

/-- A parser that takes a semicolon stands in front of one, and comes to stand behind it. -/
theorem Stands.of_takes_semicolon {token : Token} (h : parser.Stands [] text)
    (htakes : parser.Takes [";"] token after) :
    ∃ rest, behindGap text = ';' :: rest ∧ after.Stands [] rest ∧ after.arena = parser.arena ∧
      parser.remaining = rest.length + 1 := by
  have hsign : ';' ∈ signChars := by decide
  obtain ⟨rule, hrule, hsees⟩ := htakes.exists_sees
  rw [List.mem_singleton.1 hrule] at hsees
  obtain ⟨rest, hgap⟩ := h.behindGap_of_sign hsign hsees
  have hmeets : Meets text [";"] [';'] rest := ⟨hgap, (Meets.sign hsign rest).word⟩
  obtain ⟨hafter, harena, -⟩ := h.of_takes hmeets htakes
  obtain ⟨set, _, hcurrent, -, hplace, -⟩ := h.shows hmeets
  exact ⟨rest, hgap, hafter, harena, by rw [remaining_of_current hcurrent, hplace]⟩

/-- How a production is read: up to its semicolon, which is a word of its own. -/
structure ReadsProduction (parser : Parser) (text front rest : List Char) (production : Production)
    (after : Parser) : Prop where
  /-- Behind the gap it starts with its name and ends with a semicolon. -/
  gap_eq : behindGap text = front ++ ';' :: rest
  /-- The parser comes to stand behind the semicolon. -/
  stands : after.Stands [] rest
  /-- It takes these steps, the last of them at the semicolon. -/
  steps : ∃ name atColon colon inside atEnd text', parser.Takes [ident] name atColon ∧
    atColon.Takes [":"] colon inside ∧ (branches inside).Gives production.branches atEnd ∧
    production.name = name.text ∧ atEnd.Stands [] text' ∧ behindGap text' = ';' :: rest ∧
    atEnd.remaining = rest.length + 1 ∧ after.arena = atEnd.arena
  /-- The place of the production is all of this text. -/
  slice_eq : parser.scanner.source.slice? production.span = some (String.ofList (front ++ [';']))

theorem Stands.readsProduction (h : parser.Stands [] text) (hproper : parser.arena.Proper)
    (hgives : (Parser.production parser).Gives production after) :
    ∃ front rest, parser.ReadsProduction text front rest production after := by
  obtain ⟨name, atColon, hname, colon, inside, hcolon, atEnd, hbranches, semicolon, last, hsemicolon,
    hnamed, rfl, hspan⟩ := production_gives.1 hgives
  obtain ⟨nameSet, hskips, -⟩ := hname.offers
  obtain ⟨word, hmeets⟩ := h.exists_meets hskips.1
  have hatColon := h.skip hskips
  obtain ⟨colonSet, hinside, -⟩ := hcolon.consumes hatColon.stands
  obtain ⟨sets, text', hatEnd, -⟩ :=
    branches_spell hinside.stands (hinside.proper (hatColon.proper hproper)) hbranches
  obtain ⟨rest, hgap, hlast, harena, hremaining⟩ := hatEnd.stands.of_takes_semicolon hsemicolon
  -- What comes behind the name ends with the semicolon and the rest.
  have hfront := hinside.trans hatEnd
  obtain ⟨middle, hmiddle⟩ : ';' :: rest <:+ parser.scanner.place.rest :=
    hgap ▸ (behindGap_suffix text').trans hfront.suffix
  have hwhole : behindGap text = (word ++ middle) ++ ';' :: rest := by
    rw [hmeets.gap_eq, ← hmiddle, List.append_assoc]
  refine ⟨word ++ middle, rest, hwhole, (hlast.tell _ _).stands, ⟨name, atColon, colon, inside, atEnd,
    text', hname, hcolon, hbranches, hnamed, hatEnd.stands, hgap, hremaining, harena⟩, ?_⟩
  obtain ⟨semicolonSet, hbehind, -⟩ := hsemicolon.consumes hatEnd.stands
  have hsource := ((hatColon.trans hfront).trans hbehind).source_eq
  have hsplit : behindGap text = (word ++ middle ++ [';']) ++ rest := by
    rw [hwhole, List.append_assoc _ [';'], List.singleton_append]
  have hstart := h.start_add_size hskips.1
  have hstop := hlast.at_text.offset_eq
  rw [hsource] at hstop
  have hle : parser.start ≤ last.scanner.previousEnd := by
    rw [hsplit, byteSize_append] at hstart
    omega
  have hplace : production.span = ⟨parser.start, last.scanner.previousEnd⟩ := by
    rw [hspan, spanFrom]
    exact congrArg _ (Nat.max_eq_left hle)
  rw [hplace]
  exact slice_between ((behindGap_suffix text).trans h.at_text.suffix) hsplit hstart hstop

/-- The semicolon is still to come where a production starts. -/
theorem ReadsProduction.ahead {front : List Char}
    (h : parser.ReadsProduction text front rest production after) :
    rest.length < parser.remaining := by
  obtain ⟨_, _, _, _, _, _, hname, hcolon, hbranches, -, -, -, hremaining, -⟩ := h.steps
  have hless := hname.remaining_le
  have hless' := hcolon.remaining_le
  have hless'' := hbranches.remaining_le
  omega

/-- **A production is read again** where the text ends behind its semicolon. -/
theorem ReadsProduction.exists_again {front : List Char} {twin : Parser} {text' : List Char}
    (h : parser.ReadsProduction text front rest production after) (hstands : parser.Stands [] text)
    (hproper : parser.arena.Proper) (hbrace : '\x7d' ∈ rest) (hstands' : twin.Stands [] text')
    (hproper' : twin.arena.Proper) (hgap' : behindGap text' = front ++ ';' :: ending) :
    ∃ other after', (Parser.production twin).Gives other after' ∧ after'.Stands [] ending ∧
      ∀ arena, after.arena.Within arena →
        production.Matches (SameTerminal arena after'.arena) (fun _ _ => True) other := by
  obtain ⟨name, atColon, colon, inside, atEnd, textEnd, hname, hcolon, hbranches, hnamed, hatEnd,
    hgapEnd, hremaining, harena⟩ := h.steps
  have hless := hname.remaining_le
  have hless' := hcolon.remaining_le
  have hless'' := hbranches.remaining_le
  have hlaw := lawfulTree_local hbrace
  have hbeside : (untilSemicolon rest).beside parser twin :=
    ⟨⟨text, text', front, hstands, hstands', h.gap_eq, hgap'⟩, h.ahead, hproper, hproper'⟩
  obtain ⟨name', atColon', hname', hbesideColon, htext⟩ :=
    (consumeAny_twins hlaw.toLawful hbeside (by decide)).exists_gives (gives_consumeAny.2 hname)
      (show rest.length + 1 ≤ _ by omega)
  obtain ⟨colon', inside', hcolon', hbesideInside, -⟩ :=
    (consumeAny_twins hlaw.toLawful hbesideColon (by decide)).exists_gives
      (gives_consumeAny.2 hcolon) (show rest.length + 1 ≤ _ by omega)
  obtain ⟨choices, atEnd', hbranches', hbesideEnd, hmatch⟩ :=
    (branches_twins hlaw hbesideInside).exists_gives hbranches (show rest.length + 1 ≤ _ by omega)
  -- Now both of them stand at the semicolon, and the twin takes it by itself.
  obtain ⟨textHere, textEnd', front', hhere, hatEnd', hgapHere, hgapEnd'⟩ := hbesideEnd.texts
  obtain rfl := hhere.at_text.text_unique hatEnd.at_text
  obtain rfl := List.append_left_eq_self.1 (hgapHere.symm.trans hgapEnd)
  have hfaces : atEnd'.Faces (';' :: ending) :=
    ⟨textEnd', hatEnd', by rw [hgapEnd', behindGap_cons (by decide) (by decide)]; rfl⟩
  have hclosingSign : '\x7d' ∈ signChars := by decide
  obtain ⟨semicolon', last', hsemicolon', hlast', harena'⟩ :=
    hfaces.exists_sign (by decide) (Meets.sign hclosingSign []).space.readable
  refine ⟨⟨spanFrom _ twin.start, name'.text, choices⟩, _, production_gives.2 ⟨name', atColon', gives_consumeAny.1 hname',
    colon', inside', gives_consumeAny.1 hcolon', atEnd', hbranches', semicolon', last', hsemicolon',
    rfl, rfl, rfl⟩, (hlast'.tell _ _).stands, fun arena hwithin => ⟨trivial, ?_, ?_⟩⟩
  · exact hnamed.trans htext.2.1.symm
  · exact hmatch.related arena _ (harena ▸ hwithin) (harena' ▸ .refl _)

/-! ## All productions of a text -/

/-- Each production is read on the way from the first to the last. -/
theorem exists_production_of_mem {parser after : Parser} {text : List Char}
    {found : List Production} (h : parser.Stands [] text) (hproper : parser.arena.Proper)
    (hgives : (productions parser).Gives found after) (hmem : production ∈ found) :
    ∃ before behind sets text₁ further text₂ others text₃, parser.Consumes text sets [] before text₁ ∧
      (Parser.production before).Gives production behind ∧
      before.Consumes text₁ further [] behind text₂ ∧ behind.Consumes text₂ others [] after text₃ := by
  obtain ⟨-, first, middle, hfirst, more, hmore, rfl⟩ | ⟨-, rfl, -⟩ := productions_gives.1 hgives
  · obtain ⟨sets, text', hmiddle, -⟩ := production_spells h hproper hfirst
    rcases List.mem_cons.1 hmem with rfl | hmem
    · obtain ⟨others, text'', hafter, -⟩ :=
        productions_spell hmiddle.stands (hmiddle.proper hproper) hmore
      exact ⟨parser, middle, [], text, sets, text', others, text'', .refl h, hfirst, hmiddle, hafter⟩
    · obtain ⟨before, behind, sets', text₁, further, text₂, others, text₃, hbefore, hproduction,
        hbehind, hafter⟩ := exists_production_of_mem hmiddle.stands (hmiddle.proper hproper) hmore hmem
      exact ⟨before, behind, sets ++ sets', text₁, further, text₂, others, text₃,
        hmiddle.trans hbefore, hproduction, hbehind, hafter⟩
  · contradiction
termination_by parser.remaining
decreasing_by
  have hless := hfirst.remaining_le
  omega

end Parser

/-- A text is parsed if its characters can be read as a grammar. -/
theorem exists_parse {text : String} (hreadable : Readable text.toList) {holds : Grammar → Prop}
    (h : ∀ parser : Parser, parser.Stands [] text.toList → parser.arena = .empty →
      ∃ grammar after, (Parser.wholeGrammar parser).Gives grammar after ∧ holds grammar) :
    ∃ grammar, (parse (.ofString text)).result = .ok grammar ∧ holds grammar := by
  obtain ⟨table, htable⟩ := Lexicon.exists_table
  obtain ⟨current, stop, hfirst⟩ := hreadable.first htable 0
  obtain ⟨scanner, hcreate, -⟩ : ∃ scanner,
      (Scanner.initial table (.ofString text)).advance = .ok () scanner ∧
        scanner.current = current ∧ scanner.spot = stop :=
    Scanner.advance_of_first (Lexicon.anchored_mode htable defaultMode) hfirst
  rw [← Scanner.create_eq] at hcreate
  obtain ⟨grammar, after, hgives, hholds⟩ := h _ (Parser.stands_create .empty htable hcreate).1 rfl
  exact ⟨grammar, parse_eq_ok_iff.2 ⟨table, scanner, after, htable, hcreate, hgives⟩, hholds⟩

/-- A production that is read is read again as the only production of a grammar. -/
theorem Parser.ReadsProduction.exists_parse {parser after : Parser} {text front rest : List Char}
    {production : Production} (h : parser.ReadsProduction text front rest production after)
    (hstands : parser.Stands [] text) (hproper : parser.arena.Proper) (hbrace : '\x7d' ∈ rest)
    {arena : Arena} (hwithin : after.arena.Within arena) :
    ∃ other alone, (parse (.ofString ("grammar G \x7b " ++ String.ofList (front ++ [';']) ++
        " \x7d"))).result = .ok other ∧ other.productions = [alone] ∧
      production.Matches (SameTerminal arena other.arena) (fun _ _ => True) alone := by
  have hclosingSign : '\x7d' ∈ signChars := by decide
  have htext : ("grammar G \x7b " ++ String.ofList (front ++ [';']) ++ " \x7d").toList =
      Lexicon.keyword.toList ++ ' ' :: ("G".toList ++ ' ' :: '\x7b' ::
        (' ' :: (front ++ ';' :: ending))) := by
    have hopening : "grammar G \x7b ".toList =
        Lexicon.keyword.toList ++ ' ' :: ("G".toList ++ [' ', '\x7b', ' ']) := by decide
    have hclosing : " \x7d".toList = ending := by decide
    simp [hopening, hclosing]
  -- There is no gap in front of the name here either.
  have hgap : behindGap (' ' :: (front ++ ';' :: ending)) = front ++ ';' :: ending := by
    have hsolid := behindGap_behindGap text
    rw [h.gap_eq] at hsolid
    rw [behindGap_space]
    obtain ⟨front', hfront, hgap⟩ | ⟨hbeyond, -⟩ := behindGap_ending rest front
    · rw [hgap, List.append_cancel_right (hsolid.symm.trans hfront)]
    · rw [hsolid, List.length_append, List.length_cons] at hbeyond
      omega
  have hreadable : Readable (' ' :: (front ++ ';' :: ending)) := by
    obtain ⟨names, word, behind, -, -, hmeets⟩ := hstands.exists_meets_ending h.gap_eq h.ahead
    exact (hmeets _ hgap).readable
  have hinside (inside : Parser) (hinside : inside.Stands [] (' ' :: (front ++ ';' :: ending)))
      (harena : inside.arena = .empty) :
      ∃ found atClosing, (productions inside).Gives found atClosing ∧
        (∃ alone, found = [alone] ∧
          production.Matches (SameTerminal arena atClosing.arena) (fun _ _ => True) alone) ∧
        atClosing.Faces ['\x7d'] := by
    obtain ⟨alone, atClosing, hgives, hatClosing, hmatches⟩ :=
      h.exists_again hstands hproper hbrace hinside (harena ▸ Arena.proper_empty) hgap
    have hfaces := Faces.space hatClosing.faces
    obtain ⟨name, atColon, hname, -⟩ := production_gives.1 hgives
    obtain ⟨rule, hrule, hsees⟩ := hname.exists_sees
    rw [List.mem_singleton.1 hrule] at hsees
    have hnone : atClosing.sees ident = false := by
      rw [hfaces.sees_ident_eq, (Meets.sign hclosingSign []).lead_eq]
      decide
    exact ⟨[alone], atClosing, productions_gives.2 (.inl ⟨hsees, alone, atClosing, hgives, [],
      productions_gives.2 (.inr ⟨hnone, rfl, rfl⟩), rfl⟩), ⟨alone, rfl, hmatches arena hwithin⟩,
      hfaces⟩
  have hname : IsName "G".toList := ⟨'G', [], by decide, by decide, nofun⟩
  have hwhole := (meets_spaced isName_keyword
    ("G".toList ++ ' ' :: '\x7b' :: (' ' :: (front ++ ';' :: ending)))).readable
  rw [← htext] at hwhole
  obtain ⟨other, hparse, alone, hother, hmatches⟩ := Grammar.exists_parse hwhole
      fun twin hstands' harena' => by
    rw [htext] at hstands'
    obtain ⟨other, after, atClosing, hgives, -, harena, alone, hother, hmatches⟩ :=
      hstands'.faces.exists_wholeGrammar hname hreadable
        fun inside hstands harena => hinside inside hstands (harena.trans harena')
    exact ⟨other, after, hgives, (⟨alone, hother, harena ▸ hmatches⟩ : ∃ alone,
      other.productions = [alone] ∧
        production.Matches (SameTerminal arena other.arena) (fun _ _ => True) alone)⟩
  exact ⟨other, alone, hparse, hother, hmatches⟩

/-- **Productions are read alone.** The place of a production in a grammar text is the text of the
production: between the braces of another grammar it is read as one production with the same name and
the same branches, whose terminals are the same under their ids there. -/
theorem production_local {source : Source} {grammar : Grammar} {production : Production}
    (h : (parse source).result = .ok grammar) (hmem : production ∈ grammar.productions) :
    ∃ slice, source.slice? production.span = some slice ∧
      ∃ other alone, (parse (.ofString ("grammar G \x7b " ++ slice ++ " \x7d"))).result = .ok other ∧
        other.productions = [alone] ∧
        production.Matches (SameTerminal grammar.arena other.arena) (fun _ _ => True) alone := by
  obtain ⟨table, scanner, after, htable, hcreate, hgives⟩ := parse_eq_ok_iff.1 h
  obtain ⟨hstands, -⟩ := Parser.stands_create .empty htable hcreate
  obtain ⟨keyword, atName, hkeyword, name, atOpening, hname, opening, inside, hopening, atClosing,
    hproductions, hsees, closing, hclosing, -, -, harena, -⟩ := Parser.wholeGrammar_gives.1 hgives
  obtain ⟨_, hatName, -⟩ := hkeyword.consumes hstands
  obtain ⟨_, hatOpening, -⟩ := hname.consumes hatName.stands
  obtain ⟨_, hinside, -⟩ := hopening.consumes hatOpening.stands
  have hfront := (hatName.trans hatOpening).trans hinside
  obtain ⟨before, behind, _, _, _, rest, _, textClosing, hbefore, hproduction, hbehind, hatClosing⟩ :=
    Parser.exists_production_of_mem hinside.stands (hfront.proper Arena.proper_empty) hproductions hmem
  have hsource : before.scanner.source = source := by
    rw [hbefore.source_eq, hfront.source_eq]
    exact (Parser.standsIn_create htable hcreate).source_eq
  have hproper := (hfront.trans hbefore).proper Arena.proper_empty
  obtain ⟨front, rest', hreads⟩ := hbefore.stands.readsProduction hproper hproduction
  obtain rfl := hreads.stands.at_text.text_unique hbehind.stands.at_text
  -- The closing brace of the grammar comes behind the production.
  have hbrace : '\x7d' ∈ rest' := by
    have hsign : '\x7d' ∈ signChars := by decide
    obtain ⟨_, hgap⟩ := hatClosing.stands.behindGap_of_sign hsign hsees
    refine ((behindGap_suffix textClosing).trans hatClosing.suffix).subset ?_
    rw [hgap]
    exact List.mem_cons_self
  have hwithin : behind.arena.Within grammar.arena := by
    obtain ⟨_, hskips, -⟩ := hclosing.offers
    rw [harena, hskips.arena_eq]
    exact hatClosing.within
  exact ⟨_, hsource ▸ hreads.slice_eq, hreads.exists_parse hbefore.stands hproper hbrace hwithin⟩

/-- The second production of a text, with code, a label, a set of texts and a number. -/
theorem production_local_second :
    let source : Source := .ofString "grammar A \x7b b : x ; c : \x7bp\x7d y = /[d]/i 3 ; \x7d"
    ∃ grammar production other alone, (parse source).result = .ok grammar ∧
      production ∈ grammar.productions ∧ production.name = "c" ∧
      source.slice? production.span = some "c : \x7bp\x7d y = /[d]/i 3 ;" ∧
      (parse (.ofString "grammar G \x7b c : \x7bp\x7d y = /[d]/i 3 ; \x7d")).result = .ok other ∧
      other.productions = [alone] ∧
      production.Matches (SameTerminal grammar.arena other.arena) (fun _ _ => True) alone := by
  intro source
  have hproductions : (parse source).result.toOption.map (fun grammar =>
      grammar.productions.map fun production => (production.name, source.slice? production.span)) =
      some [("b", some "b : x ;"), ("c", some "c : \x7bp\x7d y = /[d]/i 3 ;")] := by
    rw [result_parse_words]
    decide +kernel
  obtain ⟨grammar, hsome, hlist⟩ := Option.map_eq_some_iff.1 hproductions
  have hok : (parse source).result = .ok grammar := Scan.ok_of_toOption hsome
  obtain ⟨production, hmem, hpair⟩ :
      ∃ production ∈ grammar.productions, (production.name, source.slice? production.span) =
        ("c", some "c : \x7bp\x7d y = /[d]/i 3 ;") := by
    rw [← List.mem_map, hlist]
    exact List.mem_cons_of_mem _ List.mem_cons_self
  obtain ⟨hname, hplace⟩ := Prod.mk.inj hpair
  obtain ⟨slice, hslice, other, alone, hparse, hother, hmatches⟩ := production_local hok hmem
  obtain rfl := Option.some.inj (hslice.symm.trans hplace)
  exact ⟨grammar, production, other, alone, hok, hmem, hname, hslice, hparse, hother, hmatches⟩

end GrammarLang.Grammar
