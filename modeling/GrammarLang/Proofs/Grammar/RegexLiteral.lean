import GrammarLang.Proofs.Grammar.RegexAgain

/-! # Sets of texts are read again

A set of texts is written by its expression between slashes and its flags. **`SetLiteral`** says of an
expression and flags that they were read so in some grammar text, and then they can be read again in
any other one: **`SetLiteral.exists_regexLiteral`**. -/

namespace GrammarLang.Grammar

open GrammarLang.Scan GrammarLang.Text

open Lexicon (ident)

variable {parser after : Parser} {text rest : List Char}

/-- Where a text leads with the first character of a name, it starts with a name. -/
theorem exists_meets_name {text : List Char} (h : (lead text).any isNameStart = true) :
    ∃ name rest, IsName name ∧ Apart rest ∧ Meets text (namesOfName name) name rest := by
  obtain ⟨c, hlead, hc⟩ := (Option.any_eq_true _ _).1 h
  obtain ⟨cs, hgap⟩ := List.head?_eq_some_iff.1 hlead
  have hname : IsName (c :: cs.takeWhile isNameChar) :=
    ⟨c, _, rfl, hc, fun _ => List.mem_takeWhile_imp⟩
  refine ⟨_, cs.dropWhile isNameChar, hname, apart_dropWhile cs, ?_, fun _ htable =>
    word_name htable hname (apart_dropWhile cs)⟩
  rw [hgap, List.cons_append, List.takeWhile_append_dropWhile]

/-- There is no gap in front of a name. -/
theorem behindGap_name {c : Char} (hc : isNameStart c = true) (cs : List Char) :
    behindGap (c :: cs) = c :: cs := by
  have hname : IsName (c :: cs.takeWhile isNameChar) :=
    ⟨c, _, rfl, hc, fun _ => List.mem_takeWhile_imp⟩
  have hgap := (Meets.name hname (apart_dropWhile cs)).gap_eq
  rwa [List.cons_append, List.takeWhile_append_dropWhile] at hgap

/-- Flags end in front of a text: either there are none and the text does not start with a name, or
they are a name that does not go on. -/
def FlagsEnd (flags : String) (rest : List Char) : Prop :=
  flags = "" ∧ (∀ c ∈ rest.head?, isNameStart c = false) ∨ IsName flags.toList ∧ Apart rest

theorem flagsEnd_of_apart {flags : String} (hflags : flags = "" ∨ IsName flags.toList)
    (hapart : Apart rest) : FlagsEnd flags rest := by
  refine hflags.imp (fun hempty => ⟨hempty, fun c hc => Bool.eq_false_iff.2 fun hstart => ?_⟩)
    fun hname => ⟨hname, hapart⟩
  have hnot := hapart c hc
  rw [isNameChar_of_isNameStart hstart] at hnot
  contradiction

namespace Parser

/-! ## What was read -/

/-- A rule of a token that is taken is seen. -/
theorem Takes.exists_sees {rules : List String} {token : Token}
    (h : parser.Takes rules token after) : ∃ rule ∈ rules, parser.sees rule = true := by
  obtain ⟨set, hskips, hmem, hrule⟩ := h.skips
  exact ⟨token.rule, hrule, (sees_iff hskips.1).2 ⟨token, hmem, rfl⟩⟩

/-- Where a parser sees a name, it stands at one. -/
theorem Stands.meets_name (h : parser.Stands [] text) (hsees : parser.sees ident = true) :
    ∃ name rest, IsName name ∧ Apart rest ∧ Meets text (namesOfName name) name rest :=
  exists_meets_name (h.sees_ident_eq.symm.trans hsees)

/-- Where a parser sees a slash, it stands at one that opens no line comment. -/
theorem Stands.behindGap_of_slash (h : parser.Stands [] text) (hsees : parser.sees "/" = true) :
    behindGap text = '/' :: parser.scanner.place.rest ∧
      parser.scanner.place.rest.head? ≠ some '/' := by
  have hlead := hsees
  rw [h.sees_eq .slash, lead, Option.any_eq_true] at hlead
  obtain ⟨c, hhead, hc⟩ := hlead
  obtain rfl := of_decide_eq_true hc
  obtain ⟨cs, hcs⟩ := List.head?_eq_some_iff.1 hhead
  obtain ⟨set, hcurrent, -⟩ := current_of_sees hsees
  obtain ⟨front, hgap, hlexeme, hrules⟩ := h.isLexeme hcurrent
  obtain ⟨rule, hrule, hname⟩ := (sees_iff_tied hcurrent hrules).1 hsees
  obtain ⟨hmem, hlength⟩ := List.mem_filter.1 hrule
  -- The sign takes one character, and so does every longest match.
  have hone : front.length = 1 := by
    have hlength := of_decide_eq_true hlength
    rw [Lexicon.matchLength?_eq h.table (List.mem_filter.1 hmem).1 (by rw [hname]; decide), hname,
      ← hgap, hcs, Regex.Expr.takes?, Lexicon.first?_sign (c := '/') rfl] at hlength
    simpa using hlength.symm
  obtain ⟨d, rfl⟩ := List.length_eq_one_iff.1 hone
  rw [List.singleton_append, hcs] at hgap
  obtain ⟨-, hrest⟩ := List.cons.inj hgap
  rw [← hrest]
  refine ⟨hcs, fun hline => ?_⟩
  obtain ⟨ds, rfl⟩ := List.head?_eq_some_iff.1 hline
  -- Two slashes open a comment, which would have been passed over.
  have hsolid := behindGap_behindGap text
  rw [hcs, behindGap_lineComment] at hsolid
  have hle := (behindGap_suffix (ds.dropWhile (· ≠ '\n'))).length_le
  have hle' := (List.dropWhile_suffix (l := ds) (· ≠ '\n')).length_le
  rw [hsolid] at hle
  simp only [List.length_cons] at hle
  omega

/-- No regular expression starts with a star. -/
theorem not_regexDisjunction_star {entered : List String} {cs : List Char}
    (h : parser.Stands (Lexicon.regexMode :: entered) ('*' :: cs)) :
    ¬ (regexDisjunction parser).Gives () after := by
  have hword : Word parser.scanner.table Lexicon.regexMode ["*"] ['*'] cs := by
    have hstarters : Lexicon.startersOf Lexicon.regexMode '*' = ["*"] := by decide
    refine Wins.word_regex h.table (.of_starters h.table hstarters (List.nil_append cs) (by decide)
      (by simp) (by simp) ?_ ?_)
    · intro name hname
      rw [List.mem_singleton.1 hname, Lexicon.first?_sign (c := '*') rfl, if_pos rfl]
    · intro name hname hother
      exact absurd hname hother
  rw [← List.singleton_append] at h
  obtain ⟨set, hcurrent, hshows, -⟩ := h.shows_inside hword
  have hsees (rule : String) : parser.sees rule = true ↔ "*" = rule :=
    sees_iff_of_shows hshows hcurrent
  have hnone {rules : List String} {token : Token} {after : Parser} (hrules : "*" ∉ rules) :
      ¬ parser.Takes rules token after := by
    intro htakes
    obtain ⟨rule, hrule, hseen⟩ := htakes.exists_sees
    obtain rfl := (hsees rule).1 hseen
    exact hrules hrule
  have hseesAny {rules : List String} (hrules : "*" ∉ rules) : parser.seesAny rules = false := by
    rw [seesAny_eq_false]
    intro rule hrule
    rw [Bool.eq_false_iff, ne_eq, hsees]
    rintro rfl
    exact hrules hrule
  intro hgives
  obtain ⟨middle, halternative, -⟩ := regexDisjunction_gives.1 hgives
  obtain ⟨hends, -⟩ | ⟨-, middle', hterm, -⟩ := regexAlternative_gives.1 halternative
  · have hend : parser.scanner.atEnd = false := by rw [Scanner.atEnd, hcurrent]; rfl
    rw [hend, hseesAny (by decide)] at hends
    contradiction
  · obtain ⟨sign, hsign⟩ | ⟨-, ⟨opening, inside, hopening, -⟩ | ⟨-, behind, hatom, -⟩⟩ :=
      regexTerm_gives.1 hterm
    · exact hnone (by decide) hsign
    · exact hnone (by decide) hopening
    · obtain ⟨token, htoken⟩ | ⟨-, ⟨hopens, -⟩ | ⟨-, opening, inside, hopening, -⟩⟩ :=
        regexAtom_gives.1 hatom
      · exact hnone (by decide) htoken
      · rw [hseesAny (by decide)] at hopens
        contradiction
      · exact hnone (by decide) hopening

/-- A parser inside a regular expression that sees a slash stands right in front of it. -/
theorem Stands.slash_inside {entered : List String}
    (h : parser.Stands (Lexicon.regexMode :: entered) text) (hsees : parser.sees "/" = true) :
    text = '/' :: parser.scanner.place.rest := by
  obtain ⟨set, hcurrent, hset⟩ := current_of_sees hsees
  have hne : text ≠ [] := by
    rintro rfl
    rw [h.current_of_nil] at hcurrent
    contradiction
  obtain ⟨set', front, hcurrent', htext, hwins⟩ := h.exists_current regexMode_ne hne
  obtain rfl : set = set' := Option.some.inj (hcurrent.symm.trans hcurrent')
  have hmem : "/" ∈ set.rules := (sees_iff_mem_rules hcurrent).1 hsees
  rw [← hwins.names_eq] at hmem
  obtain ⟨rule, hrule, hname⟩ := List.mem_map.1 hmem
  obtain ⟨hinMode, hlength⟩ := List.mem_filter.1 hrule
  have hlength := of_decide_eq_true hlength
  obtain ⟨c, cs, rfl⟩ := List.exists_cons_of_length_pos hwins.longest.bounds.1
  rw [Lexicon.matchLength?_eq h.table (List.mem_filter.1 hinMode).1 (by rw [hname]; decide), hname,
    Regex.Expr.takes?, List.cons_append, Lexicon.first?_sign (c := '/') rfl] at hlength
  by_cases hc : c = '/'
  · simp [hc] at hlength
    rw [htext, hc, List.cons_append, hlength, List.nil_append]
  · simp [hc] at hlength

end Parser

/-- The expression and the flags of a set of texts were read in some grammar text, with a closing
brace behind them. -/
structure SetLiteral (source flags : String) : Prop where
  /-- The expression was read up to a slash. -/
  read : ∃ (parser stop : Parser) (entered : List String) (rest : List Char),
    parser.Stands (Lexicon.regexMode :: entered) (source.toList ++ '/' :: rest) ∧
      (Parser.regexDisjunction parser).Gives () stop ∧ stop.Slashed entered rest
  /-- A slash in front of it opens no comment. -/
  opens : ∃ c cs, source.toList = c :: cs ∧ c ≠ '/' ∧ c ≠ '*'
  /-- The flags are a name, if there are any. -/
  flags_name : flags = "" ∨ IsName flags.toList
  /-- Together they give a set of texts. -/
  compiled : ∃ set, RegexSet.compile source flags = .ok set

namespace Parser

/-- What stands between the slashes opens no comment with the first of them. -/
theorem Stands.opens_regex {inside behind : Parser} {source : List Char} (h : parser.Stands [] text)
    (hsees : parser.sees "/" = true) (hinside : inside.Stands [Lexicon.regexMode] (source ++ '/' :: rest))
    (hrest : parser.scanner.place.rest = source ++ '/' :: rest)
    (hinner : (regexDisjunction inside).Gives () behind) :
    ∃ c cs, source = c :: cs ∧ c ≠ '/' ∧ c ≠ '*' := by
  have hline := (h.behindGap_of_slash hsees).2
  cases source with
  | nil => simp [hrest] at hline
  | cons c cs =>
    refine ⟨c, cs, rfl, ?_, ?_⟩
    · rintro rfl
      simp [hrest] at hline
    · rintro rfl
      exact not_regexDisjunction_star hinside hinner

/-- A name that comes next starts where the last token ended if there is no gap in front of it. -/
theorem Stands.touches_iff {token : Token} (h : parser.Stands [] text)
    (hmatching : parser.scanner.matching? ident = some token) :
    ∃ name rest, IsName name ∧ Apart rest ∧ Meets text (namesOfName name) name rest ∧
      (token.span.start = parser.scanner.previousEnd ↔ text = name ++ rest) := by
  have hsees : parser.sees ident = true := by rw [sees, Scanner.matchesRule, hmatching]; rfl
  obtain ⟨name, rest, hname, hapart, hmeets⟩ := h.meets_name hsees
  obtain ⟨set, start, hcurrent, hshows, -, hstart⟩ := h.shows hmeets
  have hmem : token ∈ set.toList := by
    rw [Scanner.matching?, hcurrent, Option.bind_some, TokenSet.find?] at hmatching
    exact List.mem_of_find?_eq_some hmatching
  exact ⟨name, rest, hname, hapart, hmeets, hshows.start_eq token hmem ▸ hstart⟩

/-- Flags are read right in front of the text behind them. -/
theorem Stands.of_regexFlags {flags : Option Token} (h : parser.Stands [] text)
    (hgives : (regexFlags parser).Gives flags after) :
    ∃ text', after.Stands [] text' ∧ after.arena = parser.arena ∧
      text = ((flags.map Token.text).getD "").toList ++ text' ∧
      FlagsEnd ((flags.map Token.text).getD "") text' := by
  -- Without flags a name does not start the text.
  have hnone (hstart : ∀ c cs, text = c :: cs → isNameStart c = true → False) :
      FlagsEnd "" text := by
    refine .inl ⟨rfl, fun c hc => Bool.eq_false_iff.2 fun hname => ?_⟩
    obtain ⟨cs, rfl⟩ := List.head?_eq_some_iff.1 hc
    exact hstart c cs rfl hname
  obtain ⟨token, hmatching, ⟨htouches, name, hname, rfl⟩ | ⟨htouches, rfl, rfl⟩⟩ |
    ⟨hmatching, rfl, rfl⟩ := regexFlags_gives.1 hgives
  · obtain ⟨front, rest, hfront, hapart, hmeets, hiff⟩ := h.touches_iff hmatching
    obtain ⟨hafter, harena, htext, -⟩ := h.of_takes hmeets hname
    refine ⟨rest, hafter, harena, ?_, .inr ⟨?_, hapart⟩⟩
    · rw [Option.map_some, Option.getD_some, htext, String.toList_ofList]
      exact hiff.1 htouches
    · rwa [Option.map_some, Option.getD_some, htext, String.toList_ofList]
  · obtain ⟨front, rest, -, -, hmeets, hiff⟩ := h.touches_iff hmatching
    refine ⟨text, h, rfl, rfl, hnone ?_⟩
    rintro c cs rfl hc
    exact htouches (hiff.2 (by rw [← hmeets.gap_eq, behindGap_name hc]))
  · refine ⟨text, h, rfl, rfl, hnone ?_⟩
    rintro c cs rfl hc
    have hsees : parser.sees ident = true := by
      rw [h.sees_ident_eq, lead, behindGap_name hc, List.head?_cons, Option.any_some, hc]
    rw [sees, Scanner.matchesRule, hmatching] at hsees
    contradiction

/-- A set of texts that is read stands between slashes, with the flags behind them, and is such a
literal if there is a closing brace behind it. -/
theorem Stands.of_regexLiteral {set : RegexSet} (h : parser.Stands [] text)
    (hsees : parser.sees "/" = true) (hgives : (regexLiteral parser).Gives set after) :
    ∃ text', after.Stands [] text' ∧ after.arena = parser.arena ∧
      behindGap text = '/' :: (set.source.toList ++ '/' :: (set.flags.toList ++ text')) ∧
      FlagsEnd set.flags text' ∧ ('\x7d' ∈ text' → SetLiteral set.source set.flags) := by
  obtain ⟨opening, inside, hopening, behind, hinner, hseesBehind, closing, atFlags, hclosing, source,
    hsource, flags, hflags, hcompiled⟩ := regexLiteral_gives.1 hgives
  obtain ⟨openingSet, hskipsOpening, -⟩ := hopening.offers
  obtain ⟨closingSet, hskipsClosing, -⟩ := hclosing.offers
  have hinside := h.skip_enter hskipsOpening
  obtain ⟨inner, text', hgathers, -⟩ := regexDisjunction_spells hinside.stands hinner
  have hatFlags := hgathers.consumes.stands.skip_leave hskipsClosing
  obtain ⟨current, hcurrent, -⟩ := current_of_sees hseesBehind
  have hslice := hgathers.slice_eq hinside.stands regexMode_ne hcurrent
  rw [hatFlags.source_eq, hgathers.consumes.source_eq, hslice, Option.some.injEq] at hsource
  obtain ⟨text'', hafter, harena, htext, hends⟩ := hatFlags.stands.of_regexFlags hflags
  obtain ⟨hsetSource, hsetFlags⟩ := RegexSet.compile_self hcompiled
  have hslash := hgathers.consumes.stands.slash_inside hseesBehind
  have hplace : parser.scanner.place.rest =
      source.toList ++ '/' :: behind.scanner.place.rest := by
    rw [hgathers.text_eq, ← hslash, ← hsource, String.toList_ofList]
  rw [hsetSource, hsetFlags]
  refine ⟨text'', hafter, ?_, ?_, hends, fun hbrace => ?_⟩
  · calc after.arena = atFlags.arena := harena
      _ = behind.arena := hskipsClosing.arena_eq
      _ = inside.arena := hgathers.arena_eq
      _ = parser.arena := hskipsOpening.arena_eq
  · rw [(h.behindGap_of_slash hsees).1, hplace, htext]
  have hstop : behind.Slashed [] behind.scanner.place.rest :=
    ⟨hslash ▸ hgathers.consumes.stands, htext ▸ List.mem_append_right _ hbrace⟩
  have hstands := hinside.stands
  rw [hplace] at hstands
  exact ⟨⟨inside, behind, [], _, hstands, hinner, hstop⟩, h.opens_regex hsees hstands hplace hinner,
    hends.imp And.left And.left, set, hcompiled⟩

/-! ## What is read again -/

/-- A name is taken where the text behind it can be read. -/
theorem Stands.exists_takes_name {name : List Char} (h : parser.Stands [] text)
    (hmeets : Meets text (namesOfName name) name rest) (hreadable : Readable rest) :
    ∃ token after, parser.Takes [ident] token after := by
  have hcount : (namesOfName name).count ident = 1 := by rw [namesOfName]; split <;> decide
  have hrules : [ident].filter (· ∈ namesOfName name) = [ident] := by
    rw [namesOfName]
    split <;> decide
  obtain ⟨token, after, htakes, -⟩ := h.exists_takes hmeets hcount hrules hreadable
  exact ⟨token, after, htakes⟩

/-- Flags right behind a slash are read. -/
theorem Stands.exists_regexFlags {flags : String} (h : parser.Stands [] (flags.toList ++ rest))
    (hends : FlagsEnd flags rest) (hreadable : Readable rest) :
    ∃ token after, (regexFlags parser).Gives token after ∧
      (token.map Token.text).getD "" = flags ∧ after.Stands [] rest ∧ after.arena = parser.arena := by
  obtain ⟨rfl, hstart⟩ | ⟨hname, hapart⟩ := hends
  · rw [String.toList_empty, List.nil_append] at h
    cases hmatching : parser.scanner.matching? ident with
    | none => exact ⟨none, parser, regexFlags_gives.2 (.inr ⟨hmatching, rfl, rfl⟩), rfl, h, rfl⟩
    | some token =>
      refine ⟨none, parser, regexFlags_gives.2 (.inl ⟨token, hmatching, .inr ⟨?_, rfl, rfl⟩⟩), rfl, h,
        rfl⟩
      -- A name that touches the slash would be the start of the text behind it.
      intro htouches
      obtain ⟨name, rest', ⟨c, cs, rfl, hc, -⟩, -, hmeets, hiff⟩ := h.touches_iff hmatching
      rw [hiff] at htouches
      rw [htouches] at hstart
      rw [hstart c rfl] at hc
      contradiction
  · have hmeets := Meets.name hname hapart
    obtain ⟨token, after, htakes⟩ := h.exists_takes_name hmeets hreadable
    obtain ⟨hafter, harena, htext, hstart⟩ := h.of_takes hmeets htakes
    refine ⟨some token, after, regexFlags_gives.2 (.inl ⟨token, htakes.matching?_eq,
      .inl ⟨hstart rfl, token, htakes, rfl⟩⟩), ?_, hafter, harena⟩
    rw [Option.map_some, Option.getD_some, htext, String.ofList_toList]

end Parser

/-- The expression and the flags that were read once are read again, in front of any other text that
can be read. -/
theorem SetLiteral.exists_regexLiteral {source flags : String} (hset : SetLiteral source flags)
    (h : parser.Stands [] text)
    (hgap : behindGap text = '/' :: (source.toList ++ '/' :: (flags.toList ++ rest)))
    (hends : FlagsEnd flags rest) (hreadable : Readable rest) :
    ∃ set after, (Parser.regexLiteral parser).Gives set after ∧ set.source = source ∧
      set.flags = flags ∧ after.Stands [] rest ∧ after.arena = parser.arena := by
  obtain ⟨first, stop, entered, restThere, hfirstStands, hfirstGives, hstop⟩ := hset.read
  obtain ⟨c, cs, hsource, hline, hblock⟩ := hset.opens
  obtain ⟨set, hcompiled⟩ := hset.compiled
  have hmeets : Meets text ["/"] ['/'] (source.toList ++ '/' :: (flags.toList ++ rest)) :=
    ⟨hgap, by rw [hsource]; exact fun _ htable => word_slash htable hline hblock _⟩
  obtain ⟨current, start, hcurrent, hshows, hplace, -⟩ := h.shows hmeets
  -- The slash is taken where the regular expression is entered.
  have hreaches := Parser.regexDisjunction_reaches hfirstGives
  obtain ⟨opening, inside, hopening⟩ : ∃ opening inside,
      (parser.enter Lexicon.regexMode).Takes ["/"] opening inside := by
    obtain ⟨told, henter⟩ := parser.enter_eq Lexicon.regexMode
    obtain ⟨_, front, behind, -, htext, hword, -⟩ :=
      hfirstStands.word_in_front hstop hreaches (flags.toList ++ rest)
    rw [Except.ok.inj (hfirstStands.table.symm.trans h.table)] at hword
    obtain ⟨_, hfirst, -⟩ := hword.first h.table .nil parser.scanner.place.offset
    rw [List.nil_append, ← htext, ← hplace] at hfirst
    rw [henter, h.entered_eq]
    exact Parser.exists_takes_switched h.table hcurrent hshows hfirst
  obtain ⟨openingSet, hskipsOpening, -⟩ := hopening.offers
  have hinside := h.skip_enter hskipsOpening
  rw [hplace] at hinside
  -- The same steps lead to the closing slash.
  have hbeside : Parser.Alongside entered [] restThere (flags.toList ++ rest) first inside :=
    ⟨source.toList, hfirstStands, hinside.stands⟩
  obtain ⟨behind, hinner, textThere, hstopThere, hbehind⟩ :=
    Parser.regexDisjunction_again hstop hbeside hfirstGives (.refl stop)
  have hnil : textThere = [] :=
    List.append_left_eq_self.1 (hstopThere.at_text.text_unique hstop.stands.at_text)
  rw [hnil, List.nil_append] at hbehind
  have hslash := word_regexSlash hbehind.table (flags.toList ++ rest)
  obtain ⟨slashSet, hslashCurrent, hslashShows, hslashPlace⟩ : ∃ set,
      behind.scanner.current = some set ∧ Shows set ["/"] ['/'] behind.scanner.previousEnd ∧
        behind.scanner.place.rest = flags.toList ++ rest := hbehind.shows_inside hslash
  have hsees : behind.sees "/" = true := (Parser.sees_iff_of_shows hslashShows hslashCurrent).2 rfl
  -- The slash is taken where the regular expression is left.
  have hreadableFlags : Readable (flags.toList ++ rest) := by
    obtain ⟨rfl, -⟩ | ⟨hname, hapart⟩ := hends
    · exact hreadable
    · exact (Meets.name hname hapart).readable
  obtain ⟨closing, atFlags, hclosing⟩ : ∃ closing atFlags, behind.leave.Takes ["/"] closing atFlags := by
    obtain ⟨told, hleave⟩ := Parser.leave_eq hbehind.entered_eq
    obtain ⟨_, _, hfirst⟩ := hreadableFlags.first hbehind.table behind.scanner.place.offset
    rw [← hslashPlace] at hfirst
    rw [hleave]
    exact Parser.exists_takes_switched hbehind.table hslashCurrent hslashShows hfirst
  obtain ⟨closingSet, hskipsClosing, -⟩ := hclosing.offers
  have hatFlags := hbehind.skip_leave hskipsClosing
  rw [hslashPlace] at hatFlags
  -- What stands between the slashes is the expression.
  obtain ⟨inner, text', hgathers, -⟩ := Parser.regexDisjunction_spells hinside.stands hinner
  obtain rfl := hgathers.consumes.stands.at_text.text_unique hbehind.at_text
  have hslice := hgathers.slice_eq hinside.stands Parser.regexMode_ne hslashCurrent
  rw [← List.append_cancel_right hgathers.text_eq, String.ofList_toList,
    ← hgathers.consumes.source_eq, ← hatFlags.source_eq] at hslice
  obtain ⟨token, after, hflags, htext, hafter, harena⟩ :=
    hatFlags.stands.exists_regexFlags hends hreadable
  have hself := RegexSet.compile_self hcompiled
  refine ⟨set, after, Parser.regexLiteral_gives.2 ⟨opening, inside, hopening, behind, hinner, hsees,
    closing, atFlags, hclosing, source, hslice, token, hflags, by rw [htext, hcompiled]⟩, hself.1,
    hself.2, hafter, ?_⟩
  calc after.arena = atFlags.arena := harena
    _ = behind.arena := hskipsClosing.arena_eq
    _ = inside.arena := hgathers.arena_eq
    _ = parser.arena := hskipsOpening.arena_eq

end GrammarLang.Grammar
