import GrammarLang.Proofs.Grammar.Rereads

/-! # Grammars are read back

A grammar that can be written, and whose arena has the terminals in order, is what its own notation is
parsed to, with the very same ids: **`readsBack_of_writable`**. Code in it has to end where its brace
closes it; a grammar without code is one of these.

Each part of the parser is followed on what is written for a node of the tree, by recursion on the
tree. Where the parser has a choice, the first character of the next word decides it. -/

namespace GrammarLang.Grammar

open GrammarLang.Scan GrammarLang.Text

open Lexicon (ident number string)

/-- The notation of a grammar is parsed to another one. -/
structure ReadsBackAs (grammar other : Grammar) : Prop where
  /-- The other grammar is what the notation is parsed to. -/
  parsed : (parse (.ofString grammar.render)).result = .ok other
  /-- It is the same but for the places in the text. -/
  same : grammar.same other = true
  /-- It has the same terminals, with the same ids. -/
  keys_eq : other.arena.keys = grammar.arena.keys

/-- Writing a grammar and parsing what is written gives the grammar back. -/
def ReadsBack (grammar : Grammar) : Prop := ∃ other, grammar.ReadsBackAs other

namespace Parser

/-- The parser is about to read the text of a grammar with the arena, the first `known` terminals of
which it has met. -/
structure Resumes (parser : Parser) (arena : Arena) (known : Nat) (text : List Char) : Prop where
  /-- It stands at the text. -/
  faces : parser.Faces text
  /-- It has met these terminals. -/
  keys_eq : parser.arena.keys = arena.keys.take known

variable {arena : Arena} {parser after : Parser} {known later : Nat} {text rest : List Char}

/-- Where no terminal has been added, as many are known as before. -/
theorem Resumes.onward (h : parser.Resumes arena known text) (hafter : after.Faces rest)
    (harena : after.arena = parser.arena) : after.Resumes arena known rest :=
  ⟨hafter, harena ▸ h.keys_eq⟩

/-! ## Elements and branches -/

/-- A written terminal is read as the terminal with its id. -/
theorem Resumes.exists_terminal {id : TerminalId} {value : Terminal} (hnodup : arena.keys.Nodup)
    (h : parser.Resumes arena known (value.render.toList ++ rest)) (hvalue : value.Writable)
    (hget : arena.get? id = some value) (hnumbered : Numbered known [id] later)
    (hapart : Apart rest) (hreadable : Readable rest) :
    ∃ after, (terminal parser).Gives id after ∧ after.Resumes arena later rest := by
  obtain ⟨other, middle, hkey, hmiddle, harena, hgives⟩ :=
    h.faces.exists_terminal hvalue hapart hreadable
  have hplace : arena.keys[id.index]? = some other.key := by
    rw [hkey, Arena.keys, List.getElem?_map]
    exact congrArg (Option.map Terminal.key) hget
  have hkeys : middle.arena.keys = arena.keys.take known := harena ▸ h.keys_eq
  obtain ⟨hid, hlater⟩ := Arena.intern_numbered hkeys hnodup hplace hnumbered
  refine ⟨_, hgives id _ (gives_intern.2 ⟨hid, rfl⟩), ⟨_, ?_, rfl⟩, hlater⟩
  exact ⟨hmiddle.table, hmiddle.entered_eq, hmiddle.at_text⟩

/-- A branch ends where a sign that ends branches comes next. -/
theorem Faces.seesAny_branchEnds {c : Char} (h : parser.Faces (c :: rest))
    (hc : c ∈ ['|', ';', ')']) : parser.seesAny branchEnds = true := by
  have hall : ∀ c ∈ ['|', ';', ')'], c ∈ signChars ∧ String.singleton c ∈ branchEnds :=
    List.all_iff_forall_prop.1 (by decide)
  obtain ⟨hsign, hmem⟩ := hall c hc
  rw [seesAny, Scanner.matchesAny, List.any_eq_true]
  refine ⟨_, hmem, ?_⟩
  have hsees := h.sees_eq (.sign hsign)
  rw [(Meets.sign hsign rest).lead_eq] at hsees
  exact hsees.trans (decide_eq_true rfl)

/-- A branch does not end where a component comes next. -/
theorem Faces.not_seesAny_branchEnds (h : parser.Faces text) (hopens : Opens text) :
    parser.seesAny branchEnds = false := by
  rw [seesAny_eq_false]
  intro rule hrule
  obtain ⟨c, rfl, hsign, hnot⟩ : ∃ c, rule = String.singleton c ∧ c ∈ signChars ∧
      startsComponent c = false := by
    simp only [branchEnds, List.mem_cons, List.not_mem_nil, or_false] at hrule
    obtain rfl | rfl | rfl := hrule
    exacts [⟨'|', rfl, by decide, by decide⟩, ⟨';', rfl, by decide, by decide⟩,
      ⟨')', rfl, by decide, by decide⟩]
  exact h.sees_sign_eq_false hsign hopens hnot

mutual

theorem exists_element {arena : Arena} (hnodup : arena.keys.Nodup) (element : Element)
    {parser : Parser} {known later : Nat} {rest : List Char} (helement : element.Writable arena)
    (hnumbered : Numbered known element.leaves later)
    (h : parser.Resumes arena known ((element.render arena).toList ++ rest)) (hapart : Apart rest)
    (hreadable : Readable rest) :
    ∃ other after, (parser.element).Gives other after ∧ element.same other = true ∧
      after.Resumes arena later rest := by
  match element with
  | .terminal id =>
    obtain ⟨value, hget, hvalue⟩ := helement
    rw [Element.render, Arena.renderAt, hget] at h
    obtain ⟨htilde, hopening⟩ := h.faces.lacks_openings hvalue hapart
    obtain ⟨after, hgives, hafter⟩ :=
      h.exists_terminal hnodup hvalue hget hnumbered hapart hreadable
    exact ⟨.terminal id, after, element_gives.2 (.inr ⟨htilde, .inr ⟨hopening, id, hgives, rfl⟩⟩),
      by simp [Element.same], hafter⟩
  | .group kind branches =>
    obtain ⟨hne, hbranches⟩ := helement
    have htilde : parser.Lacks ["~"] := by
      refine h.faces.lacks_of_ledBy (ledBy_group arena kind branches rest) fun c hc => ?_
      rw [of_decide_eq_true hc]
      decide +kernel
    have htext : (Element.render arena (.group kind branches)).toList ++ rest =
        kind.opening.toList ++ ((renderBranches arena branches).toList ++ ' ' :: ')' :: rest) := by
      simp [Element.render]
    rw [htext] at h
    have hgoesOn := goesOn_branches hbranches (goesOn_sign (c := ')') (by decide) (by decide) rest)
    obtain ⟨more, hmore⟩ := branches_blank arena branches (')' :: rest)
    have hmeets := Meets.opening kind more
    rw [← hmore] at hmeets
    have hrules : ["(", "(?=", "(?!"].filter (· ∈ [kind.opening]) = [kind.opening] := by
      cases kind <;> decide
    obtain ⟨opening, inside, hopening, hrule, -, hinside, harena⟩ :=
      h.faces.exists_word hmeets (by simp) hrules hgoesOn.led.readable
    obtain ⟨others, behind, hothers, hsame, hbehind⟩ := exists_branches hnodup branches hne hbranches
      hnumbered (h.onward hinside.faces harena) (by decide)
    obtain ⟨closing, after, hclosing, hafter, harena'⟩ :=
      hbehind.faces.exists_sign (by decide) hreadable
    have hkind : groupKindOf opening = kind := by
      rw [groupKindOf, hrule]
      cases kind <;> rfl
    refine ⟨.group kind others, after, element_gives.2 (.inr ⟨htilde, .inl ⟨opening, inside, hopening,
      others, behind, hothers, closing, hclosing, by rw [hkind]⟩⟩), by simp [Element.same, hsame],
      hbehind.onward hafter.faces harena'⟩
  | .negation inner =>
    have htext : (Element.render arena (.negation inner)).toList ++ rest =
        '~' :: ((inner.render arena).toList ++ rest) := by
      simp [Element.render]
    rw [htext] at h
    have hinner : inner.Writable arena := helement
    obtain ⟨sign, middle, hsign, hmiddle, harena⟩ :=
      h.faces.exists_sign (by decide) (hinner.ledBy hapart).readable
    obtain ⟨other, after, hgives, hsame, hafter⟩ := exists_element hnodup inner hinner hnumbered
      (h.onward hmiddle.faces harena) hapart hreadable
    exact ⟨.negation other, after, element_gives.2 (.inl ⟨sign, middle, hsign, other, hgives, rfl⟩),
      by simp [Element.same, hsame], hafter⟩

theorem exists_component {arena : Arena} (hnodup : arena.keys.Nodup) (component : Component)
    {parser : Parser} {known later : Nat} {rest : List Char} (hcomponent : component.Writable arena)
    (hnumbered : Numbered known component.leaves later)
    (h : parser.Resumes arena known ((component.render arena).toList ++ rest)) (hrest : GoesOn rest)
    (hbare : component.codeAfter = none → (lead rest).any (· = '\x7b') = false) :
    ∃ other after, (parser.component).Gives other after ∧ component.same other = true ∧
      after.Resumes arena later rest := by
  have hled := hcomponent.ledBy hrest
  match component with
  | ⟨span, label, predicate, codeBefore, element, suffixes, codeAfter⟩ =>
    obtain ⟨⟨hpredicate, hbefore, hbehind⟩, hlabel, helement, hsuffixes⟩ := hcomponent
    have hclosed : ∀ code ∈ codeAfter, code.Closed := fun code hmem => (hbehind code hmem).1
    have hgoesOn := goesOn_behind codeAfter hrest
    have hapart := apart_suffixes suffixes hgoesOn.apart
    have hreadable := (ledBy_suffixes suffixes hgoesOn).readable
    have hfaces := h.faces
    simp only [Component.toList_render, List.append_assoc] at hfaces
    obtain ⟨predicate', codeBefore', atLabel, hfrontGives, hpredicateSame, hbeforeSame, hatLabel,
      hatLabelArena⟩ := hfaces.exists_codeInFront hpredicate hbefore hled
    obtain ⟨atElement, hlabelGives, hatElement, hatElementArena⟩ :=
      hatLabel.exists_label hlabel helement hgoesOn
    obtain ⟨other, atSuffixes, helementGives, hsame, hatSuffixes⟩ :=
      exists_element hnodup element helement hnumbered
        (h.onward hatElement (hatElementArena.trans hatLabelArena)) hapart hreadable
    obtain ⟨atCode, hsuffixesGives, hatCode, hatCodeArena⟩ :=
      hatSuffixes.faces.exists_suffixes hsuffixes hgoesOn (behindText_unnumbered hbehind hbare)
    obtain ⟨codeAfter', after, hbehindGives, hbehindSame, hafter, hafterArena⟩ :=
      hatCode.exists_codeBehind hclosed hrest hbare
    refine ⟨⟨after.spanFrom parser.start, label, predicate', codeBefore', other, suffixes, codeAfter'⟩,
      after, component_gives.2 ⟨atLabel, hfrontGives, atElement, hlabelGives, atSuffixes,
        helementGives, atCode, hsuffixesGives, hbehindGives, rfl⟩, ?_,
      hatSuffixes.onward hafter (hafterArena.trans hatCodeArena)⟩
    simp [Component.same, hsame, hpredicateSame, hbeforeSame, hbehindSame]

theorem exists_components {arena : Arena} (hnodup : arena.keys.Nodup) (components : List Component)
    {parser : Parser} {known later : Nat} {c : Char} {rest : List Char}
    (hcomponents : WritableComponents arena components)
    (hnumbered : Numbered known (leavesOfComponents components) later)
    (h : parser.Resumes arena known ((renderComponents arena components).toList ++ ' ' :: c :: rest))
    (hc : c ∈ ['|', ';', ')']) :
    ∃ others after, (parser.components).Gives others after ∧ sameComponents components others = true ∧
      after.Resumes arena later (c :: rest) := by
  match components with
  | [] =>
    cases hnumbered
    have hfaces := h.faces.space
    exact ⟨[], parser, components_gives.2 (.inl ⟨hfaces.seesAny_branchEnds hc, rfl, rfl⟩),
      by rw [sameComponents], hfaces, h.keys_eq⟩
  | first :: others =>
    obtain ⟨hfirst, hothers, hadjacent⟩ := hcomponents
    rw [leavesOfComponents, numbered_append] at hnumbered
    obtain ⟨middle, hfirstNumbered, hothersNumbered⟩ := hnumbered
    have hall : ∀ c ∈ ['|', ';', ')'], c ∈ signChars ∧ endsBranch c = true ∧ c ≠ '\x7b' :=
      List.all_iff_forall_prop.1 (by decide)
    obtain ⟨hsign, hendsBranch, hne⟩ := hall c hc
    have hend := goesOn_sign hsign hendsBranch rest
    have hgoesOn := goesOn_components hothers hend
    -- Code of the next component is not there to be taken for code behind this one.
    have hbare (hcode : first.codeAfter = none) :=
      not_brace_of_bare hothers (hadjacent hcode) hend (by
        rw [(Meets.sign hsign rest).space.lead_eq]
        exact decide_eq_false hne)
    have htext : (renderComponents arena (first :: others)).toList ++ ' ' :: c :: rest =
        ' ' :: ((first.render arena).toList ++
          ((renderComponents arena others).toList ++ ' ' :: c :: rest)) := by
      simp [renderComponents]
    rw [htext] at h
    have hends := h.faces.space.not_seesAny_branchEnds (hfirst.opens hgoesOn)
    obtain ⟨other, behind, hgives, hsame, hbehind⟩ := exists_component hnodup first hfirst
      hfirstNumbered ⟨h.faces.space, h.keys_eq⟩ hgoesOn hbare
    obtain ⟨further, after, hmore, hsameMore, hafter⟩ :=
      exists_components hnodup others hothers hothersNumbered hbehind hc
    exact ⟨other :: further, after, components_gives.2 (.inr ⟨hends, other, behind, hgives, further,
      hmore, rfl⟩), by simp [sameComponents, hsame, hsameMore], hafter⟩

theorem exists_branches {arena : Arena} (hnodup : arena.keys.Nodup) (branches : List Branch)
    {parser : Parser} {known later : Nat} {c : Char} {rest : List Char} (hne : branches ≠ [])
    (hbranches : WritableBranches arena branches)
    (hnumbered : Numbered known (leavesOfBranches branches) later)
    (h : parser.Resumes arena known ((renderBranches arena branches).toList ++ ' ' :: c :: rest))
    (hc : c ∈ [';', ')']) :
    ∃ others after, (parser.branches).Gives others after ∧ sameBranches branches others = true ∧
      after.Resumes arena later (c :: rest) := by
  match branches with
  | [] => contradiction
  | [⟨span, components⟩] =>
    obtain ⟨hcomponents, -⟩ := hbranches
    rw [leavesOfBranches, leavesOfBranches, List.append_nil] at hnumbered
    obtain ⟨others, after, hgives, hsame, hafter⟩ := exists_components hnodup components hcomponents
      hnumbered h (List.mem_cons_of_mem _ hc)
    have hlacks : after.Lacks ["|"] := by
      have hall : ∀ c ∈ [';', ')'], c ∈ signChars ∧ c ≠ '|' := List.all_iff_forall_prop.1 (by decide)
      have hbar : '|' ∈ signChars := by decide
      have hled : LedBy (· = c) (c :: rest) := ledBy_sign (hall c hc).1 (decide_eq_true rfl) rest
      rw [lacks_iff_sees]
      intro rule hrule
      rw [List.mem_singleton.1 hrule]
      exact hafter.faces.sees_sign_eq_false hbar hled (decide_eq_false (hall c hc).2.symm)
    exact ⟨[⟨after.spanFrom parser.start, others⟩], after, branches_gives.2 ⟨_, after,
      branch_gives.2 ⟨hgives, rfl⟩, .inr ⟨hlacks, rfl, rfl⟩⟩,
      by simp [sameBranches, Branch.same, hsame], hafter⟩
  | ⟨span, components⟩ :: second :: others =>
    obtain ⟨hcomponents, hothers⟩ := hbranches
    rw [leavesOfBranches, numbered_append] at hnumbered
    obtain ⟨middle, hfirstNumbered, hothersNumbered⟩ := hnumbered
    have hall : ∀ c ∈ [';', ')'], c ∈ signChars ∧ endsBranch c = true :=
      List.all_iff_forall_prop.1 (by decide)
    have hgoesOn := goesOn_branches hothers (goesOn_sign (hall c hc).1 (hall c hc).2 rest)
    have htext : (renderBranches arena (⟨span, components⟩ :: second :: others)).toList ++
        ' ' :: c :: rest = (renderComponents arena components).toList ++
          ' ' :: '|' :: ((renderBranches arena (second :: others)).toList ++ ' ' :: c :: rest) := by
      simp [renderBranches, Branch.render]
    rw [htext] at h
    obtain ⟨first, atBar, hgives, hsame, hatBar⟩ := exists_components hnodup components hcomponents
      hfirstNumbered h (by decide)
    obtain ⟨bar, behind, hbar, hbehind, harena⟩ :=
      hatBar.faces.exists_sign (by decide) hgoesOn.led.readable
    obtain ⟨further, after, hmore, hsameMore, hafter⟩ := exists_branches hnodup (second :: others)
      (by simp) hothers hothersNumbered (hatBar.onward hbehind.faces harena) hc
    refine ⟨⟨atBar.spanFrom parser.start, first⟩ :: further, after, branches_gives.2 ⟨_, atBar,
      branch_gives.2 ⟨hgives, rfl⟩, .inl ⟨bar, behind, hbar, further, hmore, rfl⟩⟩, ?_, hafter⟩
    rw [sameBranches, Branch.same, hsame, hsameMore, Bool.and_true]

end

/-! ## Productions -/

/-- Productions that are the same but for their places. -/
def SameProduction (mine other : Production) : Prop :=
  mine.name = other.name ∧ sameBranches mine.branches other.branches = true

/-- A production as it is written, in front of other text. -/
theorem toList_renderProduction (arena : Arena) (production : Production) (rest : List Char) :
    (production.render arena).toList ++ rest = ' ' :: ' ' :: ' ' :: ' ' :: (production.name.toList ++
      ' ' :: ':' :: ((renderBranches arena production.branches).toList ++
        ' ' :: ';' :: '\n' :: rest)) := by
  simp [Production.render]

/-- A production opens with its name. -/
theorem ledBy_production {production : Production} (h : IsName production.name.toList) (arena : Arena)
    (rest : List Char) : LedBy isNameStart ((production.render arena).toList ++ rest) := by
  obtain ⟨c, cs, hname, hc, hcs⟩ := h
  rw [toList_renderProduction, hname]
  refine LedBy.space (LedBy.space (LedBy.space (LedBy.space ?_)))
  exact ⟨_, c, cs, _, meets_spaced ⟨c, cs, rfl, hc, hcs⟩ _, hc⟩

/-- A written production is read as the same production. -/
theorem Resumes.exists_production {production : Production} (hnodup : arena.keys.Nodup)
    (hproduction : production.Writable arena)
    (hnumbered : Numbered known (leavesOfBranches production.branches) later)
    (h : parser.Resumes arena known ((production.render arena).toList ++ rest))
    (hreadable : Readable rest) :
    ∃ other after, (Parser.production parser).Gives other after ∧ SameProduction production other ∧
      after.Resumes arena later rest := by
  have hgoesOn := goesOn_branches hproduction.branches
    (goesOn_sign (c := ';') (by decide) (by decide) ('\n' :: rest))
  have hfaces := h.faces
  rw [toList_renderProduction] at hfaces
  have hcolonSign : ':' ∈ signChars := by decide
  obtain ⟨name, atColon, hname, htext, hatColon, harena⟩ := hfaces.space.space.space.space.exists_name
    (meets_spaced hproduction.name _) (Meets.sign hcolonSign _).space.readable
  obtain ⟨colon, inside, hcolon, hinside, harena'⟩ :=
    hatColon.faces.space.exists_sign hcolonSign hgoesOn.led.readable
  obtain ⟨others, atEnd, hothers, hsame, hatEnd⟩ := exists_branches hnodup production.branches
    hproduction.ne_nil hproduction.branches hnumbered
    (h.onward hinside.faces (harena'.trans harena)) (by decide)
  obtain ⟨semicolon, last, hsemicolon, hlast, harena''⟩ :=
    hatEnd.faces.exists_sign (by decide) hreadable.newline
  have htold := hlast.tell .debug
    s!"Parsed production '{name.text}' with {others.length} alternatives"
  have hafter := htold.stands.faces.newline
  refine ⟨⟨Parser.spanFrom _ parser.start, production.name, others⟩, _, production_gives.2 ⟨name,
    atColon, hname, colon, inside, hcolon, atEnd, hothers, semicolon, last, hsemicolon, htext.symm,
    rfl, rfl⟩, ⟨rfl, hsame⟩, hatEnd.onward hafter harena''⟩

/-- Productions as they are written. -/
def renderProductions (arena : Arena) (productions : List Production) : String :=
  String.join (productions.map (Production.render arena))

@[simp] theorem toList_renderProductions_cons (arena : Arena) (first : Production)
    (others : List Production) : (renderProductions arena (first :: others)).toList =
      (first.render arena).toList ++ (renderProductions arena others).toList := by
  simp [renderProductions]

/-- Productions in front of a closing brace open with a name, or there are none. -/
theorem ledBy_productions {productions : List Production}
    (h : ∀ production ∈ productions, production.Writable arena) (rest : List Char) :
    LedBy (fun c => isNameStart c || c = '\x7d')
      ((renderProductions arena productions).toList ++ '\x7d' :: rest) := by
  cases productions with
  | nil => exact ledBy_sign (by decide) (by decide) rest
  | cons first others =>
    rw [toList_renderProductions_cons, List.append_assoc]
    refine (ledBy_production (h first List.mem_cons_self).name arena _).mono fun c hc => ?_
    rw [hc, Bool.true_or]

/-- Written productions are read as the same productions. -/
theorem Resumes.exists_productions {productions : List Production} {parser : Parser} {known : Nat}
    (hnodup : arena.keys.Nodup) (hproductions : ∀ production ∈ productions, production.Writable arena)
    (hnumbered : Numbered known (leavesOfProductions productions) later)
    (h : parser.Resumes arena known
      ((renderProductions arena productions).toList ++ '\x7d' :: rest)) :
    ∃ others after, (Parser.productions parser).Gives others after ∧
      List.Forall₂ SameProduction productions others ∧ after.Resumes arena later ('\x7d' :: rest) := by
  induction productions generalizing parser known with
  | nil =>
    cases hnumbered
    have hbrace : '\x7d' ∈ signChars := by decide
    have hnone : parser.sees ident = false := by
      rw [h.faces.sees_ident_eq]
      exact (ledBy_sign hbrace rfl rest : LedBy (· = '\x7d') _).lead_any_eq_false fun c hc => by
        rw [of_decide_eq_true hc]
        decide
    exact ⟨[], parser, productions_gives.2 (.inr ⟨hnone, rfl, rfl⟩), .nil, h⟩
  | cons first others ih =>
    rw [leavesOfProductions, List.flatMap_cons, numbered_append] at hnumbered
    obtain ⟨middle, hfirstNumbered, hothersNumbered⟩ := hnumbered
    have hfirst := hproductions first List.mem_cons_self
    have hothers : ∀ production ∈ others, production.Writable arena :=
      fun production hmem => hproductions production (List.mem_cons_of_mem _ hmem)
    rw [toList_renderProductions_cons, List.append_assoc] at h
    have hsees : parser.sees ident = true := by
      obtain ⟨c, hlead, hc⟩ := (ledBy_production hfirst.name arena _).exists_lead
      rw [h.faces.sees_ident_eq, hlead, Option.any_some, hc]
    obtain ⟨other, behind, hgives, hsame, hbehind⟩ := h.exists_production hnodup hfirst
      hfirstNumbered (ledBy_productions hothers rest).readable
    obtain ⟨further, after, hmore, hsameMore, hafter⟩ := ih hothers hothersNumbered hbehind
    exact ⟨other :: further, after, productions_gives.2 (.inl ⟨hsees, other, behind, hgives, further,
      hmore, rfl⟩), .cons hsame hsameMore, hafter⟩

end Parser

/-- Grammars with the same productions, one by one, are the same. -/
theorem same_of_productions {grammar other : Grammar} (hname : grammar.name = other.name)
    (h : List.Forall₂ Parser.SameProduction grammar.productions other.productions) :
    grammar.same other = true := by
  rw [same, hname, decide_eq_true rfl, decide_eq_true h.length_eq]
  generalize grammar.productions = productions at h
  generalize other.productions = others at h
  induction h with
  | nil => rfl
  | cons hsame _ ih => simpa [hsame.1, hsame.2] using ih

/-! ## Whole grammars -/

theorem toList_render (grammar : Grammar) : grammar.render.toList =
    Lexicon.keyword.toList ++ ' ' :: (grammar.name.toList ++ ' ' :: '\x7b' :: '\n' ::
      ((Parser.renderProductions grammar.arena grammar.productions).toList ++ ['\x7d'])) := by
  have hkeyword : "grammar " = Lexicon.keyword ++ " " := by decide
  rw [render, hkeyword]
  simp [Parser.renderProductions]

theorem isName_keyword : IsName Lexicon.keyword.toList :=
  ⟨'g', "rammar".toList, by decide, by decide, List.all_eq_true.1 (by decide)⟩

/-- A grammar is read around what is read between its braces. -/
theorem Parser.Faces.exists_wholeGrammar {name : String} {text : List Char} {parser : Parser}
    (hname : IsName name.toList)
    (h : parser.Faces (Lexicon.keyword.toList ++ ' ' :: (name.toList ++ ' ' :: '\x7b' :: text)))
    (hreadable : Readable text) {holds : List Production → Parser → Prop}
    (hinside : ∀ inside : Parser, inside.Stands [] text → inside.arena = parser.arena →
      ∃ found atClosing, (productions inside).Gives found atClosing ∧ holds found atClosing ∧
        atClosing.Faces ['\x7d']) :
    ∃ grammar after atClosing, (wholeGrammar parser).Gives grammar after ∧ grammar.name = name ∧
      grammar.arena = atClosing.arena ∧ holds grammar.productions atClosing := by
  have hopeningSign : '\x7b' ∈ signChars := by decide
  have hclosingSign : '\x7d' ∈ signChars := by decide
  -- The keyword is a name as well, but it is taken as the keyword.
  have hnames : namesOfName Lexicon.keyword.toList = [Lexicon.keyword, ident] := if_pos rfl
  have hkeywordMeets := meets_spaced isName_keyword (name.toList ++ ' ' :: '\x7b' :: text)
  have hnameMeets := meets_spaced hname ('\x7b' :: text)
  rw [hnames] at hkeywordMeets
  have hcount : [Lexicon.keyword, ident].count Lexicon.keyword = 1 := by decide
  have hrules : [Lexicon.keyword].filter (· ∈ [Lexicon.keyword, ident]) = [Lexicon.keyword] := by
    decide
  obtain ⟨keyword, atName, hkeyword, -, -, hatName, harena⟩ :=
    h.exists_word hkeywordMeets hcount hrules hnameMeets.space.readable
  obtain ⟨token, atOpening, htoken, htext, hatOpening, harena'⟩ :=
    hatName.faces.space.exists_name hnameMeets (Meets.sign hopeningSign _).space.readable
  obtain ⟨opening, inside, hopening, hinsideStands, harena''⟩ :=
    hatOpening.faces.space.exists_sign hopeningSign hreadable
  obtain ⟨found, atClosing, hfound, hholds, hatClosing⟩ :=
    hinside inside hinsideStands ((harena''.trans harena').trans harena)
  have hsees : atClosing.sees "\x7d" = true := by
    have htold : ToldBy "\x7d" (· = '\x7d') := ToldBy.sign hclosingSign
    rw [hatClosing.sees_eq htold, (Meets.sign hclosingSign []).lead_eq]
    rfl
  obtain ⟨closing, after, hclosing, hafter, harenaEnd⟩ :=
    hatClosing.exists_sign hclosingSign (.inl (List.suffix_nil.1 (behindGap_suffix [])))
  have hend : after.scanner.atEnd = true := by rw [Scanner.atEnd, hafter.current_of_nil]; rfl
  exact ⟨⟨after.spanFrom parser.start, name, found, after.arena⟩, after, atClosing,
    wholeGrammar_gives.2 ⟨keyword, atName, hkeyword, token, atOpening, htoken, opening, inside,
      hopening, atClosing, hfound, hsees, closing, hclosing, hend, htext.symm, rfl, rfl⟩, rfl,
    harenaEnd, hholds⟩

/-- A written grammar is read as the same grammar. -/
theorem Parser.Resumes.exists_wholeGrammar {grammar : Grammar} {parser : Parser}
    (hgrammar : grammar.Writable) (horder : grammar.InOrder)
    (h : parser.Resumes grammar.arena 0 grammar.render.toList) :
    ∃ other after, (wholeGrammar parser).Gives other after ∧ grammar.same other = true ∧
      other.arena.keys = grammar.arena.keys := by
  have hfaces := h.faces
  rw [toList_render] at hfaces
  have hinside (inside : Parser) (hinside : inside.Stands [] ('\n' ::
        ((renderProductions grammar.arena grammar.productions).toList ++ ['\x7d'])))
      (harena : inside.arena = parser.arena) :
      ∃ found atClosing, (productions inside).Gives found atClosing ∧
        (List.Forall₂ SameProduction grammar.productions found ∧
          atClosing.arena.keys = grammar.arena.keys.take grammar.arena.size) ∧
        atClosing.Faces ['\x7d'] := by
    obtain ⟨others, atClosing, hothers, hsame, hatClosing⟩ :=
      (h.onward hinside.faces.newline harena).exists_productions horder.nodup hgrammar.productions
        horder.numbered
    exact ⟨others, atClosing, hothers, ⟨hsame, hatClosing.keys_eq⟩, hatClosing.faces⟩
  obtain ⟨other, after, atClosing, hgives, hname, harena, hsame, hkeys⟩ :=
    hfaces.exists_wholeGrammar hgrammar.name
      (ledBy_productions hgrammar.productions []).newline.readable hinside
  refine ⟨other, after, hgives, same_of_productions hname.symm hsame, ?_⟩
  rw [harena, hkeys, ← Arena.length_keys, List.take_length]

/-- A grammar with a predicate, code, a label, suffixes, a negated group and each kind of terminal:
`a : { p }? x=b? { q } ~( "t" | 5{2,3} )* SET | b ;` -/
def sample (set : RegexSet) : Grammar :=
  let plain (element : Element) (suffixes : List Suffix) : Component :=
    ⟨.point 0, none, none, none, element, suffixes, none⟩
  let group : Element := .group .plain
    [⟨.point 0, [plain (.terminal ⟨1⟩) []]⟩, ⟨.point 0, [plain (.terminal ⟨2⟩) [.range 2 (some 3)]]⟩]
  ⟨.point 0, "G", [⟨.point 0, "a",
    [⟨.point 0, [⟨.point 0, some "x", some ⟨.point 0, " p "⟩, none, .terminal ⟨0⟩, [.optional],
      some ⟨.point 0, " q "⟩⟩, plain (.negation group) [.zeroOrMore], plain (.terminal ⟨3⟩) []]⟩,
      ⟨.point 0, [plain (.terminal ⟨0⟩) []]⟩]⟩],
    ⟨[.ident "b", .string "t", .number 5, .set set]⟩⟩

/-- **Grammars are read back.** A grammar whose parts can be written, and whose arena lists its
terminals in the order of their first occurrence, is what its own notation is parsed to. Nothing is
asked of a grammar without code but that names are names, suffixes the usual ones, and so on. -/
theorem readsBack_of_writable {grammar : Grammar} (hgrammar : grammar.Writable)
    (horder : grammar.InOrder) : grammar.ReadsBack := by
  obtain ⟨table, htable⟩ := Lexicon.exists_table
  -- The text has a first token set, so that a scanner for it can be created.
  have hreadable : Readable grammar.render.toList := by
    rw [toList_render]
    exact (meets_spaced isName_keyword _).readable
  obtain ⟨current, stop, hfirst⟩ := hreadable.first htable 0
  obtain ⟨scanner, hcreate, -⟩ : ∃ scanner,
      (Scanner.initial table (.ofString grammar.render)).advance = .ok () scanner ∧
        scanner.current = current ∧ scanner.spot = stop :=
    Scanner.advance_of_first (Lexicon.anchored_mode htable defaultMode) hfirst
  rw [← Scanner.create_eq] at hcreate
  obtain ⟨hstands, -⟩ := Parser.stands_create .empty htable hcreate
  obtain ⟨other, after, hgives, hsame, hkeys⟩ :=
    Parser.Resumes.exists_wholeGrammar hgrammar horder ⟨hstands.faces, rfl⟩
  exact ⟨other, parse_eq_ok_iff.2 ⟨table, scanner, after, htable, hcreate, hgives⟩, hsame, hkeys⟩

/-- The sample is read back, with a set of texts that is read from another grammar. -/
theorem readsBack_of_writable_sample : ∃ set : RegexSet, (sample set).Writable ∧
    (sample set).InOrder ∧ (sample set).ReadsBack := by
  have hparsed : ((parse (.ofString "grammar S { a : /[a-z]/i ; }")).result.toOption.map
      (·.arena.keys)) = some [.set "[a-z]" "i"] := by
    rw [result_parse_words]
    decide +kernel
  generalize Source.ofString "grammar S { a : /[a-z]/i ; }" = source at hparsed
  obtain ⟨grammar, hsome, hkeys⟩ := Option.map_eq_some_iff.1 hparsed
  have hok : (parse source).result = .ok grammar := Scan.ok_of_toOption hsome
  obtain ⟨terminal, hterminals, hkey⟩ := List.map_eq_singleton_iff.1 hkeys
  obtain ⟨set, rfl⟩ : ∃ set, terminal = .set set := by
    cases terminal with
    | set set => exact ⟨set, rfl⟩
    | _ => simp [Terminal.key] at hkey
  have hset : (Terminal.set set).Writable :=
    ⟨source, grammar, set, hok, hterminals ▸ List.mem_singleton_self _, rfl, rfl⟩
  have hletter (letter : Char) (h : letter ∈ ['G', 'a', 'b', 'x']) :
      IsName (String.singleton letter).toList := by
    have hall : ∀ letter ∈ ['G', 'a', 'b', 'x'], isNameStart letter = true :=
      List.all_eq_true.1 (by decide)
    exact ⟨letter, [], String.toList_singleton letter, hall letter h, by simp⟩
  have hb : IsName "b".toList := hletter 'b' (by decide)
  have hx : IsName "x".toList := hletter 'x' (by decide)
  have hp : CodeSegment.Closed ⟨.point 0, " p "⟩ :=
    CodeSegment.closed_of_codeChars (List.all_eq_true.1 (by decide))
  have hq : CodeSegment.Closed ⟨.point 0, " q "⟩ :=
    CodeSegment.closed_of_codeChars (List.all_eq_true.1 (by decide))
  have hunnumbered : CodeSegment.Unnumbered ⟨.point 0, " q "⟩ := by
    intro behind
    have hmeets : Meets (" q ".toList ++ '\x7d' :: behind) (namesOfName ['q']) ['q']
        (' ' :: '\x7d' :: behind) :=
      (meets_spaced ⟨'q', [], rfl, by decide, by simp⟩ ('\x7d' :: behind)).space
    rw [hmeets.lead_eq]
    decide
  have hoptional : Suffix.optional.Canonical := ⟨by decide, fun _ h => by cases h; decide⟩
  have hrange : (Suffix.range 2 (some 3)).Canonical :=
    ⟨by decide, fun _ h => by cases h; decide⟩
  have hstar : Suffix.zeroOrMore.Canonical := ⟨by decide, fun _ h => by cases h⟩
  have hproduction : ∀ production ∈ (sample set).productions,
      production.Writable (sample set).arena := by
    intro production hmem
    obtain rfl := List.mem_singleton.1 hmem
    refine ⟨hletter 'a' (by decide), List.cons_ne_nil _ _, ?_⟩
    simp [sample, WritableBranches, Branch.Writable, WritableComponents, Component.Writable,
      Component.Bare, Element.Writable, Arena.get?, hoptional, hrange, hstar]
    exact ⟨⟨⟨⟨hp, hq, hunnumbered⟩, hx, hb⟩, ⟨trivial, trivial⟩, hset⟩, hb⟩
  have hwritable : (sample set).Writable := ⟨hletter 'G' (by decide), hproduction⟩
  have hleaves : leavesOfProductions (sample set).productions = [⟨0⟩, ⟨1⟩, ⟨2⟩, ⟨3⟩, ⟨0⟩] := rfl
  have horder : (sample set).InOrder :=
    ⟨by rw [hleaves]; rfl, by simp [sample, Arena.keys, Terminal.key]⟩
  exact ⟨set, hwritable, horder, readsBack_of_writable hwritable horder⟩

end GrammarLang.Grammar
