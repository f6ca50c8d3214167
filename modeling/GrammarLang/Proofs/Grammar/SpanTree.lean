import GrammarLang.Proofs.Grammar.Nodes
import GrammarLang.Proofs.Grammar.Spending

/-! # The tree of places

The places of the nodes of a grammar form a tree like the nodes themselves: what stands right inside a
node stands in a **`Row`** from the start of the node to its end. Each place is made of where the
parser stood at first and where the last token ended, so the order of places is the order of states:
on the way from one state to another the parser **`Moves`** on, and a function that consumes anything
ends behind the start of the token that it found.

What is in the text at the place of a node is read off the text that the parser stands at. A branch
without components has no text; it stands in front of the token that ends it. All of this is one
theorem, **`spanTree_of_parse`**. -/

namespace GrammarLang.Text

/-- From one offset to another stand some spans in a row: none of them is inverted, and none starts
before the one in front of it has stopped. -/
def Row : Nat → List Span → Nat → Prop
  | low, [], high => low ≤ high
  | low, first :: others, high =>
    low ≤ first.start ∧ first.start ≤ first.stop ∧ Row first.stop others high

namespace Row

variable {low middle high : Nat} {spans others : List Span}

theorem le (h : Row low spans high) : low ≤ high := by
  induction spans generalizing low with
  | nil => exact h
  | cons first others ih =>
    obtain ⟨hstart, hspan, hothers⟩ := h
    have hle := ih hothers
    omega

theorem single {span : Span} (hstart : low ≤ span.start) (hspan : span.start ≤ span.stop)
    (hstop : span.stop ≤ high) : Row low [span] high :=
  ⟨hstart, hspan, hstop⟩

/-- A row may start earlier. -/
theorem ofLe (hle : low ≤ middle) (h : Row middle spans high) : Row low spans high := by
  cases spans with
  | nil => exact Nat.le_trans hle h
  | cons first others => exact ⟨Nat.le_trans hle h.1, h.2⟩

/-- Two rows make one. -/
theorem append (h : Row low spans middle) (h' : Row middle others high) :
    Row low (spans ++ others) high := by
  induction spans generalizing low with
  | nil => exact h'.ofLe h
  | cons first others ih => exact ⟨h.1, h.2.1, ih h.2.2⟩

/-- A row of two parts is made of two rows. -/
theorem exists_of_append (h : Row low (spans ++ others) high) :
    ∃ middle, Row low spans middle ∧ Row middle others high := by
  induction spans generalizing low with
  | nil => exact ⟨low, Nat.le_refl _, h⟩
  | cons first spans ih =>
    obtain ⟨hstart, hspan, hrest⟩ := h
    obtain ⟨middle, hspans, hothers⟩ := ih hrest
    exact ⟨middle, ⟨hstart, hspan, hspans⟩, hothers⟩

/-- A row may stop later. -/
theorem toLe (h : Row low spans middle) (hle : middle ≤ high) : Row low spans high := by
  have happend : Row low (spans ++ []) high := h.append hle
  rwa [List.append_nil] at happend

/-- Some spans of a row are a row. -/
theorem sublist (h : Row low spans high) (hsublist : others.Sublist spans) : Row low others high := by
  induction hsublist generalizing low with
  | slnil => exact h
  | cons first _ ih =>
    obtain ⟨hstart, hspan, hrest⟩ := h
    exact (ih hrest).ofLe (Nat.le_trans hstart hspan)
  | cons_cons first _ ih =>
    obtain ⟨hstart, hspan, hrest⟩ := h
    exact ⟨hstart, hspan, ih hrest⟩

/-- All spans of a row stand between its ends. -/
theorem inside (h : Row low spans high) :
    ∀ span ∈ spans, low ≤ span.start ∧ span.stop ≤ high := by
  induction spans generalizing low with
  | nil => simp
  | cons first others ih =>
    obtain ⟨hstart, hspan, hothers⟩ := h
    have hle := hothers.le
    rw [List.forall_mem_cons]
    refine ⟨⟨hstart, hle⟩, fun span hmem => ?_⟩
    obtain ⟨hlow, hhigh⟩ := ih hothers span hmem
    exact ⟨by omega, hhigh⟩

/-- The spans of a row are disjoint and in order. -/
theorem pairwise (h : Row low spans high) :
    spans.Pairwise fun left right => left.stop ≤ right.start := by
  induction spans generalizing low with
  | nil => exact .nil
  | cons first others ih =>
    obtain ⟨-, -, hothers⟩ := h
    exact List.pairwise_cons.2 ⟨fun span hmem => (hothers.inside span hmem).1, ih hothers⟩

end Row

end GrammarLang.Text

namespace GrammarLang.Grammar

open GrammarLang.Scan GrammarLang.Text

open Lexicon (ident)

namespace Parser

variable {parser middle after : Parser} {source : Source} {count : Nat}

/-! ## The order of states -/

/-- The parser goes from one state to another, further on in its text or in the same place. -/
structure Moves (source : Source) (parser after : Parser) : Prop where
  /-- It stands in the text. -/
  stands : after.StandsIn source
  /-- The current token does not start earlier. -/
  start_le : parser.start ≤ after.start
  /-- The last token did not end earlier. -/
  previousEnd_le : parser.scanner.previousEnd ≤ after.scanner.previousEnd

theorem Moves.trans (h : Moves source parser middle) (h' : Moves source middle after) :
    Moves source parser after :=
  ⟨h'.stands, Nat.le_trans h.start_le h'.start_le, Nat.le_trans h.previousEnd_le h'.previousEnd_le⟩

/-- What was consumed last ends behind the start of the first token that was consumed. -/
theorem Spends.moves (h : parser.Spends count after) (hstands : parser.StandsIn source) :
    Moves source parser after ∧ (0 < count → parser.start < after.scanner.previousEnd) := by
  induction h with
  | refl => exact ⟨⟨hstands, Nat.le_refl _, Nat.le_refl _⟩, nofun⟩
  | @skip count set middle after earlier last ih =>
    obtain ⟨⟨hmiddle, hstart, hprevious⟩, -⟩ := ih
    have hset : set.first.span.start < set.first.span.stop := by
      obtain ⟨-, -, mode, text, hat⟩ := hmiddle
      have hfirst := hat.first
      rw [last.1] at hfirst
      obtain ⟨gap, front, -, -, hlexeme, hstop, hspan, -⟩ := hfirst.cut
      have hfront := byteSize_pos hlexeme.front_ne_nil
      rw [hspan]
      simp only at hstop ⊢
      omega
    have hbehind := hmiddle.previousEnd_le_start
    have hlt := hmiddle.start_lt last
    rw [start_eq last.1] at hstart hbehind hlt
    rw [← last.previousEnd_eq hmiddle.table] at hset
    exact ⟨⟨hmiddle.skip last, by omega, by omega⟩, fun _ => by omega⟩
  | idle earlier entered told arena ih =>
    obtain ⟨⟨hmiddle, hstart, hprevious⟩, hless⟩ := ih
    obtain ⟨hsource, htable, hat⟩ := hmiddle.switched entered told
    exact ⟨⟨⟨hsource, htable, hat⟩, hstart, hprevious⟩, hless⟩

theorem Takes.moves {rules : List String} {token : Token} (h : parser.Takes rules token after)
    (hstands : parser.StandsIn source) :
    Moves source parser after ∧ parser.start < after.scanner.previousEnd := by
  obtain ⟨hmoves, hless⟩ := h.spends.moves hstands
  exact ⟨hmoves, hless Nat.one_pos⟩

/-- A function of the parser that succeeds moves on, and if it consumes anything then it ends behind
the start of the first token. -/
theorem moves_of_gives {α : Type} {least : Nat}
    {reply : Reply α least parser} {value : α} (h : reply.Costs) (hgives : reply.Gives value after)
    (hstands : parser.StandsIn source) :
    Moves source parser after ∧ (0 < least → parser.start < after.scanner.previousEnd) := by
  obtain ⟨count, hspends, hcount⟩ := h.of_gives hgives
  obtain ⟨hmoves, hless⟩ := hspends.moves hstands
  exact ⟨hmoves, fun hleast => hless (hcount hleast)⟩

/-- Something was read from the start of the current token to the end of the last one, and that is its
place. -/
structure Covers (source : Source) (parser : Parser) (span : Span) (after : Parser) : Prop
    extends Moves source parser after where
  /-- It is the place. -/
  span_eq : span = ⟨parser.start, after.scanner.previousEnd⟩
  /-- It is not empty. -/
  nonempty : parser.start < after.scanner.previousEnd

theorem covers_of_gives {α : Type} {reply : Reply α 1 parser} {value : α} {span : Span}
    (hcosts : reply.Costs) (hgives : reply.Gives value after) (h : parser.StandsIn source)
    (hspan : span = after.spanFrom parser.start) : Covers source parser span after := by
  obtain ⟨hmoves, hless⟩ := moves_of_gives hcosts hgives h
  have hnonempty := hless Nat.one_pos
  refine ⟨hmoves, ?_, hnonempty⟩
  rw [hspan, spanFrom, Nat.max_eq_left (Nat.le_of_lt hnonempty)]

theorem Covers.row {span : Span} (h : Covers source parser span after) :
    Row parser.start [span] after.scanner.previousEnd := by
  rw [h.span_eq]
  exact .single (Nat.le_refl _) (Nat.le_of_lt h.nonempty) (Nat.le_refl _)

/-! ## Rows of places -/

theorem codeSegment_covers {code : CodeSegment} (h : parser.StandsIn source)
    (hgives : (codeSegment parser).Gives code after) : Covers source parser code.span after := by
  obtain ⟨_, _, _, _, _, _, _, _, hspan⟩ := codeSegment_gives.1 hgives
  exact covers_of_gives codeSegment_costs hgives h hspan

theorem component_covers {component : Component} (h : parser.StandsIn source)
    (hgives : (parser.component).Gives component after) :
    Covers source parser component.span after := by
  obtain ⟨_, _, _, _, _, _, _, _, _, hspan⟩ := component_gives.1 hgives
  exact covers_of_gives (component_costs parser) hgives h hspan

theorem production_covers {production : Production} (h : parser.StandsIn source)
    (hgives : (parser.production).Gives production after) :
    Covers source parser production.span after := by
  obtain ⟨_, _, _, _, _, _, _, _, _, _, _, _, _, hspan⟩ := production_gives.1 hgives
  exact covers_of_gives production_costs hgives h hspan

/-- Predicate and code in front of an element stand in a row. -/
theorem codeInFront_row {predicate codeBefore : Option CodeSegment} (h : parser.StandsIn source)
    (hgives : (parser.codeInFront).Gives (predicate, codeBefore) after) :
    Row parser.start ((predicate.toList ++ codeBefore.toList).map CodeSegment.span) after.start := by
  obtain ⟨-, first, middle, hfirst, ⟨mark, behind, hmark, rfl, hsecond⟩ | ⟨-, rfl, rfl, rfl⟩⟩ |
    ⟨-, rfl, rfl, rfl⟩ := codeInFront_gives.1 hgives
  · have hmiddle := codeSegment_covers h hfirst
    obtain ⟨hbehind, -⟩ := hmark.moves hmiddle.stands
    have hgap := hmiddle.stands.previousEnd_le_start
    have hrow : Row parser.start [first.span] behind.start :=
      hmiddle.row.toLe (Nat.le_trans hgap hbehind.start_le)
    obtain ⟨-, second, hsecond, rfl⟩ | ⟨-, rfl, rfl⟩ := hsecond
    · have hafter := codeSegment_covers hbehind.stands hsecond
      exact hrow.append (hafter.row.toLe hafter.stands.previousEnd_le_start)
    · exact hrow
  · have hafter := codeSegment_covers h hfirst
    exact hafter.row.toLe hafter.stands.previousEnd_le_start
  · exact Nat.le_refl _

/-- Code behind an element stands behind what was consumed before. -/
theorem codeBehind_row {codeAfter : Option CodeSegment} (h : parser.StandsIn source)
    (hgives : (parser.codeBehind).Gives codeAfter after) :
    Row parser.scanner.previousEnd (codeAfter.toList.map CodeSegment.span)
      after.scanner.previousEnd := by
  obtain ⟨-, segment, hsegment, rfl⟩ | ⟨-, rfl, rfl⟩ := codeBehind_gives.1 hgives
  · exact (codeSegment_covers h hsegment).row.ofLe h.previousEnd_le_start
  · exact Nat.le_refl _

/-- Components stand in a row, the first of them where the parser starts and the last of them where it
ends. -/
theorem components_row {found : List Component} (h : parser.StandsIn source)
    (hgives : (parser.components).Gives found after) (hfound : found ≠ []) :
    Row parser.start (found.map Component.span) after.scanner.previousEnd ∧
      (∀ first ∈ found.head?, first.span.start = parser.start) ∧
      ∀ last ∈ found.getLast?, last.span.stop = after.scanner.previousEnd := by
  induction found generalizing parser with
  | nil => contradiction
  | cons first others ih =>
    obtain ⟨-, heq, -⟩ | ⟨-, _, middle, hfirst, _, hmore, heq⟩ := components_gives.1 hgives
    · contradiction
    cases heq
    have hmiddle := component_covers h hfirst
    have hstart : first.span.start = parser.start := by rw [hmiddle.span_eq]
    cases others with
    | nil =>
      obtain ⟨-, -, rfl⟩ | ⟨-, _, _, _, _, _, heq⟩ := components_gives.1 hmore
      · refine ⟨hmiddle.row, by simpa using hstart, ?_⟩
        simp [hmiddle.span_eq]
      · contradiction
    | cons second others =>
      obtain ⟨hrow, -, hlast⟩ := ih hmiddle.stands hmore (List.cons_ne_nil _ _)
      refine ⟨hmiddle.row.append (hrow.ofLe hmiddle.stands.previousEnd_le_start),
        by simpa using hstart, ?_⟩
      rwa [List.getLast?_cons_cons]

/-- An empty branch stands in front of the current token; any other one from its first component to its
last one. -/
theorem branch_place {branch : Branch} (h : parser.StandsIn source)
    (hgives : (parser.branch).Gives branch after) :
    (branch.components = [] ∧ after = parser ∧ branch.span = .point parser.start) ∨
      (branch.components ≠ [] ∧ branch.span = ⟨parser.start, after.scanner.previousEnd⟩ ∧
        parser.start ≤ after.scanner.previousEnd) := by
  obtain ⟨hcomponents, hspan⟩ := branch_gives.1 hgives
  rw [spanFrom] at hspan
  by_cases hempty : branch.components = []
  · rw [hempty] at hcomponents
    obtain ⟨-, -, rfl⟩ | ⟨-, _, _, _, _, _, heq⟩ := components_gives.1 hcomponents
    · rw [Nat.max_eq_right h.previousEnd_le_start] at hspan
      exact .inl ⟨hempty, rfl, hspan⟩
    · contradiction
  · have hle := (components_row h hcomponents hempty).1.le
    rw [Nat.max_eq_left hle] at hspan
    exact .inr ⟨hempty, hspan, hle⟩

theorem branch_moves {branch : Branch} (h : parser.StandsIn source)
    (hgives : (parser.branch).Gives branch after) : Moves source parser after :=
  (moves_of_gives (branch_costs parser) hgives h).1

theorem branch_row {branch : Branch} (h : parser.StandsIn source)
    (hgives : (parser.branch).Gives branch after) : Row parser.start [branch.span] after.start := by
  have hafter := (branch_moves h hgives).stands.previousEnd_le_start
  obtain ⟨-, rfl, hspan⟩ | ⟨-, hspan, hle⟩ := branch_place h hgives
  · rw [hspan]
    exact .single (Nat.le_refl _) (Nat.le_refl _) (Nat.le_refl _)
  · rw [hspan]
    exact .single (Nat.le_refl _) hle hafter

/-- The branches of a choice stand in a row. -/
theorem branches_row {found : List Branch} (h : parser.StandsIn source)
    (hgives : (parser.branches).Gives found after) :
    Row parser.start (found.map Branch.span) after.start := by
  induction found generalizing parser with
  | nil =>
    obtain ⟨_, _, -, ⟨_, _, -, _, -, heq⟩ | ⟨-, heq, -⟩⟩ := branches_gives.1 hgives
    · contradiction
    · contradiction
  | cons first others ih =>
    obtain ⟨_, middle, hfirst, hrest⟩ := branches_gives.1 hgives
    obtain ⟨bar, behind, hbar, _, hmore, heq⟩ | ⟨-, heq, rfl⟩ := hrest
    · cases heq
      obtain ⟨hbehind, -⟩ := hbar.moves (branch_moves h hfirst).stands
      exact (branch_row h hfirst).append ((ih hbehind.stands hmore).ofLe hbehind.start_le)
    · cases heq
      exact branch_row h hfirst

/-- The branches of a group stand in a row, in front of the end of the last token of the group. -/
theorem element_row {parser : Parser} {found : Element} (h : parser.StandsIn source)
    (hgives : (parser.element).Gives found after) :
    Row parser.start (found.branches.map Branch.span) after.scanner.previousEnd := by
  obtain ⟨sign, middle, hsign, inner, hinner, rfl⟩ | ⟨-, ⟨opening, inside, hopening, inner, behind,
    hinner, closing, hclosing, rfl⟩ | ⟨-, id, -, rfl⟩⟩ := element_gives.1 hgives
  · obtain ⟨hmiddle, -⟩ := hsign.moves h
    exact (element_row hmiddle.stands hinner).ofLe hmiddle.start_le
  · obtain ⟨hinside, -⟩ := hopening.moves h
    obtain ⟨hbehind, -⟩ := moves_of_gives (branches_costs inside) hinner hinside.stands
    obtain ⟨-, hless⟩ := hclosing.moves hbehind.stands
    have hrow := (branches_row hinside.stands hinner).ofLe hinside.start_le
    exact hrow.toLe (Nat.le_of_lt hless)
  · exact Nat.le_of_lt ((moves_of_gives (element_costs parser) hgives h).2 Nat.one_pos)
termination_by parser.remaining
decreasing_by
  have hless := hsign.remaining_le
  omega

/-- What stands right inside a component stands in a row: predicate, code in front, the branches of a
group, code behind. -/
theorem component_row {component : Component} (h : parser.StandsIn source)
    (hgives : (parser.component).Gives component after) :
    Row parser.start ((Node.component component).children.map Node.span)
      after.scanner.previousEnd := by
  obtain ⟨atLabel, hinFront, atElement, hlabel, atSuffixes, helement, atCode, hsuffixes, hbehind,
    -⟩ := component_gives.1 hgives
  obtain ⟨hatLabel, -⟩ := moves_of_gives codeInFront_costs hinFront h
  obtain ⟨hatElement, -⟩ := moves_of_gives labelName_costs hlabel hatLabel.stands
  obtain ⟨hatSuffixes, -⟩ := moves_of_gives (element_costs _) helement hatElement.stands
  obtain ⟨hatCode, -⟩ := moves_of_gives (suffixes_costs _) hsuffixes hatSuffixes.stands
  have hfront := (codeInFront_row h hinFront).toLe hatElement.start_le
  have hinside := (element_row hatElement.stands helement).toLe hatCode.previousEnd_le
  have hall := (hfront.append hinside).append (codeBehind_row hatCode.stands hbehind)
  simpa [Node.children, Node.codeInFront, Node.span, Function.comp_def] using hall

/-- Productions stand in a row. -/
theorem productions_row {found : List Production} (h : parser.StandsIn source)
    (hgives : (parser.productions).Gives found after) :
    Row parser.start (found.map Production.span) after.start := by
  induction found generalizing parser with
  | nil =>
    obtain ⟨-, _, _, -, _, -, heq⟩ | ⟨-, -, rfl⟩ := productions_gives.1 hgives
    · contradiction
    · exact Nat.le_refl _
  | cons first others ih =>
    obtain ⟨-, _, middle, hfirst, _, hmore, heq⟩ | ⟨-, heq, -⟩ := productions_gives.1 hgives
    · cases heq
      have hmiddle := production_covers h hfirst
      exact hmiddle.row.append ((ih hmiddle.stands hmore).ofLe hmiddle.stands.previousEnd_le_start)
    · contradiction

end Parser

/-- **What stands right inside a node stands in a row, from the start of the node to its end.** -/
theorem Node.IsRead.row {node : Node} {parser after : Parser} {source : Source}
    (hread : node.IsRead parser after) (h : parser.StandsIn source) :
    Row node.span.start (node.children.map Node.span) node.span.stop := by
  cases node with
  | grammar whole =>
    obtain ⟨keyword, atName, hkeyword, name, atOpening, hname, opening, inside, hopening, atClosing,
      hproductions, -, closing, hclosing, -, -, -, hspan⟩ := Parser.wholeGrammar_gives.1 hread
    obtain ⟨hatName, -⟩ := hkeyword.moves h
    obtain ⟨hatOpening, -⟩ := hname.moves hatName.stands
    obtain ⟨hinside, -⟩ := hopening.moves hatOpening.stands
    obtain ⟨hatClosing, -⟩ :=
      Parser.moves_of_gives (Parser.productions_costs inside) hproductions hinside.stands
    obtain ⟨-, hless⟩ := hclosing.moves hatClosing.stands
    have hfront := ((hatName.trans hatOpening).trans hinside).start_le
    have hrow := (Parser.productions_row hinside.stands hproductions).ofLe hfront
    have hwhole := hrow.toLe (Nat.le_of_lt hless)
    have hle := hwhole.le
    rw [Parser.spanFrom, Nat.max_eq_left hle] at hspan
    simpa [Node.children, Node.span, hspan, Function.comp_def] using hwhole
  | production named =>
    have hcovers := Parser.production_covers h hread
    obtain ⟨name, atColon, hname, colon, inside, hcolon, atEnd, hbranches, semicolon, last,
      hsemicolon, -, hafter, -⟩ := Parser.production_gives.1 hread
    have hstop : last.scanner.previousEnd = after.scanner.previousEnd := by
      rw [hafter]
      rfl
    obtain ⟨hatColon, -⟩ := hname.moves h
    obtain ⟨hinside, -⟩ := hcolon.moves hatColon.stands
    obtain ⟨hatEnd, -⟩ :=
      Parser.moves_of_gives (Parser.branches_costs inside) hbranches hinside.stands
    obtain ⟨-, hless⟩ := hsemicolon.moves hatEnd.stands
    have hrow := (Parser.branches_row hinside.stands hbranches).ofLe (hatColon.trans hinside).start_le
    have hwhole := hrow.toLe (Nat.le_of_lt hless)
    rw [hstop] at hwhole
    simpa [Node.children, Node.span, hcovers.span_eq, Function.comp_def] using hwhole
  | branch choice =>
    obtain ⟨inside, hfront, hgives⟩ := hread
    obtain ⟨rules, token, -, htakes⟩ := hfront
    obtain ⟨hinside, -⟩ := htakes.moves h
    obtain ⟨hempty, -, hspan⟩ | ⟨hsome, hspan, -⟩ := Parser.branch_place hinside.stands hgives
    · simp [Node.children, Node.span, hempty, hspan, Row, Span.point]
    · have hcomponents := (Parser.branch_gives.1 hgives).1
      obtain ⟨hrow, -⟩ := Parser.components_row hinside.stands hcomponents hsome
      simpa [Node.children, Node.span, hspan, Function.comp_def] using hrow
  | component part =>
    have hcovers := Parser.component_covers h hread
    have hrow := Parser.component_row h hread
    simpa [Node.span, hcovers.span_eq] using hrow
  | code segment =>
    have hcovers := Parser.codeSegment_covers h hread
    simpa [Node.children, Node.span, hcovers.span_eq, Row] using Nat.le_of_lt hcovers.nonempty

/-! ## Texts -/

namespace Parser

variable {parser after : Parser} {source : Source} {text middle rest : List Char}

/-- The text from the first token to where the parser has come. -/
theorem Stands.slice_from_start {set : TokenSet} (h : parser.Stands [] text)
    (hcurrent : parser.scanner.current = some set) (hgap : behindGap text = middle ++ rest)
    (hafter : after.Stands [] rest) (hsource : parser.scanner.source = source)
    (hsource' : after.scanner.source = source) :
    source.slice? ⟨parser.start, after.scanner.previousEnd⟩ = some (String.ofList middle) := by
  have hstart := h.start_add_size hcurrent
  have hstop := hafter.at_text.offset_eq
  have hsuffix := (behindGap_suffix text).trans h.at_text.suffix
  rw [hsource] at hstart hsuffix
  rw [hsource'] at hstop
  exact slice_between hsuffix hgap hstart hstop

/-- The text of a piece of code is what stands between its braces. -/
theorem codeSegment_slice {code : CodeSegment} (h : parser.Stands [] text)
    (hin : parser.StandsIn source) (hgives : (codeSegment parser).Gives code after) :
    source.slice? code.span = some code.render := by
  obtain ⟨opening, inside, hopening, -⟩ := codeSegment_gives.1 hgives
  obtain ⟨set, hskips, hoffers⟩ := hopening.offers
  have hcurrent : parser.scanner.current = some set := (current_enter ..).symm.trans hskips.1
  have hsees : parser.sees (String.singleton '\x7b') = true := (sees_iff hcurrent).2 ⟨opening, hoffers⟩
  obtain ⟨cs, hgap⟩ := h.behindGap_of_sign (by decide) hsees
  obtain ⟨rest, hcs, -, hafter, -⟩ := h.of_codeSegment hgap hgives
  have hcovers := codeSegment_covers hin hgives
  rw [hcs, show '\x7b' :: (code.text.toList ++ '\x7d' :: rest) =
    code.render.toList ++ rest by simp [CodeSegment.render]] at hgap
  rw [hcovers.span_eq, h.slice_from_start hcurrent hgap hafter hin.source_eq
    hcovers.stands.source_eq, String.ofList_toList]

/-- The text of a production starts with its name and ends with a semicolon. -/
theorem production_slice {production : Production} (h : parser.Stands [] text)
    (hin : parser.StandsIn source) (hgives : (parser.production).Gives production after) :
    ∃ inner, source.slice? production.span = some (production.name ++ inner ++ ";") := by
  have hcovers := production_covers hin hgives
  obtain ⟨name, atColon, hname, colon, inside, hcolon, atEnd, hbranches, semicolon, last,
    hsemicolon, hnamed, hlast, -⟩ := production_gives.1 hgives
  -- The name stands in front.
  obtain ⟨set, hskips, hoffers⟩ := hname.offers
  have hsees : parser.sees ident = true := (sees_iff hskips.1).2 ⟨name, hoffers⟩
  obtain ⟨front, rest, -, -, hmeets⟩ := h.meets_name hsees
  obtain ⟨hatColon, -, htext, -⟩ := h.of_takes hmeets hname
  -- The semicolon stands somewhere behind it.
  have hstep := stepwise_collects
  have hcollects := hstep.trans hcolon.collects (hstep.branches hbranches)
  obtain ⟨text', hatEnd, hsuffix, -⟩ := hcollects rest hatColon
  have hends : atEnd.sees (String.singleton ';') = true := by
    obtain ⟨rule, hrule, hseen⟩ := hsemicolon.exists_sees
    rwa [List.mem_singleton.1 hrule] at hseen
  obtain ⟨behind, hgap⟩ := hatEnd.behindGap_of_sign (by decide) hends
  have hmeets' : Meets text' [String.singleton ';'] [';'] behind :=
    ⟨hgap, fun _ h => word_sign h (by decide) behind⟩
  obtain ⟨hstands, -⟩ := hatEnd.of_takes hmeets' hsemicolon
  obtain ⟨inner, hinner⟩ := (hgap ▸ behindGap_suffix text').trans hsuffix
  have hwhole : behindGap text =
      (production.name ++ String.ofList inner ++ ";").toList ++ behind := by
    rw [hmeets.gap_eq, ← hinner, hnamed, htext]
    simp
  have hafter : after.Stands [] behind := by
    rw [hlast]
    exact (hstands.tell ..).stands
  refine ⟨String.ofList inner, ?_⟩
  rw [hcovers.span_eq, h.slice_from_start hskips.1 hwhole hafter hin.source_eq
    hcovers.stands.source_eq, String.ofList_toList]

/-! ## The course of a node -/

/-- Between two states the parser passes token sets of its text, and spends what it passes. -/
def Proceeds (parser after : Parser) : Prop :=
  parser.Follows after ∧ ∃ count, parser.Spends count after

theorem stepwise_proceeds : Stepwise Proceeds where
  refl parser := ⟨stepwise_follows.refl parser, 0, .refl⟩
  trans hfirst hsecond := by
    obtain ⟨hfollows, count, hspends⟩ := hfirst
    obtain ⟨hfollows', more, hspends'⟩ := hsecond
    exact ⟨hfollows.trans hfollows', count + more, hspends.trans hspends'⟩
  takes htakes := ⟨htakes.follows, 1, htakes.spends⟩
  code hgives := by
    obtain ⟨count, hspends, -⟩ := codeSegment_costs.of_gives hgives
    exact ⟨stepwise_follows.code hgives, count, hspends⟩
  terminal hgives := by
    obtain ⟨count, hspends, -⟩ := terminal_costs.of_gives hgives
    exact ⟨stepwise_follows.terminal hgives, count, hspends⟩
  tell parser detail message :=
    ⟨stepwise_follows.tell parser detail message, 0, .idle .refl _ _ _⟩

/-- A parser that stands at the start of a text, with nothing in front, stands in that text. -/
theorem Stands.standsIn_of_start (h : parser.Stands [] source.chars)
    (hstart : parser.scanner.previousEnd = 0) : parser.StandsIn source := by
  refine h.standsIn ?_
  obtain ⟨before, hbefore⟩ := h.at_text.suffix
  have hoffset := h.at_text.offset_eq
  rw [hstart, parser.scanner.source.size_eq, ← hbefore, byteSize_append] at hoffset
  have hnil : before = [] := by
    by_contra hne
    have hpos := byteSize_pos hne
    omega
  rw [hnil, List.nil_append] at hbefore
  generalize parser.scanner.source = other at hbefore
  obtain ⟨chars, size, hsize⟩ := source
  obtain ⟨chars', size', hsize'⟩ := other
  simp only at hbefore
  subst hbefore hsize hsize'
  rfl

/-- An empty branch stands in front of the token that ends it, behind the one in front of it. -/
theorem OnCourse.empty_branch {sets : List TokenSet} {branch : Branch} {inside : Parser}
    (h : parser.OnCourse sets) (hin : parser.StandsIn source) (hfront : parser.TakesFront inside)
    (hgives : (inside.branch).Gives branch after) (hafter : after.OnCourse sets)
    (hempty : branch.components = []) :
    ∃ before left next behind, sets = before ++ left :: next :: behind ∧ IsOneOf left branchFronts ∧
      IsOneOf next branchEnds ∧ left.first.span.stop ≤ branch.span.start ∧
      branch.span = .point next.first.span.start := by
  obtain ⟨left, hskips, hleft⟩ := hfront.exists_skips
  obtain ⟨hcomponents, -⟩ := branch_gives.1 hgives
  rw [hempty] at hcomponents
  -- Nothing is consumed, as the parser sees the end of the branch.
  obtain ⟨hends, -, rfl⟩ | ⟨-, _, _, _, _, _, heq⟩ := components_gives.1 hcomponents
  swap
  · contradiction
  obtain ⟨next, hcurrent, hnext⟩ : ∃ next, inside.scanner.current = some next ∧
      IsOneOf next branchEnds := by
    cases hcurrent : inside.scanner.current with
    | none => simp [seesAny, Scanner.matchesAny, Scanner.matchesRule, Scanner.matching?, hcurrent]
        at hends
    | some next => exact ⟨next, rfl, (seesAny_iff hcurrent).1 hends⟩
  obtain ⟨⟨text, hstands⟩, rest, hawaits⟩ := h
  obtain ⟨-, rest', hawaits'⟩ := hafter
  have hrest := hawaits.eq_append (hstands.passes_skip hskips) hawaits'
  obtain ⟨before, hall, -⟩ := hawaits.recorded
  obtain ⟨behind, hbehind⟩ : ∃ behind, rest' = next :: behind := by
    rw [← List.head?_eq_some_iff, ← hawaits'.current, hcurrent]
  have hinside := hin.skip hskips
  have hspan : branch.span = .point inside.start := by
    obtain ⟨-, -, hspan⟩ | ⟨hsome, -⟩ := branch_place hinside hgives
    · exact hspan
    · contradiction
  refine ⟨before, left, next, behind, ?_, hleft, hnext, ?_, ?_⟩
  · rw [hall, hrest, hbehind]
    rfl
  · rw [hspan, ← hskips.previousEnd_eq hin.table]
    exact hinside.previousEnd_le_start
  · rw [hspan, start_eq hcurrent]

end Parser

/-- Every node of a grammar is read in its text, on the course through the token sets of the text. -/
theorem Has.readOnCourse {source : Source} {grammar : Grammar} {sets : List TokenSet}
    (h : (parseWithTokens source).result = .ok (grammar, sets)) {node : Node}
    (hnode : grammar.Has node) :
    ∃ start stop, start.StandsIn source ∧ start.OnCourse sets ∧ node.IsRead start stop ∧
      stop.OnCourse sets := by
  obtain ⟨parser, after, hstands, hoffset, -, hrecorded, hgives, rfl⟩ := run_of_parseWithTokens h
  obtain ⟨hawaits, hafter⟩ := hstands.course hrecorded hgives
  obtain ⟨start, stop, hstart, hread, hstop⟩ := hnode.isRead Parser.stepwise_proceeds hgives
  have hmiddle := hread.holds Parser.stepwise_proceeds
  have hparser : parser.OnCourse _ := ⟨⟨_, hstands⟩, _, hawaits⟩
  have hcourse := hparser.between hstart.1 (hmiddle.1.trans hstop.1) hafter
  obtain ⟨count, hspends⟩ := hstart.2
  obtain ⟨hmoves, -⟩ := hspends.moves (hstands.standsIn_of_start hoffset)
  exact ⟨start, stop, hmoves.stands, hcourse, hread, hcourse.between hmiddle.1 hstop.1 hafter⟩

/-! ## Parsed grammars -/

/-- How the nodes of a grammar stand in a text that is cut into token sets. -/
structure SpanTree (grammar : Grammar) (source : Source) (sets : List TokenSet) : Prop where
  /-- No node is inverted, and what is right inside it stands between its ends. -/
  inside : ∀ node, grammar.Has node → node.span.start ≤ node.span.stop ∧
    ∀ child ∈ node.children, node.span.start ≤ child.span.start ∧ child.span.stop ≤ node.span.stop
  /-- The nodes right inside a node are disjoint and in order: productions, branches, components, and
  in a component the predicate, the code in front, the branches of the group and the code behind. -/
  ordered : ∀ node, grammar.Has node →
    node.children.Pairwise fun left right => left.span.stop ≤ right.span.start
  /-- Code stands between braces. -/
  code : ∀ code, grammar.Has (.code code) →
    source.slice? code.span = some ("\x7b" ++ code.text ++ "\x7d")
  /-- A production stands from its name through its semicolon. -/
  production : ∀ production, grammar.Has (.production production) →
    ∃ inner, source.slice? production.span = some (production.name ++ inner ++ ";")
  /-- A branch with components stands from the first one to the last one. -/
  branch : ∀ branch, grammar.Has (.branch branch) → ∀ first ∈ branch.components.head?,
    ∀ last ∈ branch.components.getLast?, branch.span = ⟨first.span.start, last.span.stop⟩
  /-- A branch without components stands, empty, in front of the token that follows it. -/
  empty : ∀ branch, grammar.Has (.branch branch) → branch.components = [] →
    ∃ before left next behind, sets = before ++ left :: next :: behind ∧ IsOneOf left branchFronts ∧
      IsOneOf next Parser.branchEnds ∧ left.first.span.stop ≤ branch.span.start ∧
      branch.span = .point next.first.span.start

/-- A text that is parsed is parsed with its token sets as well. -/
theorem exists_tokens_of_parse {source : Source} {grammar : Grammar}
    (h : (parse source).result = .ok grammar) :
    ∃ sets, (parseWithTokens source).result = .ok (grammar, sets) := by
  rw [result_parse_eq] at h
  generalize (parseWithTokens source).result = result at h ⊢
  cases result with
  | error error => contradiction
  | ok found =>
    cases h
    exact ⟨found.2, rfl⟩

/-- Everywhere in the tree, what stands right inside a node stands in a row. -/
def InRows (grammar : Grammar) : Prop :=
  ∀ node, grammar.Has node → Row node.span.start (node.children.map Node.span) node.span.stop

theorem inRows_of_parse {source : Source} {grammar : Grammar}
    (h : (parse source).result = .ok grammar) : grammar.InRows := by
  obtain ⟨sets, hparse⟩ := exists_tokens_of_parse h
  intro node hnode
  obtain ⟨start, stop, hstart, -, hread, -⟩ := hnode.readOnCourse hparse
  exact hread.row hstart

/-- **The places of a parsed grammar form a tree.** What is inside a node stands inside its place, in
order and without overlap; code, productions and branches stand where their text is. -/
theorem spanTree_of_parse {source : Source} {grammar : Grammar}
    (h : (parse source).result = .ok grammar) :
    ∃ sets, (parseWithTokens source).result = .ok (grammar, sets) ∧
      grammar.SpanTree source sets := by
  obtain ⟨sets, hparse⟩ := exists_tokens_of_parse h
  refine ⟨sets, hparse, ?_⟩
  constructor
  case inside =>
    intro node hnode
    have hrow := inRows_of_parse h node hnode
    refine ⟨hrow.le, fun child hchild => ?_⟩
    exact hrow.inside _ (List.mem_map_of_mem hchild)
  case ordered =>
    intro node hnode
    have hrow := inRows_of_parse h node hnode
    exact List.pairwise_map.1 hrow.pairwise
  case code =>
    intro code hcode
    obtain ⟨start, stop, hstart, ⟨⟨text, hstands⟩, -⟩, hread, -⟩ := hcode.readOnCourse hparse
    exact Parser.codeSegment_slice hstands hstart hread
  case production =>
    intro production hproduction
    obtain ⟨start, stop, hstart, ⟨⟨text, hstands⟩, -⟩, hread, -⟩ := hproduction.readOnCourse hparse
    exact Parser.production_slice hstands hstart hread
  case branch =>
    intro branch hbranch first hfirst last hlast
    obtain ⟨start, stop, hstart, -, ⟨inside, hfront, hgives⟩, -⟩ := hbranch.readOnCourse hparse
    obtain ⟨rules, token, -, htakes⟩ := hfront
    obtain ⟨hinside, -⟩ := htakes.moves hstart
    have hcomponents := (Parser.branch_gives.1 hgives).1
    obtain ⟨hempty, -⟩ | ⟨hsome, hspan, -⟩ := Parser.branch_place hinside.stands hgives
    · simp [hempty] at hfirst
    · obtain ⟨-, hstarts, hstops⟩ := Parser.components_row hinside.stands hcomponents hsome
      rw [hspan, hstarts first hfirst, hstops last hlast]
  case empty =>
    intro branch hbranch hempty
    obtain ⟨start, stop, hstart, hcourse, ⟨inside, hfront, hgives⟩, hstop⟩ :=
      hbranch.readOnCourse hparse
    exact hcourse.empty_branch hstart hfront hgives hstop hempty

/-- The places in a text with code, an empty branch and a negated group form a tree. -/
theorem spanTree_of_parse_small : ∃ grammar sets,
    (parse (.ofString "grammar G { a : {p}? {q} ~( | x ) {r} ; b : a ; }")).result = .ok grammar ∧
      grammar.productions.map Production.span = [⟨12, 39⟩, ⟨40, 47⟩] ∧
      (parseWithTokens (.ofString "grammar G { a : {p}? {q} ~( | x ) {r} ; b : a ; }")).result =
        .ok (grammar, sets) ∧
      grammar.SpanTree (.ofString "grammar G { a : {p}? {q} ~( | x ) {r} ; b : a ; }") sets := by
  have hplaces :
      (parse (.ofString "grammar G { a : {p}? {q} ~( | x ) {r} ; b : a ; }")).result.toOption.map
        (fun grammar => grammar.productions.map Production.span) =
        some [⟨12, 39⟩, ⟨40, 47⟩] := by
    rw [result_parse_words]
    decide +kernel
  obtain ⟨grammar, hsome, hfound⟩ := Option.map_eq_some_iff.1 hplaces
  have hparsed := ok_of_toOption hsome
  obtain ⟨sets, htokens, htree⟩ := spanTree_of_parse hparsed
  exact ⟨grammar, sets, hparsed, hfound, htokens, htree⟩

end GrammarLang.Grammar
