import GrammarLang.Check.Compiled
import GrammarLang.Proofs.Grammar.Recording
import GrammarLang.Proofs.Grammar.Walks

/-! # What cannot go wrong

Two things that hold of every text, however malformed. The rules of the notation are never to blame
for a failure, as one of them at most attains a longest match: **`rules_unequivocal`**. And nothing
happens on the way that has no answer: **`parse_safe`** says that each failure is one of the text, at a
place that the text has, that a tree which is read has its place in the text with all of its nodes and
knows all of its terminals, and that numbers of 32 bits are enough to count with. -/

namespace GrammarLang.Grammar

open GrammarLang.Scan GrammarLang.Text

open Lexicon (ident)

/-! ## Rules -/

/-- The keyword is a name as well. -/
theorem names_tied_keyword {table : RuleTable} (h : Lexicon.table = .ok table) {text : List Char}
    {count : Nat} (hlongest : IsLongest (table.rulesInMode defaultMode) text count)
    (htake : text.take count = Lexicon.keyword.toList) :
    (tied (table.rulesInMode defaultMode) text count).map Rule.name = [Lexicon.keyword, ident] := by
  cases text with
  | nil => simp [Lexicon.keyword] at htake
  | cons c cs =>
    obtain ⟨count, rfl⟩ := Nat.exists_eq_succ_of_ne_zero
      (show count ≠ 0 by rintro rfl; simp [Lexicon.keyword] at htake)
    obtain ⟨rfl, -⟩ : c = 'g' ∧ cs.take count = "rammar".toList := List.cons.inj htake
    obtain ⟨hnames, hword⟩ := names_tied_of_wins hlongest (wins_takeWhile h (by decide : isNameStart 'g' = true) cs)
      (by rw [List.cons_append, List.takeWhile_append_dropWhile])
    rw [hnames, ← hword, htake]
    rfl

/-- The rules of the notation are unequivocal: no two attain a longest match, except that the keyword
is a name as well. Code is made of tokens whatever it is, and so is a regular expression unless it
ends with a backslash. So no text fails because of the rules. -/
theorem rules_unequivocal : ∃ table, Lexicon.table = .ok table ∧
    (∀ mode text count, IsLongest (table.rulesInMode mode) text count →
      (tied (table.rulesInMode mode) text count).length ≤ 1 ∨
        mode = defaultMode ∧ text.take count = Lexicon.keyword.toList) ∧
    (∀ text count, IsLongest (table.rulesInMode defaultMode) text count →
      text.take count = Lexicon.keyword.toList →
        (tied (table.rulesInMode defaultMode) text count).map Rule.name =
          [Lexicon.keyword, ident]) ∧
    (∀ text, text ≠ [] → ∃ count, IsLongest (table.rulesInMode Lexicon.codeMode) text count) ∧
    (∀ text, text ≠ [] → ((∀ rule ∈ table.rulesInMode Lexicon.regexMode,
      rule.matchLength? text = none) ↔ text = ['\\'])) ∧
    ∀ source error, (parse source).result = .error error → error.blamesRules = false := by
  obtain ⟨table, htable⟩ := Lexicon.exists_table
  refine ⟨table, htable, fun mode text count hlongest => ?_,
    fun text count hlongest htake => names_tied_keyword htable hlongest htake,
    fun text hne => exists_longest_code htable hne,
    fun text hne => unmatched_regex_iff htable hne,
    fun source error herror => (placed_of_parse_error herror).blameless⟩
  rcases names_tied htable hlongest with hone | ⟨hmode, htake, -⟩
  · exact .inl hone
  · exact .inr ⟨hmode, htake⟩

/-! ## Braces in code -/

namespace Parser

/-- Consumes code like `codeTokens`, but counts the open braces in 32 bits. There is no reply where
the count runs over. -/
def codeTokensCounted (depth : UInt32) (parser : Parser) : Option (Reply Unit 0 parser) :=
  if parser.sees "\x7b" && depth.toNat + 1 = UInt32.size then none
  else if !parser.sees "\x7b" && parser.sees "\x7d" && depth = 0 then some (.done () parser)
  else
    let inner := if parser.sees "\x7b" then depth + 1 else if parser.sees "\x7d" then depth - 1 else depth
    match parser.skip ["\x7d"] with
    | .failed error after => some (.failed error after)
    | .ok _ after _ => (codeTokensCounted inner after).map fun reply => reply.since (by omega)
termination_by parser.remaining

/-- What goes on from a success is the reply of the next step. -/
theorem bind_ok_since {α β : Type} {least more fewer : Nat} {earlier parser after : Parser} {value : α}
    {used : after.remaining + least ≤ parser.remaining}
    {next : (value : α) → (after : Parser) → after.remaining + least ≤ parser.remaining →
      Reply β more after}
    (h : parser.remaining + fewer ≤ earlier.remaining + (least + more))
    (h' : after.remaining + fewer ≤ earlier.remaining + more) :
    ((Reply.ok value after used).bind next).since h = (next value after used).since h' := by
  rw [Reply.bind]
  cases next value after used <;> rfl

/-- The count of open braces never runs over, as each of them is a token. -/
theorem codeTokensCounted_eq {depth : UInt32} {parser : Parser}
    (h : depth.toNat + parser.remaining < UInt32.size) :
    codeTokensCounted depth parser = some (codeTokens depth.toNat parser) := by
  have hsize : UInt32.size = 4294967296 := rfl
  have hremaining {rule : String} (hsees : parser.sees rule = true) : 1 ≤ parser.remaining := by
    obtain ⟨set, hcurrent, -⟩ := current_of_sees hsees
    rw [remaining, Scanner.remaining, hcurrent]
    exact Nat.le_add_left ..
  -- With the next count in bounds the rest follows by induction.
  have honward {inner : UInt32} (hinner : inner.toNat ≤ depth.toNat + 1) :
      (match parser.skip ["\x7d"] with
        | .failed error after => some (.failed error after)
        | .ok _ after used => (codeTokensCounted inner after).map fun reply =>
            (reply.since (by omega) : Reply Unit 0 parser)) =
      some (((parser.skip ["\x7d"]).bind fun _ after _ => codeTokens inner.toNat after).since
        (by omega)) := by
    cases hskip : parser.skip ["\x7d"] with
    | failed error after => rfl
    | ok value after used =>
      simp only []
      rw [codeTokensCounted_eq (by omega), Option.map_some, bind_ok_since]
  rw [codeTokensCounted, codeTokens]
  by_cases hopens : parser.sees "\x7b" = true
  · have hone := hremaining hopens
    have hdepth : (depth + 1).toNat = depth.toNat + 1 := by
      rw [UInt32.toNat_add, UInt32.toNat_one]
      exact Nat.mod_eq_of_lt (by omega)
    have hnot : ¬ depth.toNat + 1 = UInt32.size := by omega
    simp only [hopens, hnot, decide_false, Bool.and_false, Bool.false_eq_true, if_false, if_true,
      Bool.not_true, Bool.false_and]
    rw [honward hdepth.le, hdepth]
  rw [Bool.not_eq_true] at hopens
  by_cases hcloses : parser.sees "\x7d" = true
  · by_cases hzero : depth = 0
    · subst hzero
      simp [hopens, hcloses]
    · have hpositive : depth.toNat ≠ 0 := fun heq => hzero (UInt32.toNat_inj.1 heq)
      have hdepth : (depth - 1).toNat = depth.toNat - 1 :=
        UInt32.toNat_sub_of_le _ _ (UInt32.le_iff_toNat_le.2 (Nat.one_le_iff_ne_zero.2 hpositive))
      simp only [hopens, hcloses, hzero, hpositive, decide_false, Bool.and_false, Bool.false_and,
        Bool.false_eq_true, if_false, if_true]
      rw [honward (by omega), hdepth]
  · rw [Bool.not_eq_true] at hcloses
    simp only [hopens, hcloses, Bool.and_false, Bool.false_and, Bool.false_eq_true, if_false]
    rw [honward (by omega)]
termination_by parser.remaining

/-! ## Terminals -/

mutual

/-- Each terminal of some branches is read from a token of its own. -/
theorem length_leavesOfBranches {parser after : Parser} {branches : List Branch}
    (hgives : (parser.branches).Gives branches after) :
    (leavesOfBranches branches).length + after.remaining ≤ parser.remaining := by
  obtain ⟨⟨span, components⟩, middle, hfirst, hrest⟩ := branches_gives.1 hgives
  have hcomponents := length_leavesOfComponents (branch_gives.1 hfirst).1
  rw [leavesOfBranches.eq_def]
  obtain ⟨bar, behind, hbar, others, hmore, rfl⟩ | ⟨-, rfl, rfl⟩ := hrest
  · have hothers := length_leavesOfBranches hmore
    have hless := hbar.remaining_le
    simp only [Branch.leaves, List.length_append] at hcomponents ⊢
    omega
  · simpa only [Branch.leaves, leavesOfBranches, List.append_nil] using hcomponents
termination_by 4 * parser.remaining + 3
decreasing_by
  · omega
  · have hless := hfirst.remaining_le
    have hless' := hbar.remaining_le
    omega

theorem length_leavesOfComponents {parser after : Parser} {components : List Component}
    (hgives : (parser.components).Gives components after) :
    (leavesOfComponents components).length + after.remaining ≤ parser.remaining := by
  obtain ⟨-, rfl, rfl⟩ | ⟨-, first, middle, hfirst, others, hmore, rfl⟩ :=
    components_gives.1 hgives
  · exact (Nat.zero_add _).le
  · have hcomponent := length_leavesOfComponent hfirst
    have hothers := length_leavesOfComponents hmore
    rw [leavesOfComponents, List.length_append]
    omega
termination_by 4 * parser.remaining + 2
decreasing_by
  · omega
  · have hless := hfirst.remaining_le
    omega

theorem length_leavesOfComponent {parser after : Parser} {component : Component}
    (hgives : (parser.component).Gives component after) :
    component.leaves.length + after.remaining ≤ parser.remaining := by
  obtain ⟨atLabel, hinFront, atElement, hlabel, atSuffixes, helement, atCode, hsuffixes, hbehind,
    -⟩ := component_gives.1 hgives
  obtain ⟨span, label, predicate, codeBefore, element, suffixes, codeAfter⟩ := component
  have hless := hinFront.remaining_le
  have hless' := hlabel.remaining_le
  have hinner : element.leaves.length + atSuffixes.remaining ≤ atElement.remaining :=
    length_leavesOfElement helement
  have hmore := hsuffixes.remaining_le
  have hmore' := hbehind.remaining_le
  rw [Component.leaves]
  omega
termination_by 4 * parser.remaining + 1

theorem length_leavesOfElement {parser after : Parser} {element : Element}
    (hgives : (parser.element).Gives element after) :
    element.leaves.length + after.remaining ≤ parser.remaining := by
  obtain ⟨sign, middle, hsign, inner, hinner, rfl⟩ | ⟨-, ⟨opening, inside, hopening, inner, behind,
    hinner, closing, hclosing, rfl⟩ | ⟨-, id, hterminal, rfl⟩⟩ := element_gives.1 hgives
  · have hless := hsign.remaining_le
    have hlength := length_leavesOfElement hinner
    rw [Element.leaves]
    omega
  · have hless := hopening.remaining_le
    have hless' := hclosing.remaining_le
    have hlength := length_leavesOfBranches hinner
    rw [Element.leaves]
    omega
  · have hless := hterminal.remaining_le
    rw [Element.leaves, List.length_singleton]
    omega
termination_by 4 * parser.remaining

end

theorem length_leavesOfProductions {parser after : Parser} {productions : List Production}
    (hgives : (parser.productions).Gives productions after) :
    (leavesOfProductions productions).length + after.remaining ≤ parser.remaining := by
  obtain ⟨-, first, middle, hfirst, others, hmore, rfl⟩ | ⟨-, rfl, rfl⟩ :=
    productions_gives.1 hgives
  · have hless := hfirst.remaining_le
    have hothers := length_leavesOfProductions hmore
    obtain ⟨name, atColon, hname, colon, inside, hcolon, atEnd, hbranches, semicolon, last, hlast,
      -, rfl, -⟩ := production_gives.1 hfirst
    have hlength := length_leavesOfBranches hbranches
    have hname' := hname.remaining_le
    have hcolon' := hcolon.remaining_le
    have hlast' := hlast.remaining_le
    rw [remaining_tell] at hothers
    rw [leavesOfProductions, List.flatMap_cons, List.length_append]
    change _ + (leavesOfProductions others).length + _ ≤ _
    omega
  · exact (Nat.zero_add _).le
termination_by parser.remaining

end Parser

/-! ## Walks -/

namespace Visitor

variable {State : Type}

/-- What a visitor does at each kind of node keeps a property of its state, if the walk through the
nodes inside does. Terminals are met where the arena has them. -/
structure Keeps (visitor : Visitor State) (arena : Arena) (property : State → Prop) : Prop where
  /-- At a production. -/
  production : ∀ node walkOn, (∀ state, property state → property (walkOn state)) →
    ∀ state, property state → property (visitor.production node walkOn state)
  /-- At a branch. -/
  branch : ∀ node walkOn, (∀ state, property state → property (walkOn state)) →
    ∀ state, property state → property (visitor.branch node walkOn state)
  /-- At a component. -/
  component : ∀ node walkOn, (∀ state, property state → property (walkOn state)) →
    ∀ state, property state → property (visitor.component node walkOn state)
  /-- At an element. -/
  element : ∀ node walkOn, (∀ state, property state → property (walkOn state)) →
    ∀ state, property state → property (visitor.element node walkOn state)
  /-- At a terminal. -/
  terminal : ∀ id terminal, arena.get? id = some terminal →
    ∀ state, property state → property (visitor.terminal id terminal state)
  /-- At a suffix. -/
  suffix : ∀ suffix state, property state → property (visitor.suffix suffix state)
  /-- At code. -/
  code : ∀ code state, property state → property (visitor.code code state)

namespace Keeps

variable {visitor : Visitor State} {arena : Arena} {property : State → Prop}

theorem visitCode (h : visitor.Keeps arena property) (code : Option CodeSegment) {state : State}
    (hstate : property state) : property (visitor.visitCode code state) := by
  cases code with
  | none => exact hstate
  | some segment => exact h.code segment state hstate

theorem visitSuffixes (h : visitor.Keeps arena property) (suffixes : List Suffix) {state : State}
    (hstate : property state) : property (visitor.visitSuffixes suffixes state) := by
  rw [Visitor.visitSuffixes]
  induction suffixes generalizing state with
  | nil => exact hstate
  | cons suffix suffixes ih => exact ih (h.suffix suffix state hstate)

theorem visitTerminal (h : visitor.Keeps arena property) (id : TerminalId) {state : State}
    (hstate : property state) : property (visitor.visitTerminal arena id state) := by
  rw [Visitor.visitTerminal]
  cases hterminal : arena.get? id with
  | none => exact hstate
  | some terminal => exact h.terminal id terminal hterminal state hstate

mutual

/-- A walk through a branch keeps what each step keeps. -/
theorem visitBranch (h : visitor.Keeps arena property) : (branch : Branch) →
    ∀ state, property state → property (visitor.visitBranch arena branch state)
  | ⟨_, components⟩ => h.branch _ _ (visitComponents h components)

theorem visitComponents (h : visitor.Keeps arena property) : (components : List Component) →
    ∀ state, property state → property (visitor.visitComponents arena components state)
  | [], _, hstate => hstate
  | first :: others, _, hstate =>
    visitComponents h others _ (visitComponent h first _ hstate)

theorem visitComponent (h : visitor.Keeps arena property) : (component : Component) →
    ∀ state, property state → property (visitor.visitComponent arena component state)
  | ⟨_, _, predicate, codeBefore, element, suffixes, codeAfter⟩ =>
    h.component _ _ fun _ hstate => h.visitCode codeAfter <| h.visitSuffixes suffixes <|
      visitElement h element _ <| h.visitCode codeBefore <| h.visitCode predicate hstate

theorem visitElement (h : visitor.Keeps arena property) : (element : Element) →
    ∀ state, property state → property (visitor.visitElement arena element state)
  | .terminal id => h.element _ _ fun _ hstate => h.visitTerminal id hstate
  | .group _ branches => h.element _ _ (visitBranches h branches)
  | .negation inner => h.element _ _ (visitElement h inner)

theorem visitBranches (h : visitor.Keeps arena property) : (branches : List Branch) →
    ∀ state, property state → property (visitor.visitBranches arena branches state)
  | [], _, hstate => hstate
  | first :: others, _, hstate => visitBranches h others _ (visitBranch h first _ hstate)

end

/-- A walk through a whole grammar keeps what each step keeps. -/
theorem visit {grammar : Grammar} (h : visitor.Keeps grammar.arena property) {state : State}
    (hstate : property state) : property (visitor.visit grammar state) := by
  rw [Visitor.visit]
  generalize grammar.productions = productions
  induction productions generalizing state with
  | nil => exact hstate
  | cons first others ih =>
    exact ih (h.production _ _ (h.visitBranches first.branches) state hstate)

end Keeps

end Visitor

/-- The terminals of an inventory are in the arena of the grammar. -/
theorem knows_inventory (grammar : Grammar) :
    grammar.arena.Knows (Check.Inventory.ofGrammar grammar).terminals.toList := by
  have hkeeps : Check.Inventory.collector.Keeps grammar.arena
      fun inventory => grammar.arena.Knows inventory.terminals.toList := {
    production := fun node walkOn honward state hstate => honward _ hstate
    branch := fun node walkOn honward => honward
    component := fun node walkOn honward => honward
    element := fun node walkOn honward => honward
    terminal := by
      intro id terminal hterminal state hstate
      change grammar.arena.Knows (if id ∈ state.terminals then state
        else { state with terminals := state.terminals.push id }).terminals.toList
      split
      · exact hstate
      · intro other hother
        rcases List.mem_append.1 (Array.toList_push ▸ hother) with hmem | hlast
        · exact hstate other hmem
        · rw [List.mem_singleton.1 hlast, hterminal]
          rfl
    suffix := fun _ _ hstate => hstate
    code := fun _ _ hstate => hstate }
  exact hkeeps.visit nofun

/-! ## Counting with 32 bits -/

theorem step_le (progress : Source.LineProgress) (c : Char) :
    (progress.step c).line ≤ progress.line + c.utf8Size ∧
      max (progress.step c).characters (progress.step c).bytes ≤
        max progress.characters progress.bytes + c.utf8Size := by
  have hsize : 0 < c.utf8Size := c.utf8Size_pos
  rw [Source.LineProgress.step]
  split
  · exact ⟨Nat.add_le_add_left hsize _, Nat.zero_le _⟩
  · exact ⟨Nat.le_add_right .., by simp only; omega⟩

theorem locate_le (cs : List Char) (offset : Nat) (progress : Source.LineProgress) :
    (Source.locate cs offset progress).line ≤ progress.line + byteSize cs ∧
      (Source.locate cs offset progress).column ≤
        max progress.characters progress.bytes + byteSize cs + 1 := by
  induction cs generalizing offset progress with
  | nil => exact ⟨Nat.le_add_right .., by simp only [Source.locate]; omega⟩
  | cons c cs ih =>
    rw [Source.locate, byteSize_cons]
    split
    · exact ⟨Nat.le_add_right .., by simp only; omega⟩
    · split
      · have hstep := step_le progress c
        have hrest := ih (offset - c.utf8Size) (progress.step c)
        omega
      · exact ⟨Nat.le_add_right .., by simp only; omega⟩

/-- Lines and columns are no more than the bytes of a text, and one. -/
theorem position_le (source : Source) (offset : Nat) :
    (source.position offset).line ≤ source.size + 1 ∧
      (source.position offset).column ≤ source.size + 1 := by
  have h := locate_le source.chars offset ⟨1, 0, 0⟩
  rw [← source.size_eq] at h
  rw [Source.position]
  simp only [Nat.max_self] at h
  omega

/-- What is read of a text is safe to go on with. -/
structure SafeIn (grammar : Grammar) (source : Source) : Prop extends grammar.PlacedIn source where
  /-- The terminals of the tree are in the arena. -/
  knows : grammar.arena.Knows (leavesOfProductions grammar.productions)
  /-- A walk through the tree meets all of them. -/
  occurrences : grammar.occurrences = leavesOfProductions grammar.productions
  /-- The terminals of the compiled grammar are in the arena. -/
  compiled : grammar.arena.Knows (Check.Compiled.ofGrammar grammar).inventory.terminals.toList
  /-- There are fewer terminals than bytes. -/
  size_le : grammar.arena.size ≤ source.size

variable {source : Source} {grammar : Grammar}

/-- Terminals are numbered as they come, so there are no more of them than places where they stand. -/
theorem Numbered.le_length {known later : Nat} {ids : List TerminalId} (h : Numbered known ids later) :
    later ≤ known + ids.length := by
  induction h with
  | nil => exact Nat.le_add_right ..
  | old met others ih => rw [List.length_cons]; omega
  | new next others ih => rw [List.length_cons]; omega

/-- What is left of a text is no more than its bytes. -/
theorem left_le_size (place : Cursor source) : place.left ≤ source.size := by
  have hlength := length_le_byteSize place.rest
  have hoffset := place.offset_eq
  have hleft := place.left_eq
  omega

/-- A parsed grammar has no more terminals than its text has bytes. -/
theorem size_arena_le (h : (parse source).result = .ok grammar) : grammar.arena.size ≤ source.size := by
  have hsize := (inOrder_of_parse h).numbered.le_length
  obtain ⟨table, scanner, after, htable, hcreate, hgives⟩ := parse_eq_ok_iff.1 h
  obtain ⟨keyword, atName, hkeyword, name, atOpening, hname, opening, inside, hopening, atClosing,
    hproductions, -⟩ := Parser.wholeGrammar_gives.1 hgives
  have hleaves := Parser.length_leavesOfProductions hproductions
  have hkeyword' := hkeyword.remaining_le
  have hname' := hname.remaining_le
  have hopening' := hopening.remaining_le
  rw [Scanner.create_eq] at hcreate
  have hremaining : (Parser.mk scanner .empty).remaining ≤ source.size :=
    (Scanner.remaining_advance hcreate).trans (left_le_size _)
  omega

/-- A parsed grammar is safe to go on with. -/
theorem safeIn_of_parse (h : (parse source).result = .ok grammar) : grammar.SafeIn source := by
  have hknows : grammar.arena.Knows (leavesOfProductions grammar.productions) := by
    intro id hid
    have hlt := (inOrder_of_parse h).numbered.lt id hid
    obtain ⟨terminal, hterminal, -⟩ := provides_of_parse h id hlt
    rw [hterminal]
    rfl
  exact ⟨placedIn_of_parse h, hknows, occurrences_eq hknows, knows_inventory grammar,
    size_arena_le h⟩

/-- What is left to a parser in a text, and one more. -/
theorem Parser.StandsIn.remaining_le {parser : Parser} (h : parser.StandsIn source) :
    parser.remaining ≤ source.size + 1 := by
  have hleft : parser.scanner.place.left ≤ source.size := by
    obtain ⟨rfl, -⟩ := h
    exact left_le_size _
  rw [remaining, Scanner.remaining]
  split <;> omega

/-- **Nothing goes wrong.** Where a text is no grammar, there is a place in the text to blame for that.
A grammar that is read stands in the text with all of its nodes, and its terminals are all known;
the token sets it is read from are pieces of the text. All places have numbers of 32 bits, with their
lines and columns, and so has the count of braces, wherever code is read. -/
theorem parse_safe (hsize : source.size + 1 < UInt32.size) :
    (∀ error, (parse source).result = .error error ∨ (parseWithTokens source).result = .error error →
      error.Placed source) ∧
    (∀ grammar, (parse source).result = .ok grammar → grammar.SafeIn source) ∧
    (∀ grammar sets, (parseWithTokens source).result = .ok (grammar, sets) →
      grammar.SafeIn source ∧ ∀ set ∈ sets, ∀ token ∈ set.toList, token.IsPieceOf source) ∧
    (∀ offset, IsBoundary source offset → offset < UInt32.size ∧
      (source.position offset).line < UInt32.size ∧
      (source.position offset).column < UInt32.size) ∧
    ∀ parser : Parser, parser.StandsIn source →
      parser.codeTokensCounted 0 = some (parser.codeTokens 0) := by
  refine ⟨?_, fun grammar h => safeIn_of_parse h, ?_, ?_, ?_⟩
  · rintro error (h | h)
    · exact placed_of_parse_error h
    · refine placed_of_parse_error ?_
      rw [result_parse_eq, h]
      rfl
  · intro grammar sets h
    refine ⟨safeIn_of_parse ?_, fun set hset token htoken => isPieceOf_of_parseWithTokens h hset htoken⟩
    rw [result_parse_eq, h]
    rfl
  · intro offset hoffset
    have hle := hoffset.le_size
    have hposition := position_le source offset
    omega
  · intro parser hparser
    have hle := hparser.remaining_le
    exact Parser.codeTokensCounted_eq (by rw [UInt32.toNat_zero]; omega)

/-- A letter that is no flag, behind one that is: the failure is at the letter, whose place is told in
characters though the text is counted in bytes. -/
theorem parse_safe_flag : (Source.ofString "grammar G { a : /ä/iq ; }").size + 1 < UInt32.size ∧
    ∃ error, (parse (.ofString "grammar G { a : /ä/iq ; }")).result = .error error ∧
      error = .invalidRegexFlag 'q' ⟨1, 21⟩ ∧
      error.Placed (.ofString "grammar G { a : /ä/iq ; }") := by
  have hsize : (Source.ofString "grammar G { a : /ä/iq ; }").size + 1 < UInt32.size := by
    decide +kernel
  have hfailed : (match (parse (.ofString "grammar G { a : /ä/iq ; }")).result with
      | .error error => some error
      | .ok _ => none) = some (.invalidRegexFlag 'q' ⟨1, 21⟩) := by
    rw [result_parse_words]
    decide +kernel
  generalize Source.ofString "grammar G { a : /ä/iq ; }" = source at hsize hfailed ⊢
  cases hparsed : (parse source).result with
  | ok grammar => simp [hparsed] at hfailed
  | error error =>
    rw [hparsed] at hfailed
    exact ⟨hsize, error, rfl, Option.some.inj hfailed, (parse_safe hsize).1 error (.inl hparsed)⟩

end GrammarLang.Grammar
