import GrammarLang.Proofs.Grammar.Matching
import GrammarLang.Proofs.Grammar.Twin

/-! # Trees of parsers side by side

What was said of parsers side by side goes on to the functions that build the tree. A twinning is
**`LawfulTree`** if it is lawful, and if it has an answer to what these functions do besides consuming
tokens: they look ahead, they keep terminals in an arena, they read code and regular expressions. Then
the trees that parsers side by side give match: **`Parser.production_twins`**,
**`Parser.wholeGrammar_twins`**.

Terminals are compared in arenas, and an arena grows while a tree is read. So what is said of a node
is said for all arenas that the present ones have grown into: **`Grows`**. -/

namespace GrammarLang.Grammar

open GrammarLang.Scan GrammarLang.Text

open Lexicon (ident number string)

variable {twinning : Twinning} {α β γ : Type} {least least' more more' : Nat} {parser twin : Parser}

/-- Two values are related in all arenas that have grown from those behind them, which have grown from
those before. -/
structure Grows (before before' : Arena) (relation : Arena → Arena → α → α → Prop)
    (after after' : Parser) (value value' : α) : Prop where
  /-- The arena of the parser has grown. -/
  within : before.Within after.arena
  /-- The arena of the twin has grown. -/
  within_twin : before'.Within after'.arena
  /-- The values are related. -/
  related : ∀ arena arena', after.arena.Within arena → after'.arena.Within arena' →
    relation arena arena' value value'

namespace Reply

variable {before before' : Arena} {relation : Arena → Arena → α → α → Prop}
  {results : Arena → Arena → β → β → Prop} {reply : Reply α least parser}
  {reply' : Reply α least' twin}

theorem Twins.done_grows {value value' : α} (hbeside : twinning.beside parser twin)
    (h : ∀ arena arena', relation arena arena' value value') :
    (Reply.done value parser).Twins twinning (Grows parser.arena twin.arena relation)
      (Reply.done value' twin) :=
  .done hbeside ⟨.refl _, .refl _, fun arena arena' _ _ => h arena arena'⟩

theorem Twins.ok_grows {value value' : α} {after after' : Parser}
    {used : after.remaining + least ≤ parser.remaining}
    {used' : after'.remaining + least' ≤ twin.remaining} (hbeside : twinning.beside after after')
    (h : ∀ arena arena', relation arena arena' value value') :
    (Reply.ok value after used).Twins twinning (Grows after.arena after'.arena relation)
      (Reply.ok value' after' used') :=
  .ok hbeside ⟨.refl _, .refl _, fun arena arena' _ _ => h arena arena'⟩

theorem Twins.map_grows {change change' : α → β}
    (h : reply.Twins twinning (Grows before before' relation) reply')
    (himp : ∀ arena arena' value value', relation arena arena' value value' →
      results arena arena' (change value) (change' value')) :
    (reply.map change).Twins twinning (Grows before before' results) (reply'.map change') :=
  h.map fun _ _ _ _ _ _ hgrows => ⟨hgrows.within, hgrows.within_twin,
    fun arena arena' h h' => himp _ _ _ _ (hgrows.related arena arena' h h')⟩

/-- Two steps in a row: the second one may assume of the first value what is to be shown of it. -/
theorem Twins.bind_grows
    {next : (value : α) → (after : Parser) → after.remaining + least ≤ parser.remaining →
      Reply β more after}
    {next' : (value : α) → (after : Parser) → after.remaining + least' ≤ twin.remaining →
      Reply β more' after}
    (h : reply.Twins twinning (Grows before before' relation) reply')
    (hnext : ∀ value value' after after' (hgives : reply.Gives value after)
      (hgives' : reply'.Gives value' after'), twinning.beside after after' →
      Grows before before' relation after after' value value' →
      (next value after hgives.remaining_le).Twins twinning
        (Grows after.arena after'.arena fun arena arena' result result' =>
          relation arena arena' value value' → results arena arena' result result')
        (next' value' after' hgives'.remaining_le)) :
    (reply.bind next).Twins twinning (Grows before before' results) (reply'.bind next') :=
  h.bind fun value value' after after' hgives hgives' hbeside hgrows =>
    (hnext value value' after after' hgives hgives' hbeside hgrows).mono
      fun _ _ _ _ _ _ hlast => ⟨hgrows.within.trans hlast.within,
        hgrows.within_twin.trans hlast.within_twin, fun arena arena' h h' =>
          hlast.related arena arena' h h' (hgrows.related arena arena' (hlast.within.trans h)
            (hlast.within_twin.trans h'))⟩

end Reply

/-- Behind its current tokens a parser is not to be followed any further. -/
structure Twinning.Departs (twinning : Twinning) (parser : Parser) : Prop where
  /-- It may fail there. -/
  lenient : twinning.lenient
  /-- It gets below the horizon. -/
  below : ∀ set after, parser.Skips set after → after.remaining < twinning.horizon

/-- A lawful twinning that says as well what the functions for trees do besides consuming tokens. -/
structure Twinning.LawfulTree (twinning : Twinning) : Prop extends twinning.Lawful where
  /-- They see the same ahead, unless what the parser foresees leads it away. -/
  foresees : ∀ {parser twin rules}, twinning.beside parser twin →
    rules = ["\x7b", number] ∨ rules = [ident, "="] →
    (parser.seesSequence rules).Twins twinning (fun _ _ => Eq) (twin.seesSequence rules) ∨
      parser.Foresees rules true ∧ twinning.Departs parser
  /-- They keep a terminal; a set of texts is one that was compiled. -/
  intern : ∀ {parser twin}, twinning.beside parser twin → ∀ terminal,
    (∀ set, terminal = .set set → RegexSet.compile set.source set.flags = .ok set) →
    (parser.intern terminal).Twins twinning (Grows parser.arena twin.arena twinning.terminals)
      (twin.intern terminal)
  /-- They add to the journal. -/
  tell : ∀ {parser twin}, twinning.beside parser twin → ∀ detail message,
    twinning.beside (parser.tell detail message) (twin.tell detail message)
  /-- They give the place of a node. -/
  span : ∀ {parser twin after after'}, twinning.beside parser twin → twinning.beside after after' →
    twinning.spans (after.spanFrom parser.start) (after'.spanFrom twin.start)
  /-- A range that is none for the parser is none for the twin. -/
  range : ∀ {parser twin token token'}, twinning.beside parser twin → twinning.tokens token token' →
    ∀ lower upper, twinning.lenient ∨ twinning.failures
      (.invalidRange lower upper (parser.scanner.position token.span.start))
      (.invalidRange lower upper (twin.scanner.position token'.span.start))
  /-- They read code. -/
  code : ∀ {parser twin}, twinning.beside parser twin → parser.sees "\x7b" = true →
    (Parser.codeSegment parser).Twins twinning
      (Grows parser.arena twin.arena fun _ _ left right =>
        twinning.spans left.span right.span ∧ left.text = right.text)
      (Parser.codeSegment twin)
  /-- They read a regular expression. -/
  regex : ∀ {parser twin}, twinning.beside parser twin → parser.sees "/" = true →
    (Parser.regexLiteral parser).Twins twinning (Grows parser.arena twin.arena fun _ _ => Eq)
      (Parser.regexLiteral twin)

namespace Parser

variable {rules : List String}

theorem Takes.arena_eq {token : Token} {after : Parser} (h : parser.Takes rules token after) :
    after.arena = parser.arena := by
  obtain ⟨-, scanner, -, rfl⟩ := h
  rfl

theorem consume_lost (h : twinning.Departs parser) : (parser.consumeAny rules).Lost twinning := by
  intro token after hgives
  obtain ⟨set, hskips, -⟩ := (gives_consumeAny.1 hgives).skips
  exact h.below set after hskips

section Steps

variable (hlaw : twinning.LawfulTree) (h : twinning.beside parser twin)
include hlaw h

/-- Consuming a token leaves the arenas alone. -/
theorem consume_grows (hrules : Askable rules) :
    (parser.consumeAny rules).Twins twinning
      (Grows parser.arena twin.arena fun _ _ => twinning.tokens) (twin.consumeAny rules) :=
  (consumeAny_twins hlaw.toLawful h hrules).mono fun _ _ _ _ hgives hgives' htokens =>
    ⟨(gives_consumeAny.1 hgives).arena_eq ▸ .refl _, (gives_consumeAny.1 hgives').arena_eq ▸ .refl _,
      fun _ _ _ _ => htokens⟩

/-- What goes on from a look ahead, for values that are related in arenas. Looking ahead leaves the
parsers where they are. -/
theorem foresees_bind {relation : Arena → Arena → α → α → Prop}
    {next : (found : Bool) → (same : Parser) → same.remaining + 0 ≤ parser.remaining →
      Reply α more same}
    {next' : (found : Bool) → (same : Parser) → same.remaining + 0 ≤ twin.remaining →
      Reply α more' same}
    (hrules : rules = ["\x7b", number] ∨ rules = [ident, "="])
    (hlost : twinning.Departs parser → (next true parser (Nat.le_refl _)).Lost twinning)
    (hnext : ∀ found, (next found parser (Nat.le_refl _)).Twins twinning
      (Grows parser.arena twin.arena relation) (next' found twin (Nat.le_refl _))) :
    ((parser.seesSequence rules).bind next).Twins twinning (Grows parser.arena twin.arena relation)
      ((twin.seesSequence rules).bind next') := by
  rcases hlaw.foresees h hrules with hsame | ⟨⟨_, _, hforesees, hfound⟩, hdeparts⟩
  · refine hsame.bind ?_
    rintro found _ same same' hgives hgives' - rfl
    obtain ⟨-, rfl⟩ := gives_seesSequence.1 hgives
    obtain ⟨-, rfl⟩ := gives_seesSequence.1 hgives'
    exact hnext found
  · refine Reply.Lost.twins (fun value after hgives => ?_) hdeparts.lenient
    obtain ⟨found, same, hseen, hmore⟩ := Reply.gives_bind.1 hgives
    obtain ⟨⟨_, _, hforesees', rfl⟩, rfl⟩ := gives_seesSequence.1 hseen
    rw [hforesees] at hforesees'
    cases hforesees'
    simp only [hfound] at hmore
    exact hlost hdeparts value after hmore

/-- What goes on from an attempt, for values that are related in arenas. -/
theorem attempt_grows {relation : Arena → Arena → α → α → Prop} {earlier earlier' : Parser}
    {absent : Reply α least earlier} {absent' : Reply α least' earlier'}
    {taken : (token : Token) → (middle : Parser) → middle.remaining + 1 ≤ parser.remaining →
      Reply α least earlier}
    {taken' : (token : Token) → (middle : Parser) → middle.remaining + 1 ≤ twin.remaining →
      Reply α least' earlier'}
    (hrules : Askable rules)
    (hlost : ∀ token after used, after.remaining < twinning.horizon →
      (taken token after used).Lost twinning)
    (htaken : ∀ token token' after after' (htakes : parser.Takes rules token after)
      (htakes' : twin.Takes rules token' after'), twinning.beside after after' →
      twinning.tokens token token' →
      (taken token after htakes.remaining_le).Twins twinning
        (Grows after.arena after'.arena relation) (taken' token' after' htakes'.remaining_le))
    (habsent : parser.Lacks rules →
      absent.Twins twinning (Grows parser.arena twin.arena relation) absent') :
    (match parser.tryConsumeAny rules with
      | .failed error middle => Reply.failed error middle
      | .taken token middle used => taken token middle used
      | .absent => absent).Twins twinning (Grows parser.arena twin.arena relation)
    (match twin.tryConsumeAny rules with
      | .failed error middle => Reply.failed error middle
      | .taken token middle used => taken' token middle used
      | .absent => absent') :=
  attempt_twins hlaw.toLawful h hrules hlost (fun _ _ _ _ htakes htakes' hbeside htokens =>
    htakes.arena_eq ▸ htakes'.arena_eq ▸ htaken _ _ _ _ htakes htakes' hbeside htokens) habsent

/-- The same where the failure to find a token is looked at first. -/
theorem attempt_absent_grows {relation : Arena → Arena → α → α → Prop} {earlier earlier' : Parser}
    {absent : Reply α least earlier} {absent' : Reply α least' earlier'}
    {taken : (token : Token) → (middle : Parser) → middle.remaining + 1 ≤ parser.remaining →
      Reply α least earlier}
    {taken' : (token : Token) → (middle : Parser) → middle.remaining + 1 ≤ twin.remaining →
      Reply α least' earlier'}
    (hrules : Askable rules)
    (hlost : ∀ token after used, after.remaining < twinning.horizon →
      (taken token after used).Lost twinning)
    (htaken : ∀ token token' after after' (htakes : parser.Takes rules token after)
      (htakes' : twin.Takes rules token' after'), twinning.beside after after' →
      twinning.tokens token token' →
      (taken token after htakes.remaining_le).Twins twinning
        (Grows after.arena after'.arena relation) (taken' token' after' htakes'.remaining_le))
    (habsent : parser.Lacks rules →
      absent.Twins twinning (Grows parser.arena twin.arena relation) absent') :
    (match parser.tryConsumeAny rules with
      | .failed error middle => Reply.failed error middle
      | .absent => absent
      | .taken token middle used => taken token middle used).Twins twinning
        (Grows parser.arena twin.arena relation)
    (match twin.tryConsumeAny rules with
      | .failed error middle => Reply.failed error middle
      | .absent => absent'
      | .taken token middle used => taken' token middle used) :=
  attempt_absent_twins hlaw.toLawful h hrules hlost (fun _ _ _ _ htakes htakes' hbeside htokens =>
    htakes.arena_eq ▸ htakes'.arena_eq ▸ htaken _ _ _ _ htakes htakes' hbeside htokens) habsent

end Steps

/-! ## Terminals and suffixes -/

section Leaves

variable (hlaw : twinning.LawfulTree) (h : twinning.beside parser twin)
include hlaw h

/-- They read the same terminal. -/
theorem terminal_twins :
    (terminal parser).Twins twinning (Grows parser.arena twin.arena twinning.terminals)
      (terminal twin) := by
  -- What a token stands for is kept, and the twin's token stands for the same.
  have hkept (make : Token → Terminal) {token token' : Token} {after after' : Parser}
      (hafter : twinning.beside after after') (hmake : make token' = make token)
      (hset : ∀ set, make token ≠ .set set) :
      (after.intern (make token)).Twins twinning
        (Grows after.arena after'.arena twinning.terminals) (after'.intern (make token')) := by
    rw [hmake]
    exact hlaw.intern hafter _ fun set heq => absurd heq (hset set)
  rw [terminal, terminal]
  refine attempt_grows hlaw h (by decide) (fun _ _ _ hbelow => .since hbelow) ?_ fun _ => ?_
  · intro token token' _ _ _ _ hafter htokens
    exact (hkept (fun token => .ident token.text) hafter (by
      simp only [(hlaw.same htokens).2.1]) (by simp)).since
  refine attempt_grows hlaw h (by decide) (fun _ _ _ hbelow => .since hbelow) ?_ fun _ => ?_
  · intro token token' _ _ _ _ hafter htokens
    exact (hkept (fun token => .number (numberOf token)) hafter (by
      simp only [numberOf, (hlaw.same htokens).2.2]) (by simp)).since
  refine attempt_grows hlaw h (by decide) (fun _ _ _ hbelow => .since hbelow) ?_ fun _ => ?_
  · intro token token' _ _ _ _ hafter htokens
    exact (hkept (fun token => .string (textOf token)) hafter (by
      simp only [textOf, (hlaw.same htokens).2.1, (hlaw.same htokens).2.2]) (by simp)).since
  simp only [sees_twins hlaw.toLawful h]
  split
  · rename_i hslash
    refine (hlaw.regex h hslash).bind fun set set' after after' hgives _ hafter hgrows => ?_
    obtain rfl : set = set' := hgrows.related _ _ (.refl _) (.refl _)
    refine (hlaw.intern hafter _ ?_).mono fun _ _ _ _ _ _ hlast =>
      ⟨hgrows.within.trans hlast.within, hgrows.within_twin.trans hlast.within_twin, hlast.related⟩
    rintro _ ⟨⟩
    exact compile_of_gives hgives
  · exact expected_twins hlaw.toLawful h _

/-- They read the same bound. -/
theorem upperBound_twins :
    (upperBound parser).Twins twinning (Grows parser.arena twin.arena fun _ _ => Eq)
      (upperBound twin) := by
  rw [upperBound, upperBound]
  refine attempt_grows hlaw h (by decide) (fun _ _ _ hbelow => .ok hbelow) ?_
    fun _ => .done_grows h fun _ _ => rfl
  intro _ _ _ _ _ _ hafter htokens
  exact .ok_grows hafter fun _ _ => by simp only [numberOf, (hlaw.same htokens).2.2]

/-- They read the same range. -/
theorem rangeSuffix_twins :
    (rangeSuffix parser).Twins twinning (Grows parser.arena twin.arena fun _ _ => Eq)
      (rangeSuffix twin) := by
  rw [rangeSuffix, rangeSuffix]
  refine ((consume_grows hlaw h (by decide)).bind_grows
    fun opening opening' inside inside' _ _ hinside hopening => ?_).since
  refine (consume_grows hlaw hinside (by decide)).bind_grows
    fun lowest lowest' atUpper atUpper' _ _ hupper hlowest => ?_
  have hlower : numberOf lowest' = numberOf lowest := by
    simp only [numberOf, (hlaw.same (hlowest.related _ _ (.refl _) (.refl _))).2.2]
  simp only [hlower]
  refine Reply.Twins.bind_grows ?_ fun upper upper' behind behind' _ _ hbehind
    (hsame : Grows atUpper.arena atUpper'.arena (fun _ _ => Eq) behind behind' upper upper') => ?_
  · exact attempt_absent_grows hlaw hupper (by decide) (fun _ _ _ hbelow => .since hbelow)
      (fun _ _ _ _ _ _ hcomma _ => (upperBound_twins hlaw hcomma).since)
      fun _ => .done_grows hupper fun _ _ => rfl
  obtain rfl : upper = upper' := hsame.related _ _ (.refl _) (.refl _)
  refine (consume_grows hlaw hbehind (by decide)).bind_grows
    fun closing closing' last last' _ _ hlast _ => ?_
  cases upper with
  | none => exact .done_grows hlast fun _ _ _ _ _ _ => rfl
  | some bound =>
    simp only
    split
    · exact .failed (hlaw.range hlast (hopening.related _ _ (.refl _) (.refl _)) _ _)
    · exact .done_grows hlast fun _ _ _ _ _ _ => rfl

end Leaves

theorem rangeSuffix_lost (h : twinning.Departs parser) : (rangeSuffix parser).Lost twinning := by
  rw [rangeSuffix]
  exact .since_of_lost (consume_lost h).bind

/-- They read the same suffixes. -/
theorem suffixes_twins (hlaw : twinning.LawfulTree) {parser twin : Parser}
    (h : twinning.beside parser twin) :
    (suffixes parser).Twins twinning (Grows parser.arena twin.arena fun _ _ => Eq)
      (suffixes twin) := by
  rw [suffixes, suffixes]
  refine attempt_grows hlaw h (by decide) (fun _ _ _ hbelow => .since hbelow) ?_ fun _ => ?_
  · intro token token' after after' htakes _ hafter htokens
    have hless := htakes.remaining_le
    rw [(hlaw.same htokens).1]
    exact ((suffixes_twins hlaw hafter).map_grows fun _ _ _ _ heq => heq ▸ rfl).since
  refine (foresees_bind hlaw h (.inl rfl) (fun hdeparts => ?_) fun isRange => ?_).since
  · rw [if_pos rfl]
    exact .since_of_lost (rangeSuffix_lost hdeparts).bind
  cases isRange with
  | false => exact .done_grows h fun _ _ => rfl
  | true =>
    rw [if_pos rfl, if_pos rfl]
    refine ((rangeSuffix_twins hlaw h).bind_grows
      fun suffix suffix' after after' hsuffix _ hafter _ => ?_).since
    have hless := hsuffix.remaining_le
    refine (suffixes_twins hlaw hafter).map_grows ?_
    intro _ _ _ _ hothers hfirst
    rw [hothers, hfirst]
termination_by parser.remaining

/-! ## Code and labels -/

section Leaves

variable (hlaw : twinning.LawfulTree) (h : twinning.beside parser twin)
include hlaw h

/-- They read the same code in front of an element. -/
theorem codeInFront_twins :
    (codeInFront parser).Twins twinning
      (Grows parser.arena twin.arena fun _ _ left right =>
        CodesMatch twinning.spans left.1 right.1 ∧ CodesMatch twinning.spans left.2 right.2)
      (codeInFront twin) := by
  rw [codeInFront, codeInFront]
  simp only [sees_twins hlaw.toLawful h]
  split
  · rename_i hbrace
    refine ((hlaw.code h hbrace).bind_grows fun code code' after after' _ _ hafter hcode => ?_).since
    obtain ⟨hspan, htext⟩ := hcode.related _ _ (.refl _) (.refl _)
    refine attempt_absent_grows hlaw hafter (by decide) ?_ ?_
      fun _ => .done_grows hafter fun _ _ _ => ⟨.none, .some hspan htext⟩
    · intro _ last hused hbelow
      split
      · exact .since hbelow
      · exact .ok hbelow
    · intro _ _ last last' _ _ hlast _
      simp only [sees_twins hlaw.toLawful hlast]
      split
      · rename_i hbrace'
        refine ((hlaw.code hlast hbrace').map_grows ?_).since
        exact fun _ _ _ _ hbefore _ => ⟨.some hspan htext, .some hbefore.1 hbefore.2⟩
      · exact .ok_grows hlast fun _ _ _ => ⟨.some hspan htext, .none⟩
  · exact .done_grows h fun _ _ => ⟨.none, .none⟩

/-- They read the same code behind an element. -/
theorem codeBehind_twins :
    (codeBehind parser).Twins twinning
      (Grows parser.arena twin.arena fun _ _ => CodesMatch twinning.spans) (codeBehind twin) := by
  rw [codeBehind, codeBehind]
  simp only [sees_twins hlaw.toLawful h]
  split
  · rename_i hbrace
    exact ((hlaw.code h hbrace).map_grows fun _ _ _ _ hcode => .some hcode.1 hcode.2).since
  · exact .done_grows h fun _ _ => .none

/-- They read the same label. -/
theorem labelName_twins :
    (labelName parser).Twins twinning (Grows parser.arena twin.arena fun _ _ => Eq)
      (labelName twin) := by
  rw [labelName, labelName]
  refine (foresees_bind hlaw h (.inr rfl) (fun hdeparts => ?_) fun isLabel => ?_).since
  · rw [if_pos rfl]
    exact .since_of_lost (consume_lost hdeparts).bind
  cases isLabel with
  | false => exact .done_grows h fun _ _ => rfl
  | true =>
    rw [if_pos rfl, if_pos rfl]
    refine ((consume_grows hlaw h (by decide)).bind_grows
      fun name name' after after' _ _ hafter _ => ?_).since
    refine Reply.Twins.map_grows (consume_grows hlaw hafter (by decide : Askable ["="])) ?_
    intro _ _ _ _ _ hname
    rw [(hlaw.same hname).2.1]

end Leaves

/-! ## Components, branches and productions -/

mutual

/-- They read branches that match. -/
theorem branches_twins (hlaw : twinning.LawfulTree) {parser twin : Parser}
    (h : twinning.beside parser twin) :
    (branches parser).Twins twinning
      (Grows parser.arena twin.arena fun arena arena' =>
        BranchesMatch (twinning.terminals arena arena') twinning.spans) (branches twin) := by
  rw [branches, branches]
  refine ((branch_twins hlaw h).bind_grows fun first first' after after' hgives _ hafter _ => ?_).since
  have hless := hgives.remaining_le
  refine attempt_absent_grows hlaw hafter (by decide) (fun _ _ _ hbelow => .since hbelow) ?_
    fun _ => .done_grows hafter fun _ _ hfirst => .cons hfirst .nil
  intro _ _ last last' htakes _ hlast _
  have hless' := htakes.remaining_le
  refine ((branches_twins hlaw hlast).map_grows ?_).since
  exact fun _ _ _ _ hothers hfirst => .cons hfirst hothers
termination_by 5 * parser.remaining + 4

/-- They read branches that match, with their places. -/
theorem branch_twins (hlaw : twinning.LawfulTree) {parser twin : Parser}
    (h : twinning.beside parser twin) :
    (branch parser).Twins twinning
      (Grows parser.arena twin.arena fun arena arena' =>
        Branch.Matches (twinning.terminals arena arena') twinning.spans) (branch twin) := by
  rw [branch, branch]
  exact ((components_twins hlaw h).bind_grows fun _ _ after after' _ _ hafter _ =>
    .done_grows hafter fun _ _ hparts => .components (hlaw.span h hafter) hparts).since
termination_by 5 * parser.remaining + 3

/-- They read components that match. -/
theorem components_twins (hlaw : twinning.LawfulTree) {parser twin : Parser}
    (h : twinning.beside parser twin) :
    (components parser).Twins twinning
      (Grows parser.arena twin.arena fun arena arena' =>
        ComponentsMatch (twinning.terminals arena arena') twinning.spans) (components twin) := by
  rw [components, components]
  simp only [seesAny_twins hlaw.toLawful h]
  split
  · exact .done_grows h fun _ _ => .nil
  · refine ((component_twins hlaw h).bind_grows
      fun first first' after after' hgives _ hafter _ => ?_).since
    have hless := hgives.remaining_le
    refine (components_twins hlaw hafter).map_grows ?_
    exact fun _ _ _ _ hothers hfirst => .cons hfirst hothers
termination_by 5 * parser.remaining + 2

/-- They read a component that matches. -/
theorem component_twins (hlaw : twinning.LawfulTree) {parser twin : Parser}
    (h : twinning.beside parser twin) :
    (component parser).Twins twinning
      (Grows parser.arena twin.arena fun arena arena' =>
        Component.Matches (twinning.terminals arena arena') twinning.spans) (component twin) := by
  rw [component, component]
  refine ((codeInFront_twins hlaw h).bind_grows
    fun code code' atLabel atLabel' hgives _ hlabel _ => ?_).since
  refine (labelName_twins hlaw hlabel).bind_grows
    fun label label' atElement atElement' hgives' _ helement heq => ?_
  obtain rfl : label = label' := heq.related _ _ (.refl _) (.refl _)
  have hless := hgives.remaining_le
  have hless' := hgives'.remaining_le
  refine (element_twins hlaw helement).bind_grows fun _ _ atSuffixes _ _ _ hsuffixes _ => ?_
  refine (suffixes_twins hlaw hsuffixes).bind_grows
    fun suffixes suffixes' atCode atCode' _ _ hcode heq => ?_
  obtain rfl : suffixes = suffixes' := heq.related _ _ (.refl _) (.refl _)
  refine (codeBehind_twins hlaw hcode).bind_grows fun _ _ after after' _ _ hafter _ => ?_
  exact .done_grows hafter fun _ _ hbehind _ helement _ hfront =>
    .parts (hlaw.span h hafter) hfront.1 hfront.2 helement hbehind
termination_by 5 * parser.remaining + 1

/-- They read an element that matches. -/
theorem element_twins (hlaw : twinning.LawfulTree) {parser twin : Parser}
    (h : twinning.beside parser twin) :
    (element parser).Twins twinning
      (Grows parser.arena twin.arena fun arena arena' =>
        Element.Matches (twinning.terminals arena arena') twinning.spans) (element twin) := by
  rw [element, element]
  refine attempt_grows hlaw h (by decide) (fun _ _ _ hbelow => .since hbelow) ?_ fun _ => ?_
  · intro _ _ after after' htakes _ hafter _
    have hless := htakes.remaining_le
    refine ((element_twins hlaw hafter).map_grows ?_).since
    exact fun _ _ _ _ hinner => .negation hinner
  refine attempt_grows hlaw h (by decide) (fun _ _ _ hbelow => .since hbelow) ?_ fun _ =>
    (terminal_twins hlaw h).map_grows fun _ _ _ _ hterminal => .terminal hterminal
  intro opening opening' inside inside' htakes _ hinside hopening
  have hless := htakes.remaining_le
  refine ((branches_twins hlaw hinside).bind_grows fun _ _ behind behind' _ _ hbehind _ => ?_).since
  have hkind : groupKindOf opening' = groupKindOf opening := by
    rw [groupKindOf, groupKindOf, (hlaw.same hopening).1]
  rw [hkind]
  refine Reply.Twins.map_grows (consume_grows hlaw hbehind (by decide : Askable [")"])) ?_
  exact fun _ _ _ _ _ hinner => .group hinner
termination_by 5 * parser.remaining

end

/-- They read a production that matches. -/
theorem production_twins (hlaw : twinning.LawfulTree) (h : twinning.beside parser twin) :
    (production parser).Twins twinning
      (Grows parser.arena twin.arena fun arena arena' =>
        Production.Matches (twinning.terminals arena arena') twinning.spans) (production twin) := by
  rw [production, production]
  refine ((consume_grows hlaw h (by decide)).bind_grows
    fun name other _ _ _ _ hname hnames => ?_).since
  refine (consume_grows hlaw hname (by decide)).bind_grows fun _ _ _ _ _ _ hcolon _ => ?_
  refine (branches_twins hlaw hcolon).bind_grows fun choices others _ _ _ _ hchoices hmatch => ?_
  refine (consume_grows hlaw hchoices (by decide)).bind_grows fun _ _ last last' _ _ hlast _ => ?_
  have htext := (hlaw.same (hnames.related _ _ (.refl _) (.refl _))).2.1
  have hlength := (hmatch.related _ _ (.refl _) (.refl _)).length_eq
  have htold : twinning.beside
      (last.tell .debug s!"Parsed production '{name.text}' with {choices.length} alternatives")
      (last'.tell .debug s!"Parsed production '{other.text}' with {others.length} alternatives") := by
    rw [htext, ← hlength]
    exact hlaw.tell hlast _ _
  refine (Reply.Twins.done_grows htold ?_).across
  exact fun _ _ _ hbranches _ _ => ⟨hlaw.span h htold, htext.symm, hbranches⟩

/-- They read productions that match, one by one. -/
theorem productions_twins (hlaw : twinning.LawfulTree) {parser twin : Parser}
    (h : twinning.beside parser twin) :
    (productions parser).Twins twinning
      (Grows parser.arena twin.arena fun arena arena' =>
        List.Forall₂ (Production.Matches (twinning.terminals arena arena') twinning.spans))
      (productions twin) := by
  rw [productions, productions]
  simp only [sees_twins hlaw.toLawful h]
  split
  · refine ((production_twins hlaw h).bind_grows
      fun first first' after after' hgives _ hafter _ => ?_).since
    have hless := hgives.remaining_le
    refine (productions_twins hlaw hafter).map_grows ?_
    exact fun _ _ _ _ hothers hfirst => .cons hfirst hothers
  · exact .done_grows h fun _ _ => .nil
termination_by parser.remaining

/-- They read grammars that match. -/
theorem wholeGrammar_twins (hlaw : twinning.LawfulTree) (h : twinning.beside parser twin) :
    (wholeGrammar parser).Twins twinning
      (fun after after' grammar grammar' => grammar.arena = after.arena ∧
        grammar'.arena = after'.arena ∧ twinning.spans grammar.span grammar'.span ∧
        grammar.name = grammar'.name ∧
        List.Forall₂ (Production.Matches (twinning.terminals grammar.arena grammar'.arena)
          twinning.spans) grammar.productions grammar'.productions) (wholeGrammar twin) := by
  rw [wholeGrammar, wholeGrammar]
  refine ((consumeAny_twins hlaw.toLawful h (by decide)).bind fun _ _ _ _ _ _ hkeyword _ => ?_).since
  refine (consumeAny_twins hlaw.toLawful hkeyword (by decide)).bind
    fun name name' _ _ _ _ hname hnames => ?_
  refine (consumeAny_twins hlaw.toLawful hname (by decide)).bind fun _ _ _ _ _ _ hopening _ => ?_
  refine (productions_twins hlaw hopening).bind fun _ _ behind behind' _ _ hbehind hgrows => ?_
  simp only [sees_twins hlaw.toLawful hbehind]
  split
  · refine (consumeAny_twins hlaw.toLawful hbehind (by decide)).bind
      fun _ _ after after' hgives hgives' hafter _ => ?_
    simp only [atEnd_twins hlaw.toLawful hafter]
    split
    · rw [(gives_consumeAny.1 hgives).arena_eq, (gives_consumeAny.1 hgives').arena_eq]
      exact .done hafter ⟨(gives_consumeAny.1 hgives).arena_eq.symm,
        (gives_consumeAny.1 hgives').arena_eq.symm, hlaw.span h hafter, (hlaw.same hnames).2.1.symm,
        hgrows.related _ _ (.refl _) (.refl _)⟩
    · exact expected_twins hlaw.toLawful hafter _
  · exact expected_twins hlaw.toLawful hbehind _

end Parser

end GrammarLang.Grammar
