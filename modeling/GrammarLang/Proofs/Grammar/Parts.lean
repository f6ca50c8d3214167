import GrammarLang.Proofs.Grammar.Parsed
import GrammarLang.Proofs.Grammar.Steps

/-! # The parts of a tree

The leaves of a grammar tree in the order of the text are its **`Part`**s: pieces of code and
terminals. The parser reads a tree part by part, with single tokens between them. What holds around
each of these steps, of the parts that it reads, so holds of the tree: **`Parser.Assembles`**. -/

namespace GrammarLang.Grammar

open GrammarLang.Scan GrammarLang.Text

/-- A leaf of a grammar tree. -/
inductive Part
  /-- A piece of code. -/
  | code (segment : CodeSegment)
  /-- A terminal. -/
  | terminal (id : TerminalId)

/-- The code of a part that is code. -/
def Part.code? : Part → Option CodeSegment
  | .code segment => some segment
  | .terminal _ => none

/-- Code that may be missing, as parts. -/
def partsOfCode (code : Option CodeSegment) : List Part := code.toList.map .code

mutual

/-- The parts of a branch, in order. -/
def Branch.parts : Branch → List Part
  | ⟨_, components⟩ => partsOfComponents components

/-- The parts of components, in order. -/
def partsOfComponents : List Component → List Part
  | [] => []
  | first :: others => first.parts ++ partsOfComponents others

/-- The parts of a component, in order. -/
def Component.parts : Component → List Part
  | ⟨_, _, predicate, codeBefore, element, _, codeAfter⟩ =>
    partsOfCode predicate ++ partsOfCode codeBefore ++ element.parts ++ partsOfCode codeAfter

/-- The parts of an element, in order. -/
def Element.parts : Element → List Part
  | .terminal id => [.terminal id]
  | .group _ branches => partsOfBranches branches
  | .negation inner => inner.parts

/-- The parts of branches, in order. -/
def partsOfBranches : List Branch → List Part
  | [] => []
  | first :: others => first.parts ++ partsOfBranches others

end

/-- The parts of productions, in order. -/
def partsOfProductions (productions : List Production) : List Part :=
  productions.flatMap fun production => partsOfBranches production.branches

/-! ## Code among the parts -/

theorem codes_partsOfCode (code : Option CodeSegment) :
    (partsOfCode code).filterMap Part.code? = code.toList := by
  cases code <;> rfl

mutual

/-- The code of a branch is the code among its parts. -/
theorem Branch.codes_parts : (branch : Branch) →
    branch.parts.filterMap Part.code? = branch.codes
  | ⟨_, components⟩ => by rw [Branch.parts, Branch.codes, codes_partsOfComponents components]

theorem codes_partsOfComponents : (components : List Component) →
    (partsOfComponents components).filterMap Part.code? = codesOfComponents components
  | [] => rfl
  | first :: others => by
    rw [partsOfComponents, codesOfComponents, List.filterMap_append, Component.codes_parts first,
      codes_partsOfComponents others]

theorem Component.codes_parts : (component : Component) →
    component.parts.filterMap Part.code? = component.codes
  | ⟨_, _, predicate, codeBefore, element, _, codeAfter⟩ => by
    rw [Component.parts, Component.codes]
    simp only [List.filterMap_append, codes_partsOfCode, Element.codes_parts element]

theorem Element.codes_parts : (element : Element) →
    element.parts.filterMap Part.code? = element.codes
  | .terminal _ => rfl
  | .group _ branches => by rw [Element.parts, Element.codes, codes_partsOfBranches branches]
  | .negation inner => by rw [Element.parts, Element.codes, Element.codes_parts inner]

theorem codes_partsOfBranches : (branches : List Branch) →
    (partsOfBranches branches).filterMap Part.code? = codesOfBranches branches
  | [] => rfl
  | first :: others => by
    rw [partsOfBranches, codesOfBranches, List.filterMap_append, Branch.codes_parts first,
      codes_partsOfBranches others]

end

/-- The code of a grammar is the code among its parts. -/
theorem codes_partsOfProductions (grammar : Grammar) :
    (partsOfProductions grammar.productions).filterMap Part.code? = grammar.codes := by
  rw [partsOfProductions, codes, List.filterMap_flatMap]
  exact congrArg (List.flatMap · _) (funext fun production => codes_partsOfBranches production.branches)

/-! ## Reading the parts -/

namespace Parser

/-- What is true of single steps is true of steps in a row, with the parts that they read, as far as
these read no terminal. -/
structure AssemblesAround (holds : Parser → List Part → Parser → Prop) : Prop where
  /-- Nothing is done. -/
  refl (parser : Parser) : holds parser [] parser
  /-- One thing is done after another. -/
  trans {parser middle after : Parser} {parts further : List Part} : holds parser parts middle →
    holds middle further after → holds parser (parts ++ further) after
  /-- A token is taken. -/
  takes {parser after : Parser} {rules : List String} {token : Token} :
    parser.Takes rules token after → holds parser [] after
  /-- Code is read. -/
  code {parser after : Parser} {code : CodeSegment} :
    (codeSegment parser).Gives code after → holds parser [.code code] after

/-- What is true of single steps is true of steps in a row, with the parts that they read. -/
structure Assembles (holds : Parser → List Part → Parser → Prop) : Prop
    extends AssemblesAround holds where
  /-- A terminal is read. -/
  terminal {parser after : Parser} {id : TerminalId} :
    (terminal parser).Gives id after → holds parser [.terminal id] after
  /-- Something is told. -/
  tell (parser : Parser) (detail : Detail) (message : String) :
    holds parser [] (parser.tell detail message)

namespace AssemblesAround

variable {holds : Parser → List Part → Parser → Prop} (h : AssemblesAround holds)
  {parser middle after : Parser} {parts : List Part}

include h

/-- A token in front adds no part. -/
theorem taken {rules : List String} {token : Token} (htakes : parser.Takes rules token middle)
    (hafter : holds middle parts after) : holds parser parts after :=
  h.trans (h.takes htakes) hafter

/-- A token behind adds no part. -/
theorem takenBehind {rules : List String} {token : Token} (hmiddle : holds parser parts middle)
    (htakes : middle.Takes rules token after) : holds parser parts after :=
  List.append_nil parts ▸ h.trans hmiddle (h.takes htakes)

theorem rangeSuffix {suffix : Suffix} (hgives : (rangeSuffix parser).Gives suffix after) :
    holds parser [] after := by
  obtain ⟨opening, inside, hopening, lowest, atUpper, hlowest, upper, atEnd, hupper, closing,
    hclosing, -⟩ := rangeSuffix_gives.1 hgives
  have hatEnd : holds atUpper [] atEnd := by
    obtain ⟨comma, middle, hcomma, hbound⟩ | ⟨-, -, rfl⟩ := hupper
    · obtain ⟨highest, hhighest, -⟩ | ⟨-, -, rfl⟩ := upperBound_gives.1 hbound
      · exact h.taken hcomma (h.takes hhighest)
      · exact h.takes hcomma
    · exact h.refl atUpper
  exact h.taken hopening (h.taken hlowest (h.takenBehind hatEnd hclosing))

theorem suffixes {parser after : Parser} {found : List Suffix}
    (hgives : (parser.suffixes).Gives found after) : holds parser [] after := by
  obtain ⟨sign, middle, hsign, others, hmore, -⟩ | ⟨-, ⟨-, first, middle, hfirst, others, hmore,
    -⟩ | ⟨-, -, rfl⟩⟩ := suffixes_gives.1 hgives
  · exact h.taken hsign (suffixes hmore)
  · exact h.trans (h.rangeSuffix hfirst) (suffixes hmore)
  · exact h.refl parser
termination_by parser.remaining
decreasing_by
  · have hless := hsign.remaining_le
    omega
  · have hless := hfirst.remaining_le
    omega

theorem codeInFront {predicate code : Option CodeSegment}
    (hgives : (codeInFront parser).Gives (predicate, code) after) :
    holds parser (partsOfCode predicate ++ partsOfCode code) after := by
  obtain ⟨-, first, middle, hfirst, ⟨mark, behind, hmark, rfl, ⟨-, second, hsecond, rfl⟩ |
    ⟨-, rfl, rfl⟩⟩ | ⟨-, rfl, rfl, rfl⟩⟩ | ⟨-, rfl, rfl, rfl⟩ := codeInFront_gives.1 hgives
  · exact h.trans (h.code hfirst) (h.taken hmark (h.code hsecond))
  · exact h.takenBehind (h.code hfirst) hmark
  · exact h.code hfirst
  · exact h.refl parser

theorem labelName {label : Option String} (hgives : (labelName parser).Gives label after) :
    holds parser [] after := by
  obtain ⟨-, name, middle, hname, equals, hequals, -⟩ | ⟨-, -, rfl⟩ := labelName_gives.1 hgives
  · exact h.taken hname (h.takes hequals)
  · exact h.refl parser

theorem codeBehind {code : Option CodeSegment} (hgives : (codeBehind parser).Gives code after) :
    holds parser (partsOfCode code) after := by
  obtain ⟨-, segment, hsegment, rfl⟩ | ⟨-, rfl, rfl⟩ := codeBehind_gives.1 hgives
  · exact h.code hsegment
  · exact h.refl parser

end AssemblesAround

namespace Assembles

variable {holds : Parser → List Part → Parser → Prop} (h : Assembles holds)
  {parser after : Parser}

include h

mutual

theorem branches {parser after : Parser} {found : List Branch}
    (hgives : (parser.branches).Gives found after) :
    holds parser (partsOfBranches found) after := by
  obtain ⟨⟨span, inner⟩, middle, hfirst, ⟨bar, behind, hbar, others, hmore, rfl⟩ |
    ⟨-, rfl, rfl⟩⟩ := branches_gives.1 hgives
  · have hmiddle := components (branch_gives.1 hfirst).1
    exact h.trans hmiddle (h.taken hbar (branches hmore))
  · simpa only [partsOfBranches, Branch.parts, List.append_nil]
      using components (branch_gives.1 hfirst).1
termination_by 4 * parser.remaining + 3
decreasing_by
  · omega
  · have hless := hfirst.remaining_le
    have hless' := hbar.remaining_le
    omega
  · omega

theorem components {parser after : Parser} {found : List Component}
    (hgives : (parser.components).Gives found after) :
    holds parser (partsOfComponents found) after := by
  obtain ⟨-, rfl, rfl⟩ | ⟨-, first, middle, hfirst, others, hmore, rfl⟩ := components_gives.1 hgives
  · exact h.refl parser
  · exact h.trans (component hfirst) (components hmore)
termination_by 4 * parser.remaining + 2
decreasing_by
  · omega
  · have hless := hfirst.remaining_le
    omega

theorem component {parser after : Parser} {found : Component}
    (hgives : (parser.component).Gives found after) : holds parser found.parts after := by
  obtain ⟨atLabel, hinFront, atElement, hlabel, atSuffixes, helement, atCode, hsuffixes, hbehind,
    -⟩ := component_gives.1 hgives
  obtain ⟨span, label, predicate, codeBefore, inner, suffixes, codeAfter⟩ := found
  have hbefore := h.trans (h.codeInFront hinFront) (h.labelName hlabel)
  have hbehind := h.trans (h.suffixes hsuffixes) (h.codeBehind hbehind)
  simpa only [List.append_nil, List.nil_append, Component.parts]
    using h.trans (h.trans hbefore (element helement)) hbehind
termination_by 4 * parser.remaining + 1
decreasing_by
  have hless := hinFront.remaining_le
  have hless' := hlabel.remaining_le
  omega

theorem element {parser after : Parser} {found : Element}
    (hgives : (parser.element).Gives found after) : holds parser found.parts after := by
  obtain ⟨sign, middle, hsign, inner, hinner, rfl⟩ | ⟨-, ⟨opening, inside, hopening, inner, behind,
    hinner, closing, hclosing, rfl⟩ | ⟨-, id, hterminal, rfl⟩⟩ := element_gives.1 hgives
  · have hinside := element hinner
    exact h.taken hsign hinside
  · have hinside := branches hinner
    exact h.takenBehind (h.taken hopening hinside) hclosing
  · exact h.terminal hterminal
termination_by 4 * parser.remaining
decreasing_by
  · have hless := hsign.remaining_le
    omega
  · have hless := hopening.remaining_le
    omega

end

theorem production {found : Production} (hgives : (parser.production).Gives found after) :
    holds parser (partsOfBranches found.branches) after := by
  obtain ⟨name, atColon, hname, colon, inside, hcolon, atEnd, hbranches, semicolon, last,
    hsemicolon, -, rfl, -⟩ := production_gives.1 hgives
  have hlast := h.takenBehind (h.taken hname (h.taken hcolon (h.branches hbranches))) hsemicolon
  exact List.append_nil (partsOfBranches found.branches) ▸ h.trans hlast (h.tell ..)

theorem productions {parser after : Parser} {found : List Production}
    (hgives : (parser.productions).Gives found after) :
    holds parser (partsOfProductions found) after := by
  obtain ⟨-, first, middle, hfirst, others, hmore, rfl⟩ | ⟨-, rfl, rfl⟩ := productions_gives.1 hgives
  · exact h.trans (h.production hfirst) (productions hmore)
  · exact h.refl parser
termination_by parser.remaining
decreasing_by
  have hless := hfirst.remaining_le
  omega

end Assembles

end Parser

end GrammarLang.Grammar
