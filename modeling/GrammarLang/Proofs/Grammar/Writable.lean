import Mathlib.Data.List.Induction
import Mathlib.Data.List.Nodup
import GrammarLang.Grammar.Parse
import GrammarLang.Proofs.Grammar.CodeWords
import GrammarLang.Proofs.Grammar.Leads

/-! # Grammars that can be written

A grammar that is to be read back from its own notation has names that are names, suffixes that are
written with their signs, branches wherever there is a choice, and code that ends where its brace
closes it: **`Writable`**. Its arena has the terminals in the order in which they occur first, each of
them once: **`InOrder`**. -/

namespace GrammarLang.Grammar

open GrammarLang.Text

/-! ## Parts of a grammar -/

/-- The suffix is the usual one for its bounds, which are in order. -/
structure Suffix.Canonical (suffix : Suffix) : Prop where
  /-- A sign of its own is used where there is one. -/
  usual : Suffix.ofBounds suffix.bounds.1 suffix.bounds.2 = suffix
  /-- The lower bound is not above the upper one. -/
  le : ∀ upper ∈ suffix.bounds.2, suffix.bounds.1 ≤ upper

/-- The terminal can be written: a name is a name, and a set of texts is given by an expression and
flags that were read somewhere. -/
def Terminal.Writable : Terminal → Prop
  | ident name => IsName name.toList
  | string _ => True
  | number _ => True
  | set regexSet => ∃ source grammar other, (parse source).result = .ok grammar ∧
      .set other ∈ grammar.arena.terminals ∧ other.source = regexSet.source ∧
      other.flags = regexSet.flags

/-- The brace behind the code closes it, whatever follows. -/
def CodeSegment.Closed (code : CodeSegment) : Prop := ClosesAlways code.text.toList

/-- Code without quotes, slashes and braces is closed. -/
theorem CodeSegment.closed_of_codeChars {code : CodeSegment}
    (h : ∀ c ∈ code.text.toList, isCodeChar c = true) : code.Closed :=
  closesAlways_of_codeChars h

/-- The code does not start with a number, so that its brace opens no range. -/
def CodeSegment.Unnumbered (code : CodeSegment) : Prop :=
  ∀ behind, (lead (code.text.toList ++ '\x7d' :: behind)).any isDigit = false

/-- There is no code in front of the component. -/
def Component.Bare (component : Component) : Prop :=
  component.predicate = none ∧ component.codeBefore = none

mutual

/-- The components of the branch can be written. -/
def Branch.Writable (arena : Arena) : Branch → Prop
  | ⟨_, components⟩ => WritableComponents arena components

/-- Each of the components can be written, and code between two of them belongs to the first one
before it belongs to the second one. -/
def WritableComponents (arena : Arena) : List Component → Prop
  | [] => True
  | first :: others => first.Writable arena ∧ WritableComponents arena others ∧
      (first.codeAfter = none → ∀ second ∈ others.head?, second.Bare)

/-- The component can be written: its code is closed, its label is a name, and so on. -/
def Component.Writable (arena : Arena) : Component → Prop
  | ⟨_, label, predicate, codeBefore, element, suffixes, codeAfter⟩ =>
    ((∀ code ∈ predicate, code.Closed) ∧ (∀ code ∈ codeBefore, code.Closed) ∧
      ∀ code ∈ codeAfter, code.Closed ∧ code.Unnumbered) ∧
      (∀ name ∈ label, IsName name.toList) ∧ element.Writable arena ∧
      ∀ suffix ∈ suffixes, suffix.Canonical

/-- The element can be written: a terminal is there, and a group has branches. -/
def Element.Writable (arena : Arena) : Element → Prop
  | .terminal id => ∃ terminal, arena.get? id = some terminal ∧ terminal.Writable
  | .group _ branches => branches ≠ [] ∧ WritableBranches arena branches
  | .negation inner => inner.Writable arena

/-- Each of the branches can be written. -/
def WritableBranches (arena : Arena) : List Branch → Prop
  | [] => True
  | first :: others => first.Writable arena ∧ WritableBranches arena others

end

/-- The production can be written. -/
structure Production.Writable (arena : Arena) (production : Production) : Prop where
  /-- Its name is one. -/
  name : IsName production.name.toList
  /-- It has branches. -/
  ne_nil : production.branches ≠ []
  /-- They can be written. -/
  branches : WritableBranches arena production.branches

/-- The grammar can be written. -/
structure Writable (grammar : Grammar) : Prop where
  /-- Its name is one. -/
  name : IsName grammar.name.toList
  /-- Its productions can be written. -/
  productions : ∀ production ∈ grammar.productions, production.Writable grammar.arena

/-! ## Terminals in order -/

mutual

/-- The terminals of a branch, in order. -/
def Branch.leaves : Branch → List TerminalId
  | ⟨_, components⟩ => leavesOfComponents components

/-- The terminals of components, in order. -/
def leavesOfComponents : List Component → List TerminalId
  | [] => []
  | first :: others => first.leaves ++ leavesOfComponents others

/-- The terminals of a component, in order. -/
def Component.leaves : Component → List TerminalId
  | ⟨_, _, _, _, element, _, _⟩ => element.leaves

/-- The terminals of an element, in order. -/
def Element.leaves : Element → List TerminalId
  | .terminal id => [id]
  | .group _ branches => leavesOfBranches branches
  | .negation inner => inner.leaves

/-- The terminals of branches, in order. -/
def leavesOfBranches : List Branch → List TerminalId
  | [] => []
  | first :: others => first.leaves ++ leavesOfBranches others

end

/-- The terminals of productions, in order. -/
def leavesOfProductions (productions : List Production) : List TerminalId :=
  productions.flatMap fun production => leavesOfBranches production.branches

namespace Arena

/-- What makes each terminal of the arena the same as another one. -/
def keys (arena : Arena) : List TerminalKey := arena.terminals.map Terminal.key

end Arena

/-- The arena lists the terminals of the grammar in the order in which they occur first, and no two
of them are the same. -/
structure InOrder (grammar : Grammar) : Prop where
  /-- Terminals occur first in the order of the arena. -/
  first : (leavesOfProductions grammar.productions).eraseDups = grammar.arena.ids
  /-- They are all different. -/
  nodup : grammar.arena.keys.Nodup

/-! ## Counting terminals -/

/-- Where `known` terminals have been met before, these are either among them or the next new one, and
then `later` terminals have been met. -/
inductive Numbered : Nat → List TerminalId → Nat → Prop
  /-- There are none. -/
  | nil {known : Nat} : Numbered known [] known
  /-- The first one has been met before. -/
  | old {known later : Nat} {id : TerminalId} {ids : List TerminalId} (met : id.index < known)
      (others : Numbered known ids later) : Numbered known (id :: ids) later
  /-- The first one is new. -/
  | new {known later : Nat} {id : TerminalId} {ids : List TerminalId} (next : id.index = known)
      (others : Numbered (known + 1) ids later) : Numbered known (id :: ids) later

theorem numbered_append {known later : Nat} {ids further : List TerminalId} :
    Numbered known (ids ++ further) later ↔
      ∃ middle, Numbered known ids middle ∧ Numbered middle further later := by
  constructor
  · intro h
    induction ids generalizing known with
    | nil => exact ⟨known, .nil, h⟩
    | cons id ids ih =>
      cases h with
      | old met others =>
        obtain ⟨middle, hids, hfurther⟩ := ih others
        exact ⟨middle, .old met hids, hfurther⟩
      | new next others =>
        obtain ⟨middle, hids, hfurther⟩ := ih others
        exact ⟨middle, .new next hids, hfurther⟩
  · rintro ⟨middle, hids, hfurther⟩
    induction hids with
    | nil => exact hfurther
    | old met _ ih => exact .old met (ih hfurther)
    | new next _ ih => exact .new next (ih hfurther)

/-- Terminals that occur first in order are numbered. -/
theorem numbered_of_eraseDups {ids : List TerminalId} {count : Nat}
    (h : ids.eraseDups = (List.range count).map TerminalId.mk) : Numbered 0 ids count := by
  -- The last one is among those before it, or it is the next new one.
  induction ids using List.reverseRecOn generalizing count with
  | nil =>
    rw [List.eraseDups_nil, eq_comm, List.map_eq_nil_iff, List.range_eq_nil] at h
    rw [h]
    exact .nil
  | append_singleton ids id ih =>
    rw [List.eraseDups_append] at h
    rw [numbered_append]
    by_cases hmem : id ∈ ids
    · have hnone : [id].removeAll ids = [] := by simp [List.removeAll, hmem]
      rw [hnone, List.eraseDups_nil, List.append_nil] at h
      have hlt : id ∈ ids.eraseDups := List.mem_eraseDups.2 hmem
      rw [h, List.mem_map] at hlt
      obtain ⟨index, hindex, rfl⟩ := hlt
      exact ⟨count, ih h, .old (List.mem_range.1 hindex) .nil⟩
    · have hall : ([id].removeAll ids).eraseDups = [id] := by
        simp [List.removeAll, hmem, List.eraseDups_cons]
      rw [hall] at h
      cases count with
      | zero => simp at h
      | succ count =>
        rw [List.range_succ, List.map_append] at h
        obtain ⟨hids, hlast⟩ := List.append_inj' h (by simp)
        have hid : id.index = count := by
          have hlast : id = ⟨count⟩ := by simpa using hlast
          rw [hlast]
        exact ⟨count, ih hids, .new hid .nil⟩

/-- The terminals of a grammar in order are numbered. -/
theorem InOrder.numbered {grammar : Grammar} (h : grammar.InOrder) :
    Numbered 0 (leavesOfProductions grammar.productions) grammar.arena.size :=
  numbered_of_eraseDups h.first

namespace Arena

variable {arena other : Arena} {known later : Nat} {id : TerminalId} {terminal : Terminal}

@[simp] theorem length_keys (arena : Arena) : arena.keys.length = arena.size := by
  rw [keys, List.length_map, size]

/-- A terminal is found by what makes it the same as another one. -/
theorem findIdx?_same (arena : Arena) (terminal : Terminal) :
    arena.terminals.findIdx? terminal.same = arena.keys.findIdx? (terminal.key = ·) := by
  rw [keys, List.findIdx?_map]
  rfl

/-- A terminal that has been met before is found where it is in the other arena. -/
theorem intern_old (h : arena.keys = other.keys.take known) (hnodup : other.keys.Nodup)
    (hget : other.keys[id.index]? = some terminal.key) (hlt : id.index < known) :
    arena.intern terminal = (id, arena) := by
  obtain ⟨hbound, hkey⟩ := List.getElem?_eq_some_iff.1 hget
  have hfound : arena.keys.findIdx? (terminal.key = ·) = some id.index := by
    rw [h, List.findIdx?_eq_some_iff_getElem]
    refine ⟨by rw [List.length_take]; omega, by simp [hkey], fun index hindex => ?_⟩
    rw [List.getElem_take, ← hkey, decide_eq_true_eq, hnodup.getElem_inj_iff]
    omega
  rw [intern, findIdx?_same, hfound]

/-- A new terminal is added behind those that have been met before. -/
theorem intern_new (h : arena.keys = other.keys.take known) (hnodup : other.keys.Nodup)
    (hget : other.keys[id.index]? = some terminal.key) (heq : id.index = known) :
    (arena.intern terminal).1 = id ∧
      (arena.intern terminal).2.keys = other.keys.take (known + 1) := by
  subst heq
  obtain ⟨hbound, hkey⟩ := List.getElem?_eq_some_iff.1 hget
  have hfresh : arena.keys.findIdx? (terminal.key = ·) = none := by
    rw [h, List.findIdx?_eq_none_iff]
    intro key hmem
    obtain ⟨index, hindex, rfl⟩ := List.mem_iff_getElem.1 hmem
    rw [List.length_take] at hindex
    rw [List.getElem_take, ← hkey, decide_eq_false_iff_not, hnodup.getElem_inj_iff]
    omega
  have hsize : arena.size = id.index := by
    rw [← length_keys, h, List.length_take]
    omega
  rw [intern, findIdx?_same, hfresh]
  refine ⟨by rw [hsize], ?_⟩
  rw [keys, List.map_append, List.take_add_one, hget]
  exact congrArg (· ++ [terminal.key]) h

/-- A terminal whose turn it is gets the place that it has in the other arena. -/
theorem intern_numbered (h : arena.keys = other.keys.take known) (hnodup : other.keys.Nodup)
    (hget : other.keys[id.index]? = some terminal.key) (hnumbered : Numbered known [id] later) :
    (arena.intern terminal).1 = id ∧ (arena.intern terminal).2.keys = other.keys.take later := by
  cases hnumbered with
  | old met others =>
    cases others
    rw [intern_old h hnodup hget met]
    exact ⟨rfl, h⟩
  | new next others =>
    cases others
    exact intern_new h hnodup hget next

end Arena

end GrammarLang.Grammar
