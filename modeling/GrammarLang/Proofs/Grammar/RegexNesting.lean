import GrammarLang.Proofs.Grammar.Abreast
import GrammarLang.Proofs.Grammar.Brackets
import GrammarLang.Proofs.Grammar.RegexAgain
import GrammarLang.Proofs.Grammar.Unambiguous

/-! # Classes and groups in regular expressions

Which token sets of a regular expression stand in a class is told by reading them from left to right:
a **`ClassPlace`** keeps how many classes are open, and whether the last of them has only just been
opened, since a closing bracket is a member there. Token sets are **`Enclosed`** if all classes in them
are closed, and outside of classes groups are matched and there is no slash.

The parser nests classes and groups by calling itself, and keeps no count. Still, whatever it reads as
a disjunction is enclosed: **`regexDisjunction_encloses`**. -/

namespace GrammarLang.Grammar

open GrammarLang.Scan GrammarLang.Text

/-! ## Token sets of one rule -/

section

variable {set : TokenSet} {rule : String}

theorem surplus_of_rules {openings closings : List String} (h : set.rules = [rule]) :
    surplus openings closings [set] =
      (if rule ∈ openings then 1 else 0) - (if rule ∈ closings then 1 else 0) := by
  simp [surplus_singleton, contains_eq, h]

end

/-! ## Places with regard to classes -/

/-- The rules that open a class. -/
def classOpenings : List String := ["[", "[^"]

/-- The rules that open a group. -/
def groupOpenings : List String := ["(", "(?=", "(?!", "(?<=", "(?<!", Lexicon.regexGroupOpen]

/-- Where one is in a regular expression, with regard to its classes. -/
structure ClassPlace where
  /-- How many classes are open. -/
  depth : Nat
  /-- Whether a class has only just been opened. -/
  fresh : Bool
  deriving DecidableEq, Repr

namespace ClassPlace

/-- Outside of all classes. -/
def outside : ClassPlace := ⟨0, false⟩

/-- The place behind a token set. A closing bracket right behind an opening one is a member, and outside
of classes it stands for itself. -/
def next (place : ClassPlace) (set : TokenSet) : ClassPlace :=
  if classOpenings.any set.contains then ⟨place.depth + 1, true⟩
  else ⟨if set.contains "]" && !place.fresh then place.depth - 1 else place.depth, false⟩

/-- The place behind several token sets. -/
def behind (place : ClassPlace) (sets : List TokenSet) : ClassPlace := sets.foldl next place

/-- Those of several token sets that stand outside of classes, the opening ones of classes among
them. -/
def outer : ClassPlace → List TokenSet → List TokenSet
  | _, [] => []
  | place, set :: sets =>
    if place.depth = 0 then set :: outer (place.next set) sets else outer (place.next set) sets

variable {place : ClassPlace} {set : TokenSet} {sets further : List TokenSet} {rule : String}

@[simp] theorem behind_nil : place.behind [] = place := rfl

@[simp] theorem behind_cons : place.behind (set :: sets) = (place.next set).behind sets := rfl

@[simp] theorem behind_append :
    place.behind (sets ++ further) = (place.behind sets).behind further := List.foldl_append

@[simp] theorem outer_nil : place.outer [] = [] := rfl

theorem outer_outside_cons :
    outside.outer (set :: sets) = set :: (outside.next set).outer sets := rfl

theorem outer_inside_cons {depth : Nat} {fresh : Bool} :
    (ClassPlace.mk (depth + 1) fresh).outer (set :: sets) =
      ((ClassPlace.mk (depth + 1) fresh).next set).outer sets := rfl

theorem outer_append :
    place.outer (sets ++ further) = place.outer sets ++ (place.behind sets).outer further := by
  induction sets generalizing place with
  | nil => rfl
  | cons set sets ih =>
    rw [List.cons_append, outer, outer, behind_cons, ih]
    split <;> rfl

/-- The place behind a token set of one rule. -/
theorem next_of_rules (h : set.rules = [rule]) : place.next set =
    if rule ∈ classOpenings then ⟨place.depth + 1, true⟩
    else ⟨if rule = "]" ∧ place.fresh = false then place.depth - 1 else place.depth, false⟩ := by
  have hopens : classOpenings.any set.contains = decide (rule ∈ classOpenings) := by
    simp [classOpenings, contains_eq, h, eq_comm (b := rule)]
  have hcloses : set.contains "]" = decide (rule = "]") := by
    simp [contains_eq, h, eq_comm (b := rule)]
  rw [next, hopens, hcloses]
  simp only [decide_eq_true_eq, Bool.and_eq_true, Bool.not_eq_true']

/-- The place behind token sets is told by their rules. -/
theorem behind_congr {sets' : List TokenSet}
    (h : sets.map TokenSet.rules = sets'.map TokenSet.rules) :
    place.behind sets = place.behind sets' := by
  have hrules (sets : List TokenSet) : place.behind sets =
      (sets.map TokenSet.rules).foldl (fun place rules =>
        if classOpenings.any (· ∈ rules) then ⟨place.depth + 1, true⟩
        else ⟨if decide ("]" ∈ rules) && !place.fresh then place.depth - 1 else place.depth,
          false⟩) place := by
    rw [List.foldl_map, behind]
    congr 1
    funext place set
    rw [next, contains_eq]
  rw [hrules, hrules, h]

/-- Which of them stand outside of classes is told by their rules. -/
theorem outer_congr {sets' : List TokenSet}
    (h : sets.map TokenSet.rules = sets'.map TokenSet.rules) :
    (place.outer sets).map TokenSet.rules = (place.outer sets').map TokenSet.rules := by
  induction sets generalizing place sets' with
  | nil =>
    obtain rfl := List.map_eq_nil_iff.1 h.symm
    rfl
  | cons set sets ih =>
    obtain ⟨set', sets', rfl, hset, hsets⟩ := List.map_eq_cons_iff.1 h.symm
    have hnext : place.next set = place.next set' :=
      behind_congr (show [set].map TokenSet.rules = [set'].map TokenSet.rules by simp [hset])
    rw [outer, outer, hnext]
    split
    · rw [List.map_cons, List.map_cons, ih hsets.symm, hset]
    · exact ih hsets.symm

/-- Outside of classes, only the opening of one leads elsewhere. -/
theorem next_outside (h : set.rules = [rule]) (hrule : rule ∉ classOpenings) :
    outside.next set = outside := by
  rw [next_of_rules h, if_neg hrule]
  simp [outside]

end ClassPlace

/-! ## Enclosed token sets -/

/-- What is opened in some token sets is closed in them, and slashes stand in classes. -/
structure Enclosed (sets : List TokenSet) : Prop where
  /-- All classes are closed. -/
  outside : ClassPlace.outside.behind sets = .outside
  /-- Outside of classes, the openings of groups and closing parentheses match. -/
  groups : Matched groupOpenings [")"] (ClassPlace.outside.outer sets)
  /-- Outside of classes there is no slash. -/
  slash : ∀ set ∈ ClassPlace.outside.outer sets, ¬ Is set "/"

namespace Enclosed

variable {set : TokenSet} {sets further : List TokenSet} {rule : String}

/-- Whether token sets are enclosed is told by their rules. -/
theorem congr {sets' : List TokenSet} (h : Enclosed sets)
    (hrules : sets.map TokenSet.rules = sets'.map TokenSet.rules) : Enclosed sets' := by
  have houter : (ClassPlace.outside.outer sets).map TokenSet.rules =
      (ClassPlace.outside.outer sets').map TokenSet.rules := ClassPlace.outer_congr hrules
  refine ⟨(ClassPlace.behind_congr hrules).symm.trans h.outside, h.groups.congr houter, ?_⟩
  intro set' hset' his
  obtain ⟨set, hset, hsame⟩ := List.mem_map.1 (houter ▸ List.mem_map_of_mem hset')
  rw [is_iff_mem_rules, ← hsame] at his
  exact h.slash set hset (is_iff_mem_rules.2 his)

theorem nil : Enclosed [] := ⟨rfl, .nil, by simp⟩

theorem append (h : Enclosed sets) (h' : Enclosed further) : Enclosed (sets ++ further) := by
  have houter : ClassPlace.outside.outer (sets ++ further) =
      ClassPlace.outside.outer sets ++ ClassPlace.outside.outer further := by
    rw [ClassPlace.outer_append, h.outside]
  constructor
  · rw [ClassPlace.behind_append, h.outside, h'.outside]
  · rw [houter]
    exact h.groups.append h'.groups
  · rw [houter]
    exact List.forall_mem_append.2 ⟨h.slash, h'.slash⟩

/-- A token set that is neither a slash nor a bracket of a class or a group. The closing bracket of a
class is not one either, outside of classes. -/
theorem single (h : set.rules = [rule])
    (hplain : rule ∉ "/" :: ")" :: (classOpenings ++ groupOpenings)) : Enclosed [set] := by
  simp only [List.mem_cons, List.mem_append, not_or] at hplain
  obtain ⟨hslash, hcloses, hclass, hgroup⟩ := hplain
  have houter : ClassPlace.outside.outer [set] = [set] := rfl
  refine ⟨ClassPlace.next_outside h hclass, ?_, ?_⟩
  · rw [houter]
    refine .single ?_
    rw [surplus_of_rules h, if_neg hgroup, if_neg (by simpa using hcloses)]
    rfl
  · simpa [houter, is_iff_mem_rules, h, eq_comm] using hslash

/-- A group. -/
theorem group {opening closing : TokenSet} {inner : List TokenSet} (hopens : opening.rules = [rule])
    (hrule : rule ∈ groupOpenings) (h : Enclosed inner) (hcloses : closing.rules = [")"]) :
    Enclosed (opening :: inner ++ [closing]) := by
  have hapart : ∀ rule ∈ groupOpenings, rule ∉ "/" :: ")" :: classOpenings := by decide
  have hopening := hapart rule hrule
  simp only [List.mem_cons, not_or] at hopening
  obtain ⟨hslash, hparen, hclass⟩ := hopening
  have hinside : ClassPlace.outside.next opening = .outside := ClassPlace.next_outside hopens hclass
  have houter : ClassPlace.outside.outer (opening :: inner ++ [closing]) =
      opening :: ClassPlace.outside.outer inner ++ [closing] := by
    rw [List.cons_append, ClassPlace.outer_outside_cons, hinside, ClassPlace.outer_append, h.outside]
    rfl
  refine ⟨?_, ?_, ?_⟩
  · rw [List.cons_append, ClassPlace.behind_cons, hinside, ClassPlace.behind_append, h.outside]
    exact ClassPlace.next_outside hcloses (by decide)
  · rw [houter]
    refine .between ?_ h.groups ?_
    · rw [surplus_of_rules hopens, if_pos hrule, if_neg (by simpa using hparen)]
      rfl
    · rw [surplus_of_rules hcloses]
      rfl
  · rw [houter]
    simp only [List.cons_append, List.forall_mem_cons, List.forall_mem_append]
    exact ⟨by simpa [is_iff_mem_rules, hopens, eq_comm] using hslash, h.slash,
      by simp [is_iff_mem_rules, hcloses]⟩

end Enclosed

/-- Token sets of a class, from its opening bracket to the closing one. -/
structure IsClass (opening : TokenSet) (sets : List TokenSet) : Prop where
  /-- Behind the class one is where one was in front of it, and no class is fresh. -/
  behind : ∀ place : ClassPlace, place.behind sets = ⟨place.depth, false⟩
  /-- If the class stands outside of classes, then the only token set that does so is its opening. -/
  outer : ∀ place : ClassPlace, place.outer sets = if place.depth = 0 then [opening] else []

/-- Token sets of members of a class, in front of its closing bracket. A bracket that is a member comes
first of all, and is not among them. -/
structure AreMembers (sets : List TokenSet) : Prop where
  /-- Behind the members one is in the class. -/
  behind : ∀ (depth : Nat) (fresh : Bool),
    (ClassPlace.mk (depth + 1) fresh).behind sets = ⟨depth + 1, fresh && sets.isEmpty⟩
  /-- No member stands outside of classes. -/
  outer : ∀ (depth : Nat) (fresh : Bool), (ClassPlace.mk (depth + 1) fresh).outer sets = []

section

variable {opening closing bracket set : TokenSet} {sets further inner : List TokenSet} {rule : String}

theorem areMembers_nil : AreMembers [] := ⟨by simp, fun _ _ => rfl⟩

/-- A class is a member. -/
theorem AreMembers.nested (h : IsClass opening (set :: sets)) (h' : AreMembers further) :
    AreMembers (set :: sets ++ further) := by
  constructor
  · intro depth fresh
    rw [ClassPlace.behind_append, h.behind, h'.behind]
    simp
  · intro depth fresh
    rw [ClassPlace.outer_append, h.outer, h.behind, h'.outer]
    rfl

/-- What is not a bracket is a member. -/
theorem AreMembers.cons (h : set.rules = [rule]) (hrule : rule ∉ "]" :: classOpenings)
    (h' : AreMembers further) : AreMembers (set :: further) := by
  simp only [List.mem_cons, not_or] at hrule
  obtain ⟨hcloses, hopens⟩ := hrule
  have hnext (depth : Nat) (fresh : Bool) :
      (ClassPlace.mk (depth + 1) fresh).next set = ⟨depth + 1, false⟩ := by
    rw [ClassPlace.next_of_rules h, if_neg hopens]
    simp [hcloses]
  constructor
  · intro depth fresh
    rw [ClassPlace.behind_cons, hnext, h'.behind]
    simp
  · intro depth fresh
    rw [ClassPlace.outer_inside_cons, hnext, h'.outer]

/-- A bracket closes a class where it is not a member. -/
theorem IsClass.close (hopens : opening.rules = [rule]) (hrule : rule ∈ classOpenings)
    (hbehind : ∀ depth, (ClassPlace.mk (depth + 1) true).behind inner = ⟨depth + 1, false⟩)
    (houter : ∀ depth, (ClassPlace.mk (depth + 1) true).outer inner = [])
    (hcloses : closing.rules = ["]"]) : IsClass opening (opening :: inner ++ [closing]) := by
  have hopening (place : ClassPlace) : place.next opening = ⟨place.depth + 1, true⟩ := by
    rw [ClassPlace.next_of_rules hopens, if_pos hrule]
  constructor
  · intro place
    rw [List.cons_append, ClassPlace.behind_cons, hopening, ClassPlace.behind_append, hbehind,
      ClassPlace.behind_cons, ClassPlace.behind_nil, ClassPlace.next_of_rules hcloses,
      if_neg (by decide)]
    simp
  · intro place
    rw [List.cons_append, ClassPlace.outer, hopening, ClassPlace.outer_append, houter, hbehind]
    simp [ClassPlace.outer_inside_cons]

/-- A class without a bracket for a first member has some other one. -/
theorem IsClass.of_members (hopens : opening.rules = [rule]) (hrule : rule ∈ classOpenings)
    (hinner : AreMembers (set :: inner)) (hcloses : closing.rules = ["]"]) :
    IsClass opening (opening :: (set :: inner) ++ [closing]) := by
  refine .close hopens hrule (fun depth => ?_) (hinner.outer · true) hcloses
  rw [hinner.behind]
  simp

/-- A class may have a bracket for its first member. -/
theorem IsClass.of_bracket (hopens : opening.rules = [rule]) (hrule : rule ∈ classOpenings)
    (hmember : bracket.rules = ["]"]) (hinner : AreMembers inner) (hcloses : closing.rules = ["]"]) :
    IsClass opening (opening :: (bracket :: inner) ++ [closing]) := by
  have hnext (depth : Nat) : (ClassPlace.mk (depth + 1) true).next bracket = ⟨depth + 1, false⟩ := by
    rw [ClassPlace.next_of_rules hmember, if_neg (by decide)]
    simp
  refine .close hopens hrule (fun depth => ?_) (fun depth => ?_) hcloses
  · rw [ClassPlace.behind_cons, hnext, hinner.behind]
    rfl
  · rw [ClassPlace.outer_inside_cons, hnext, hinner.outer]

/-- A class is enclosed. -/
theorem IsClass.enclosed (h : IsClass opening sets) (hopens : opening.rules = [rule])
    (hrule : rule ∈ classOpenings) : Enclosed sets := by
  have hapart : ∀ rule ∈ classOpenings, rule ∉ "/" :: ")" :: groupOpenings := by decide
  have hopening := hapart rule hrule
  simp only [List.mem_cons, not_or] at hopening
  obtain ⟨hslash, hparen, hgroup⟩ := hopening
  have houter : ClassPlace.outside.outer sets = [opening] := h.outer _
  refine ⟨h.behind _, ?_, ?_⟩
  · rw [houter]
    refine .single ?_
    rw [surplus_of_rules hopens, if_neg hgroup, if_neg (by simpa using hparen)]
    rfl
  · simpa [houter, is_iff_mem_rules, hopens, eq_comm] using hslash

end

/-! ## What the parser reads -/

namespace Parser

variable {parser after : Parser} {entered : List String} {text : List Char} {set : TokenSet}

/-- Inside a regular expression every token set is of one rule. -/
theorem Stands.rules_inside (h : parser.Stands (Lexicon.regexMode :: entered) text)
    (hcurrent : parser.scanner.current = some set) : ∃ rule, set.rules = [rule] := by
  have hne : text ≠ [] := by
    rintro rfl
    rw [h.current_of_nil] at hcurrent
    contradiction
  obtain ⟨set', front, hcurrent', -, hwins⟩ := h.exists_current regexMode_ne hne
  obtain rfl : set = set' := Option.some.inj (hcurrent.symm.trans hcurrent')
  rw [← List.length_eq_one_iff]
  have hpos : 0 < set.rules.length := by simp [TokenSet.rules, TokenSet.toList]
  have hle : set.rules.length ≤ 1 := by
    rw [← hwins.names_eq, List.length_map]
    exact (names_tied h.table hwins.longest).resolve_right fun hkeyword =>
      absurd hkeyword.1 regexMode_ne
  omega

/-- A token that is taken inside a regular expression is all that there is in its token set. -/
theorem Takes.ruled {rules : List String} {token : Token}
    (h : parser.Stands (Lexicon.regexMode :: entered) text)
    (htakes : parser.Takes rules token after) :
    ∃ set rule, rule ∈ rules ∧ set.rules = [rule] ∧ parser.Skips set after ∧
      ∃ text', after.Stands (Lexicon.regexMode :: entered) text' := by
  obtain ⟨set, hskips, ⟨rule, hmem, his⟩, -⟩ := htakes.isOneOf
  obtain ⟨only, honly⟩ := h.rules_inside hskips.1
  have hrule : rule ∈ set.rules := is_iff_mem_rules.1 his
  rw [honly, List.mem_singleton] at hrule
  subst hrule
  exact ⟨set, rule, hmem, honly, hskips, _, (h.skip hskips).stands⟩

mutual

theorem regexClass_isClass {parser after : Parser} {entered : List String} {text : List Char}
    (h : parser.Stands (Lexicon.regexMode :: entered) text)
    (hgives : (regexClass parser).Gives () after) :
    ∃ opening sets rule, parser.SkipsAll (opening :: sets) after ∧ opening.rules = [rule] ∧
      rule ∈ classOpenings ∧ IsClass opening (opening :: sets) := by
  obtain ⟨token, inside, hopening, hinner⟩ := regexClass_gives.1 hgives
  obtain ⟨opening, rule, hrule, hopens, hfirst, text', hinside⟩ := hopening.ruled h
  obtain ⟨_, further, hbracket, behind, hmembers, _, hclosing⟩ |
    ⟨hlacks, behind, hmembers, _, hclosing⟩ := hinner
  · obtain ⟨bracket, _, hmem, hmember, hsecond, _, hfurther⟩ := hbracket.ruled hinside
    obtain rfl := List.mem_singleton.1 hmem
    obtain ⟨inner, hskips, hare⟩ := regexMembers_areMembers hfurther hmembers
    obtain ⟨-, _, hbehind⟩ := hskips.passes hfurther
    obtain ⟨closing, _, hmem, hcloses, hlast, -⟩ := hclosing.ruled hbehind
    obtain rfl := List.mem_singleton.1 hmem
    exact ⟨opening, bracket :: inner ++ [closing], rule,
      .cons hfirst ((SkipsAll.cons hsecond hskips).snoc hlast), hopens, hrule,
      .of_bracket hopens hrule hmember hare hcloses⟩
  · obtain ⟨inner, hskips, hare⟩ := regexMembers_areMembers hinside hmembers
    obtain ⟨-, _, hbehind⟩ := hskips.passes hinside
    have hsees := hclosing.exists_sees
    obtain ⟨closing, _, hmem, hcloses, hlast, -⟩ := hclosing.ruled hbehind
    obtain rfl := List.mem_singleton.1 hmem
    cases inner with
    | nil =>
      -- The bracket that closes the class would have been its first member.
      obtain rfl := hskips.eq_of_nil
      obtain ⟨rule, hrule, hsees⟩ := hsees
      rw [lacks_iff_sees.1 hlacks rule hrule] at hsees
      contradiction
    | cons set inner =>
      exact ⟨opening, set :: inner ++ [closing], rule, .cons hfirst (hskips.snoc hlast), hopens, hrule,
        .of_members hopens hrule hare hcloses⟩
termination_by 2 * parser.remaining
decreasing_by
  all_goals
    have hless := hopening.remaining_le
  · have hless' := hbracket.remaining_le
    omega
  · omega

theorem regexMembers_areMembers {parser after : Parser} {entered : List String} {text : List Char}
    (h : parser.Stands (Lexicon.regexMode :: entered) text)
    (hgives : (regexMembers parser).Gives () after) :
    ∃ sets, parser.SkipsAll sets after ∧ AreMembers sets := by
  obtain ⟨-, rfl⟩ | ⟨hcloses, -, ⟨-, middle, hclass, hmore⟩ | ⟨hopens, set, middle, hskips, hmore⟩⟩ :=
    regexMembers_gives.1 hgives
  · exact ⟨[], .nil, areMembers_nil⟩
  · obtain ⟨opening, sets, rule, hsets, -, -, hisClass⟩ := regexClass_isClass h hclass
    obtain ⟨-, _, hmiddle⟩ := hsets.passes h
    obtain ⟨further, hfurther, hare⟩ := regexMembers_areMembers hmiddle hmore
    exact ⟨opening :: sets ++ further, hsets.trans hfurther, .nested hisClass hare⟩
  · obtain ⟨rule, hrule⟩ := h.rules_inside hskips.1
    obtain ⟨further, hfurther, hare⟩ := regexMembers_areMembers (h.skip hskips).stands hmore
    refine ⟨set :: further, .cons hskips hfurther, .cons hrule ?_ hare⟩
    rw [seesAny_eq_false] at hopens
    have hsees : parser.sees rule = true := by
      rw [sees_iff_mem_rules hskips.1, hrule, List.mem_singleton]
    rintro hmem
    rcases List.mem_cons.1 hmem with rfl | hmem
    · rw [hcloses] at hsees
      contradiction
    · rw [hopens rule hmem] at hsees
      contradiction
termination_by 2 * parser.remaining + 1
decreasing_by
  · omega
  · have hless := hclass.remaining_le
    omega
  · have hless := hskips.remaining_le
    omega

end

/-- Inside a regular expression, enclosed token sets are skipped. -/
def SkipsEnclosed (parser after : Parser) : Prop :=
  ∀ entered text, parser.Stands (Lexicon.regexMode :: entered) text →
    ∃ sets, parser.SkipsAll sets after ∧ Enclosed sets

theorem SkipsEnclosed.refl (parser : Parser) : parser.SkipsEnclosed parser :=
  fun _ _ _ => ⟨[], .nil, .nil⟩

theorem SkipsEnclosed.trans {middle : Parser} (h : parser.SkipsEnclosed middle)
    (h' : middle.SkipsEnclosed after) : parser.SkipsEnclosed after := by
  intro entered text hstands
  obtain ⟨sets, hskips, hsets⟩ := h entered text hstands
  obtain ⟨-, text', hmiddle⟩ := hskips.passes hstands
  obtain ⟨further, hskips', hfurther⟩ := h' entered text' hmiddle
  exact ⟨sets ++ further, hskips.trans hskips', hsets.append hfurther⟩

theorem Takes.skipsEnclosed {rules : List String} {token : Token}
    (htakes : parser.Takes rules token after)
    (hplain : ∀ rule ∈ rules, rule ∉ "/" :: ")" :: (classOpenings ++ groupOpenings)) :
    parser.SkipsEnclosed after := by
  intro entered text h
  obtain ⟨set, rule, hrule, hrules, hskips, -⟩ := htakes.ruled h
  exact ⟨[set], .single hskips, .single hrules (hplain rule hrule)⟩

/-- A group encloses what is enclosed in it. -/
theorem SkipsEnclosed.group {inside behind : Parser} {openings : List String} {token token' : Token}
    (hopening : parser.Takes openings token inside) (hinner : inside.SkipsEnclosed behind)
    (hclosing : behind.Takes [")"] token' after)
    (hopenings : ∀ rule ∈ openings, rule ∈ groupOpenings) : parser.SkipsEnclosed after := by
  intro entered text h
  obtain ⟨opening, rule, hrule, hopens, hfirst, text', hinside⟩ := hopening.ruled h
  obtain ⟨sets, hskips, hsets⟩ := hinner entered text' hinside
  obtain ⟨-, _, hbehind⟩ := hskips.passes hinside
  obtain ⟨closing, _, hmem, hcloses, hlast, -⟩ := hclosing.ruled hbehind
  obtain rfl := List.mem_singleton.1 hmem
  exact ⟨opening :: sets ++ [closing], (SkipsAll.cons hfirst hskips).snoc hlast,
    .group hopens (hopenings rule hrule) hsets hcloses⟩

theorem regexClass_encloses (hgives : (regexClass parser).Gives () after) :
    parser.SkipsEnclosed after := by
  intro entered text h
  obtain ⟨opening, sets, rule, hskips, hopens, hrule, hisClass⟩ := regexClass_isClass h hgives
  exact ⟨opening :: sets, hskips, hisClass.enclosed hopens hrule⟩

theorem regexQuantifier_encloses (hgives : (regexQuantifier parser).Gives () after) :
    parser.SkipsEnclosed after := by
  obtain ⟨sign, middle, hsign, ⟨mark, hmark⟩ | ⟨-, rfl⟩⟩ | ⟨-, rfl⟩ :=
    regexQuantifier_gives.1 hgives
  · exact (hsign.skipsEnclosed (by decide)).trans (hmark.skipsEnclosed (by decide))
  · exact hsign.skipsEnclosed (by decide)
  · exact .refl parser

mutual

/-- What is read as a disjunction is enclosed. -/
theorem regexDisjunction_encloses {parser after : Parser}
    (hgives : (regexDisjunction parser).Gives () after) : parser.SkipsEnclosed after := by
  obtain ⟨middle, hfirst, ⟨bar, behind, hbar, hmore⟩ | ⟨-, rfl⟩⟩ := regexDisjunction_gives.1 hgives
  · have hmiddle := regexAlternative_encloses hfirst
    exact (hmiddle.trans (hbar.skipsEnclosed (by decide))).trans (regexDisjunction_encloses hmore)
  · exact regexAlternative_encloses hfirst
termination_by 4 * parser.remaining + 3
decreasing_by
  · omega
  · have hless := hfirst.remaining_le
    have hless' := hbar.remaining_le
    omega
  · omega

theorem regexAlternative_encloses {parser after : Parser}
    (hgives : (regexAlternative parser).Gives () after) : parser.SkipsEnclosed after := by
  obtain ⟨-, rfl⟩ | ⟨-, middle, hterm, hmore⟩ := regexAlternative_gives.1 hgives
  · exact .refl parser
  · exact (regexTerm_encloses hterm).trans (regexAlternative_encloses hmore)
termination_by 4 * parser.remaining + 2
decreasing_by
  · omega
  · have hless := hterm.remaining_le
    omega

theorem regexTerm_encloses {parser after : Parser} (hgives : (regexTerm parser).Gives () after) :
    parser.SkipsEnclosed after := by
  obtain ⟨sign, hsign⟩ | ⟨-, ⟨opening, inside, hopening, behind, hinner, closing, hclosing⟩ |
    ⟨-, middle, hatom, hquantifier⟩⟩ := regexTerm_gives.1 hgives
  · exact hsign.skipsEnclosed (by decide)
  · exact .group hopening (regexDisjunction_encloses hinner) hclosing (by decide)
  · exact (regexAtom_encloses hatom).trans (regexQuantifier_encloses hquantifier)
termination_by 4 * parser.remaining + 1
decreasing_by
  · have hless := hopening.remaining_le
    omega
  · omega

theorem regexAtom_encloses {parser after : Parser} (hgives : (regexAtom parser).Gives () after) :
    parser.SkipsEnclosed after := by
  obtain ⟨token, htoken⟩ | ⟨-, ⟨-, hclass⟩ |
    ⟨-, opening, inside, hopening, behind, hinner, closing, hclosing⟩⟩ := regexAtom_gives.1 hgives
  · exact htoken.skipsEnclosed (by decide)
  · exact regexClass_encloses hclass
  · exact .group hopening (regexDisjunction_encloses hinner) hclosing (by decide)
termination_by 4 * parser.remaining
decreasing_by
  have hless := hopening.remaining_le
  omega

end

end Parser

end GrammarLang.Grammar
