import GrammarLang.Proofs.Scan.Compiled

/-! # Rules with an index

Rules can be compiled in one pass that keeps two hash tables: one to find the rules of a mode, and one
to see whether a mode has a literal already. **`IndexedRules.compile`** does so. It comes to the same
as `RuleTable.compileRules`, and the tables lead to the same rules as a search does:
**`RuleTable.compile_indexed`**. -/

namespace GrammarLang.Scan

/-- Rules that are compiled one after another, with tables to find them by. -/
structure IndexedRules where
  /-- The rules, in the order they were declared. -/
  rules : List Rule
  /-- For each mode that has rules, the places of its rules among them. -/
  places : Std.HashMap String (List Nat)
  /-- For each literal in a mode, the name of its rule. -/
  literals : Std.HashMap (String × String) String

namespace IndexedRules

/-- No rules. -/
def empty : IndexedRules := ⟨[], ∅, ∅⟩

/-- One more rule, which is the last one of its mode. -/
def push (indexed : IndexedRules) (rule : Rule) : IndexedRules :=
  { indexed with
    rules := indexed.rules ++ [rule]
    places := indexed.places.insert rule.mode
      (indexed.places.getD rule.mode [] ++ [indexed.rules.length]) }

/-- Notes a literal, unless its mode has it already. -/
def note (indexed : IndexedRules) (spec : RuleSpec) : Except Error IndexedRules :=
  match spec.matcher with
  | .regex _ => .ok indexed
  | .literal text =>
    match indexed.literals[(spec.mode, text)]? with
    | some previous => .error (.duplicateLiteral spec.mode text previous spec.name)
    | none => .ok { indexed with literals := indexed.literals.insert (spec.mode, text) spec.name }

/-- Compiles one more declaration. -/
def add (unicode : Bool) (indexed : IndexedRules) (spec : RuleSpec) : Except Error IndexedRules :=
  match indexed.note spec with
  | .error error => .error error
  | .ok noted =>
    match spec.compile? unicode with
    | none => .error (.invalidPattern spec.name)
    | some rule => .ok (noted.push rule)

/-- Compiles declarations in one pass. -/
def compile (unicode : Bool) (specs : List RuleSpec) : Except Error IndexedRules :=
  specs.foldlM (add unicode) empty

/-- The rules that the table of places leads to. -/
def rulesInMode (indexed : IndexedRules) (mode : String) : List Rule :=
  (indexed.places.getD mode []).filterMap (indexed.rules[·]?)

/-- Whether a mode is in the table of places. -/
def hasMode (indexed : IndexedRules) (mode : String) : Bool := indexed.places.contains mode

/-! ## What the tables know -/

/-- The tables are right for the rules and the declarations that they come from. -/
structure Indexes (indexed : IndexedRules) (specs : List RuleSpec) : Prop where
  /-- Places are those of rules. -/
  place_lt : ∀ mode, ∀ place ∈ indexed.places.getD mode [], place < indexed.rules.length
  /-- The places of a mode lead to its rules, in order. -/
  rulesInMode_eq : ∀ mode, indexed.rulesInMode mode = indexed.rules.filter (·.mode = mode)
  /-- The modes are those of the rules. -/
  hasMode_eq : ∀ mode, indexed.hasMode mode = indexed.rules.any (·.mode = mode)
  /-- The literals are those declared. -/
  literals_eq : ∀ (spec : RuleSpec) (text : String), spec.matcher = .literal text →
    indexed.literals[(spec.mode, text)]? = (RuleTable.sameLiteral? specs spec).map RuleSpec.name

theorem indexes_empty : empty.Indexes [] where
  place_lt := by simp [empty]
  rulesInMode_eq := by simp [empty, rulesInMode]
  hasMode_eq := by simp [empty, hasMode]
  literals_eq := by simp [empty, RuleTable.sameLiteral?]

variable {indexed : IndexedRules} {specs : List RuleSpec}

/-- Places keep leading to their rules when a rule is added behind them. -/
theorem filterMap_places_concat {places : List Nat} {rules : List Rule}
    (h : ∀ place ∈ places, place < rules.length) (rule : Rule) :
    places.filterMap ((rules ++ [rule])[·]?) = places.filterMap (rules[·]?) :=
  List.filterMap_congr fun place hplace => List.getElem?_append_left (h place hplace)

theorem getD_places_push (indexed : IndexedRules) (rule : Rule) (mode : String) :
    (indexed.push rule).places.getD mode [] =
      if rule.mode = mode then indexed.places.getD mode [] ++ [indexed.rules.length]
      else indexed.places.getD mode [] := by
  rw [push, Std.HashMap.getD_insert]
  by_cases hmode : rule.mode = mode
  · subst hmode
    simp
  · simp [hmode]

/-- A rule is added to the table of places. -/
theorem Indexes.push (h : indexed.Indexes specs) (rule : Rule) : (indexed.push rule).Indexes specs where
  place_lt mode place hplace := by
    have hlength : (indexed.push rule).rules.length = indexed.rules.length + 1 := by
      simp [IndexedRules.push]
    rw [getD_places_push] at hplace
    have hold := h.place_lt mode place
    split at hplace
    · rcases List.mem_append.1 hplace with hplace | hplace
      · have := hold hplace
        omega
      · rw [List.mem_singleton.1 hplace]
        omega
    · have := hold hplace
      omega
  rulesInMode_eq mode := by
    have hold := h.rulesInMode_eq mode
    rw [IndexedRules.rulesInMode] at hold
    rw [IndexedRules.rulesInMode, getD_places_push]
    show List.filterMap ((indexed.rules ++ [rule])[·]?) _ = (indexed.rules ++ [rule]).filter _
    rw [List.filter_append, ← hold]
    split
    · rename_i hmode
      rw [List.filterMap_append, filterMap_places_concat (h.place_lt mode)]
      simp [hmode]
    · rename_i hmode
      rw [filterMap_places_concat (h.place_lt mode)]
      simp [hmode]
  hasMode_eq mode := by
    have hold := h.hasMode_eq mode
    rw [IndexedRules.hasMode] at hold
    simp [IndexedRules.hasMode, IndexedRules.push, Std.HashMap.contains_insert, hold, Bool.or_comm,
      beq_eq_decide]
  literals_eq := h.literals_eq

/-- The first declaration of a literal stays the first one when another is added behind it. -/
theorem sameLiteral?_concat (specs : List RuleSpec) (spec other : RuleSpec) :
    RuleTable.sameLiteral? (specs ++ [spec]) other =
      (RuleTable.sameLiteral? specs other).or (RuleTable.sameLiteral? [spec] other) :=
  List.find?_append

/-- A literal that its mode does not have yet is added to the table of literals. -/
theorem Indexes.insert {spec : RuleSpec} {text : String} (h : indexed.Indexes specs)
    (htext : spec.matcher = .literal text) (hnew : RuleTable.sameLiteral? specs spec = none) :
    Indexes { indexed with literals := indexed.literals.insert (spec.mode, text) spec.name }
      (specs ++ [spec]) where
  place_lt := h.place_lt
  rulesInMode_eq := h.rulesInMode_eq
  hasMode_eq := h.hasMode_eq
  literals_eq other text' htext' := by
    have hold := h.literals_eq other text' htext'
    rw [Std.HashMap.getElem?_insert, sameLiteral?_concat, hold]
    by_cases hsame : spec.mode = other.mode ∧ text = text'
    · -- None of the earlier declarations is of the literal, so the new one is the first.
      obtain ⟨hmode, rfl⟩ := hsame
      have hnone : RuleTable.sameLiteral? specs other = none := by
        rw [← hnew]
        simp [RuleTable.sameLiteral?, hmode, htext, htext']
      rw [hnone]
      simp [RuleTable.sameLiteral?, hmode, htext, htext', Matcher.isLiteral]
    · have hother : ((spec.mode, text) == (other.mode, text')) = false := by
        simpa using hsame
      have hnone : RuleTable.sameLiteral? [spec] other = none := by
        simpa [RuleTable.sameLiteral?, htext, htext', Matcher.isLiteral] using hsame
      rw [hother, hnone, Option.or_none]
      rfl

/-- A regular expression leaves the table of literals as it is. -/
theorem Indexes.skip {spec : RuleSpec} {pattern : String} (h : indexed.Indexes specs)
    (hpattern : spec.matcher = .regex pattern) : indexed.Indexes (specs ++ [spec]) where
  place_lt := h.place_lt
  rulesInMode_eq := h.rulesInMode_eq
  hasMode_eq := h.hasMode_eq
  literals_eq other text htext := by
    have hnone : RuleTable.sameLiteral? [spec] other = none := by
      simp [RuleTable.sameLiteral?, hpattern, htext]
    rw [h.literals_eq other text htext, sameLiteral?_concat, hnone, Option.or_none]

/-! ## One pass -/

/-- A literal is refused by the table just if a search finds an earlier one. -/
theorem Indexes.note_error {spec previous : RuleSpec} {text : String} (h : indexed.Indexes specs)
    (htext : spec.matcher = .literal text)
    (hsame : RuleTable.sameLiteral? specs spec = some previous) :
    indexed.note spec = .error (.duplicateLiteral spec.mode text previous.name spec.name) := by
  have hfound := h.literals_eq spec text htext
  rw [hsame, Option.map_some] at hfound
  simp only [note, htext, hfound]

theorem Indexes.note_ok {spec : RuleSpec} (h : indexed.Indexes specs)
    (hsame : RuleTable.sameLiteral? specs spec = none) :
    ∃ noted, indexed.note spec = .ok noted ∧ noted.Indexes (specs ++ [spec]) ∧
      noted.rules = indexed.rules := by
  cases hmatcher : spec.matcher with
  | regex pattern => exact ⟨indexed, by simp only [note, hmatcher], h.skip hmatcher, rfl⟩
  | literal text =>
    have hfound := h.literals_eq spec text hmatcher
    rw [hsame, Option.map_none] at hfound
    exact ⟨_, by simp only [note, hmatcher, hfound], h.insert hmatcher hsame, rfl⟩

/-- Compiling on with the tables comes to the same as compiling on with a search. -/
theorem Indexes.foldlM_add {earlier : List RuleSpec} (h : indexed.Indexes earlier) (unicode : Bool)
    (specs : List RuleSpec) :
    match RuleTable.compileRules unicode earlier specs with
    | .ok rules => ∃ after, specs.foldlM (add unicode) indexed = .ok after ∧
        after.Indexes (earlier ++ specs) ∧ after.rules = indexed.rules ++ rules
    | .error error => specs.foldlM (add unicode) indexed = .error error := by
  -- The tables stay right for all declarations so far, those in `earlier` among them.
  induction specs generalizing earlier indexed with
  | nil => exact ⟨indexed, rfl, by rwa [List.append_nil], by rw [List.append_nil]⟩
  | cons spec specs ih =>
    cases hsame : RuleTable.sameLiteral? earlier spec with
    | some previous =>
      obtain ⟨text, htext⟩ := RuleTable.isLiteral_of_sameLiteral? hsame
      have hadd : indexed.add unicode spec =
          .error (.duplicateLiteral spec.mode text previous.name spec.name) := by
        simp only [add, h.note_error htext hsame]
      simp only [RuleTable.compileRules, hsame, htext, List.foldlM_cons, hadd]
      rfl
    | none =>
      obtain ⟨noted, hnote, hnoted, hrules⟩ := h.note_ok hsame
      cases hcompile : spec.compile? unicode with
      | none =>
        have hadd : indexed.add unicode spec = .error (.invalidPattern spec.name) := by
          simp only [add, hnote, hcompile]
        simp only [RuleTable.compileRules, hsame, hcompile, List.foldlM_cons, hadd]
        rfl
      | some rule =>
        have hadd : indexed.add unicode spec = .ok (noted.push rule) := by
          simp only [add, hnote, hcompile]
        have hothers := ih (hnoted.push rule)
        simp only [RuleTable.compileRules, hsame, hcompile, List.foldlM_cons, hadd]
        cases hspecs : RuleTable.compileRules unicode (earlier ++ [spec]) specs with
        | error error =>
          rw [hspecs] at hothers
          exact hothers
        | ok rules =>
          rw [hspecs] at hothers
          obtain ⟨after, hafter, hindexes, hlast⟩ := hothers
          refine ⟨after, hafter, by rwa [List.append_assoc] at hindexes, ?_⟩
          rw [hlast, IndexedRules.push, hrules, List.append_assoc]
          rfl

end IndexedRules

/-- What compiling with tables gives is what compiling with a search gives, and the tables of a mode
lead to what a search for its rules finds. -/
theorem RuleTable.compile_indexed (name : String) (unicode : Bool) (specs : List RuleSpec) :
    match compile name unicode specs with
    | .ok table => ∃ indexed, IndexedRules.compile unicode specs = .ok indexed ∧
        indexed.rules = table.rules ∧ ∀ mode,
          indexed.rulesInMode mode = table.rulesInMode mode ∧
            indexed.hasMode mode = table.hasMode mode
    | .error error => IndexedRules.compile unicode specs = .error error := by
  have hpass := IndexedRules.indexes_empty.foldlM_add unicode specs
  rw [compile]
  cases hrules : compileRules unicode [] specs with
  | error error =>
    rw [hrules] at hpass
    exact hpass
  | ok rules =>
    rw [hrules] at hpass
    obtain ⟨indexed, hcompile, hindexes, hlast⟩ := hpass
    have hlast : indexed.rules = rules := hlast
    refine ⟨indexed, hcompile, hlast, fun mode => ⟨?_, ?_⟩⟩
    · rw [hindexes.rulesInMode_eq, hlast]
      rfl
    · rw [hindexes.hasMode_eq, hlast]
      rfl

end GrammarLang.Scan
