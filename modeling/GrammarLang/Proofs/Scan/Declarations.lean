import GrammarLang.Proofs.Scan.Indexed

/-! # Lists of declarations

A list of declarations is compiled as a whole or not at all, and **`compile_declarations`** says when
and to what. It is **`Compilable`** if every pattern is accepted and no mode has a literal twice. Then
the table is the one **`CompiledFrom`** it: it has the rules that are declared (**`Declares`**), in
order, and so has each of its modes. Otherwise the first declaration that cannot follow those in front
of it is named, and what is wrong with it: **`Refuses`**. -/

namespace GrammarLang.Scan

variable {unicode : Bool} {specs : List RuleSpec}

/-! ## Declared rules -/

/-- What is declared is a regular expression, when it is put into a group at the start of a text. -/
def RuleSpec.IsAccepted (unicode : Bool) (spec : RuleSpec) : Prop :=
  ∃ regex, Regex.compile? ⟨{ unicode }, false⟩ false spec.matcher.anchoredPattern = some regex

/-- A rule is the one that a declaration declares. -/
structure Declares (unicode : Bool) (spec : RuleSpec) (rule : Rule) : Prop where
  /-- It has the declared name. -/
  name_eq : rule.name = spec.name
  /-- Its pattern is the declared one, or the literal with its special characters escaped, in a group
  at the start of a text. -/
  pattern_eq : rule.pattern = String.ofList spec.matcher.anchoredPattern
  /-- It matches what the pattern means. -/
  regex_eq : Regex.compile? ⟨{ unicode }, false⟩ false spec.matcher.anchoredPattern = some rule.regex
  /-- It is tried in the declared mode. -/
  mode_eq : rule.mode = spec.mode
  /-- It is ignored if it is declared so. -/
  ignored_eq : rule.ignored = spec.ignored
  /-- It knows whether it was declared by a literal. -/
  isLiteral_eq : rule.isLiteral = spec.matcher.isLiteral
  /-- It reads values as declared. -/
  decoder_eq : rule.decoder = spec.decoder

theorem declares_iff {spec : RuleSpec} {rule : Rule} :
    Declares unicode spec rule ↔ spec.compile? unicode = some rule := by
  constructor
  · rintro ⟨hname, hpattern, hregex, hmode, hignored, hliteral, hdecoder⟩
    obtain ⟨name, pattern, regex, mode, ignored, isLiteral, decoder⟩ := rule
    cases hname
    cases hpattern
    cases hmode
    cases hignored
    cases hliteral
    cases hdecoder
    exact Option.bind_eq_some_iff.2 ⟨regex, hregex, rfl⟩
  · intro h
    obtain ⟨regex, hregex, hrule⟩ := Option.bind_eq_some_iff.1 h
    cases hrule
    exact ⟨rfl, rfl, hregex, rfl, rfl, rfl, rfl⟩

theorem isAccepted_iff {spec : RuleSpec} :
    spec.IsAccepted unicode ↔ ∃ rule, spec.compile? unicode = some rule := by
  constructor
  · rintro ⟨regex, hregex⟩
    exact ⟨_, Option.bind_eq_some_iff.2 ⟨regex, hregex, rfl⟩⟩
  · rintro ⟨rule, hrule⟩
    exact ⟨rule.regex, (declares_iff.2 hrule).regex_eq⟩

theorem exists_forall₂_of_accepted (h : ∀ spec ∈ specs, spec.IsAccepted unicode) :
    ∃ rules, List.Forall₂ (fun spec rule => spec.compile? unicode = some rule) specs rules := by
  induction specs with
  | nil => exact ⟨[], .nil⟩
  | cons spec specs ih =>
    obtain ⟨hspec, hspecs⟩ := List.forall_mem_cons.1 h
    obtain ⟨rule, hrule⟩ := isAccepted_iff.1 hspec
    obtain ⟨rules, hrules⟩ := ih hspecs
    exact ⟨rule :: rules, .cons hrule hrules⟩

/-! ## Lists that compile -/

/-- All of some declarations can be compiled together. -/
structure Compilable (unicode : Bool) (specs : List RuleSpec) : Prop where
  /-- Each of them is a regular expression. -/
  accepted : ∀ spec ∈ specs, spec.IsAccepted unicode
  /-- No two are of the same literal in the same mode. -/
  distinct : specs.Pairwise fun spec other => ¬ spec.Clashes other

theorem Compilable.concat {spec : RuleSpec} (h : Compilable unicode specs)
    (haccepted : spec.IsAccepted unicode) (hdistinct : ∀ earlier ∈ specs, ¬ earlier.Clashes spec) :
    Compilable unicode (specs ++ [spec]) where
  accepted := by
    rw [List.forall_mem_append, List.forall_mem_singleton]
    exact ⟨h.accepted, haccepted⟩
  distinct := by
    rw [List.pairwise_append]
    refine ⟨h.distinct, List.pairwise_singleton _ _, fun earlier hearlier other hother => ?_⟩
    rw [List.mem_singleton.1 hother]
    exact hdistinct earlier hearlier

/-- Declarations are compiled if that can be done. -/
theorem RuleTable.exists_compile_iff {name : String} :
    (∃ table, compile name unicode specs = .ok table) ↔ Compilable unicode specs := by
  have hcompile : (∃ table, compile name unicode specs = .ok table) ↔
      ∃ rules, compileRules unicode [] specs = .ok rules := by
    rw [compile]
    cases compileRules unicode [] specs with
    | error error => simp [Except.map]
    | ok rules => simp [Except.map]
  simp only [hcompile, compileRules_eq_ok_iff]
  constructor
  · rintro ⟨rules, hrules, hdistinct, -⟩
    refine ⟨fun spec hspec => isAccepted_iff.2 ?_, hdistinct⟩
    obtain ⟨place, hlt, rfl⟩ := List.mem_iff_getElem.1 hspec
    exact ⟨_, hrules.get hlt (hrules.length_eq ▸ hlt)⟩
  · intro h
    obtain ⟨rules, hrules⟩ := exists_forall₂_of_accepted h.accepted
    exact ⟨rules, hrules, h.distinct, by simp⟩

/-! ## Lists that are refused -/

/-- A declaration cannot follow those in `before`, for the reason given. -/
inductive Refuses (unicode : Bool) (before : List RuleSpec) (spec : RuleSpec) : Error → Prop
  /-- Its mode has the literal already. This is seen first, whether the pattern is accepted or not. -/
  | duplicate {earlier : RuleSpec} {text : String} (mem : earlier ∈ before)
      (mode_eq : earlier.mode = spec.mode) (earlier_eq : earlier.matcher = .literal text)
      (spec_eq : spec.matcher = .literal text) :
      Refuses unicode before spec (.duplicateLiteral spec.mode text earlier.name spec.name)
  /-- Its pattern is not accepted. -/
  | pattern (distinct : ∀ earlier ∈ before, ¬ earlier.Clashes spec)
      (rejected : ¬ spec.IsAccepted unicode) :
      Refuses unicode before spec (.invalidPattern spec.name)

/-- A list that is refused is refused for its first declaration that cannot follow those in front. -/
theorem RuleTable.exists_refuses {earlier : List RuleSpec} {error : Error}
    (hearlier : Compilable unicode earlier) (h : compileRules unicode earlier specs = .error error) :
    ∃ before spec behind, specs = before ++ spec :: behind ∧ Compilable unicode (earlier ++ before) ∧
      Refuses unicode (earlier ++ before) spec error := by
  -- What came earlier stays compilable as long as nothing is refused.
  induction specs generalizing earlier with
  | nil => contradiction
  | cons spec specs ih =>
    rw [compileRules] at h
    split at h
    · rename_i previous text hsame htext
      cases h
      have hprevious := List.find?_some hsame
      simp only [Bool.and_eq_true, decide_eq_true_eq] at hprevious
      obtain ⟨⟨-, hmode⟩, hmatcher⟩ := hprevious
      refine ⟨[], spec, specs, rfl, by rwa [List.append_nil], ?_⟩
      rw [List.append_nil]
      exact .duplicate (List.mem_of_find?_eq_some hsame) hmode (hmatcher.trans htext) htext
    · rename_i hpassed
      have hdistinct : ∀ other ∈ earlier, ¬ other.Clashes spec := by
        rw [← sameLiteral?_eq_none_iff, Option.eq_none_iff_forall_ne_some]
        intro previous hprevious
        obtain ⟨text, htext⟩ := isLiteral_of_sameLiteral? hprevious
        exact hpassed previous text hprevious htext
      split at h
      · rename_i hnone
        cases h
        refine ⟨[], spec, specs, rfl, by rwa [List.append_nil], ?_⟩
        rw [List.append_nil]
        refine .pattern hdistinct fun haccepted => ?_
        obtain ⟨rule, hrule⟩ := isAccepted_iff.1 haccepted
        rw [hnone] at hrule
        contradiction
      · rename_i rule hrule
        have hspec := hearlier.concat (isAccepted_iff.2 ⟨rule, hrule⟩) hdistinct
        cases hothers : compileRules unicode (earlier ++ [spec]) specs with
        | ok others =>
          rw [hothers] at h
          contradiction
        | error error' =>
          rw [hothers] at h
          cases h
          obtain ⟨before, refused, behind, rfl, hbefore, hrefuses⟩ := ih hspec hothers
          rw [List.append_assoc] at hbefore hrefuses
          exact ⟨spec :: before, refused, behind, rfl, hbefore, hrefuses⟩

/-! ## Modes -/

/-- The rules of each mode are those declared for it, in order. -/
theorem forall₂_filter_mode {rules : List Rule} (h : List.Forall₂ (Declares unicode) specs rules)
    (mode : String) :
    List.Forall₂ (Declares unicode) (specs.filter (·.mode = mode)) (rules.filter (·.mode = mode)) := by
  induction h with
  | nil => exact .nil
  | @cons spec rule specs rules hrule _ ih =>
    rw [List.filter_cons, List.filter_cons, hrule.mode_eq]
    split
    · exact .cons hrule ih
    · exact ih

theorem exists_mode_iff {rules : List Rule} (h : List.Forall₂ (Declares unicode) specs rules)
    (mode : String) : (∃ rule ∈ rules, rule.mode = mode) ↔ ∃ spec ∈ specs, spec.mode = mode := by
  induction h with
  | nil => simp
  | cons hrule _ ih => simp [hrule.mode_eq, ih]

/-- A table is what declarations are compiled to. -/
structure CompiledFrom (name : String) (unicode : Bool) (specs : List RuleSpec) (table : RuleTable) :
    Prop where
  /-- It has the name that was given. -/
  name_eq : table.name = name
  /-- Its rules are those declared, in order. -/
  rules : List.Forall₂ (Declares unicode) specs table.rules
  /-- The rules of a mode are those declared for it, in order. -/
  rulesInMode : ∀ mode,
    List.Forall₂ (Declares unicode) (specs.filter (·.mode = mode)) (table.rulesInMode mode)
  /-- It has the modes that rules are declared for. -/
  hasMode_iff : ∀ mode, table.hasMode mode = true ↔ ∃ spec ∈ specs, spec.mode = mode
  /-- Tables of places, filled while the rules are compiled, lead to the same rules. -/
  indexed : ∃ indexed, IndexedRules.compile unicode specs = .ok indexed ∧
    indexed.rules = table.rules ∧ ∀ mode,
      indexed.rulesInMode mode = table.rulesInMode mode ∧ indexed.hasMode mode = table.hasMode mode

/-- **Declarations compile if every pattern is accepted and no mode has a literal twice.** The table
has the declared rules in order, and so has each mode; there are no other modes. If declarations do
not compile, then the failure is that of the first one that cannot follow those in front of it. -/
theorem compile_declarations (name : String) (unicode : Bool) (specs : List RuleSpec) :
    ((∃ table, RuleTable.compile name unicode specs = .ok table) ↔ Compilable unicode specs) ∧
    match RuleTable.compile name unicode specs with
    | .ok table => CompiledFrom name unicode specs table
    | .error error => (∃ before spec behind, specs = before ++ spec :: behind ∧
          Compilable unicode before ∧ Refuses unicode before spec error) ∧
        IndexedRules.compile unicode specs = .error error := by
  refine ⟨RuleTable.exists_compile_iff, ?_⟩
  have hindexed := RuleTable.compile_indexed name unicode specs
  cases hcompile : RuleTable.compile name unicode specs with
  | ok table =>
    rw [hcompile] at hindexed
    have hrules : List.Forall₂ (Declares unicode) specs table.rules :=
      (RuleTable.forall₂_of_compile hcompile).imp fun _ _ => declares_iff.2
    refine ⟨RuleTable.name_of_compile hcompile, hrules, forall₂_filter_mode hrules, fun mode => ?_,
      hindexed⟩
    rw [← exists_mode_iff hrules, RuleTable.hasMode, List.any_eq_true]
    simp only [decide_eq_true_eq]
  | error error =>
    rw [hcompile] at hindexed
    refine ⟨?_, hindexed⟩
    rw [RuleTable.compile] at hcompile
    cases hrules : RuleTable.compileRules unicode [] specs with
    | ok rules =>
      rw [hrules] at hcompile
      contradiction
    | error error' =>
      rw [hrules] at hcompile
      cases hcompile
      exact RuleTable.exists_refuses ⟨by simp, .nil⟩ hrules

end GrammarLang.Scan
