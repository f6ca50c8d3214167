import GrammarLang.Proofs.Regex.Enclosed
import GrammarLang.Proofs.Regex.Rests
import GrammarLang.Proofs.Scan.Munch
import Mathlib.Data.List.Forall2

/-! # Compiled rules

Declarations compile if each of them does and no two clash (**`RuleTable.compileRules_eq_ok_iff`**),
and the rules keep their fields and their order. A declared pattern is
put into a group behind a caret as a text. If it is a pattern by itself, then the rule matches at the
start of a text or not at all (**`anchored_of_compile`**); if it closes the group and opens another
one, the rule may match elsewhere (**`not_anchored_of_compile`**). -/

namespace GrammarLang.Scan

/-! ## Declarations -/

/-- A compiled rule has the fields of its declaration. -/
theorem RuleSpec.fields_of_compile? {unicode : Bool} {spec : RuleSpec} {rule : Rule}
    (h : spec.compile? unicode = some rule) :
    rule.name = spec.name ∧ rule.mode = spec.mode ∧ rule.ignored = spec.ignored ∧
      rule.decoder = spec.decoder := by
  simp only [compile?, Option.bind_eq_bind, Option.bind_eq_some_iff] at h
  obtain ⟨regex, -, hrule⟩ := h
  cases hrule
  exact ⟨rfl, rfl, rfl, rfl⟩

/-- The rule of a declaration that matches a given expression. -/
def RuleSpec.matching (spec : RuleSpec) (expr : Regex.Expr) : Rule where
  name := spec.name
  pattern := String.ofList spec.matcher.anchoredPattern
  regex := ⟨expr, false⟩
  mode := spec.mode
  ignored := spec.ignored
  isLiteral := spec.matcher.isLiteral
  decoder := spec.decoder

/-- A compiled rule is that of its declaration, but for what its pattern means. -/
theorem RuleSpec.eq_matching_of_compile? {unicode : Bool} {spec : RuleSpec} {rule : Rule}
    (h : spec.compile? unicode = some rule) : rule = spec.matching rule.regex.expr := by
  simp only [compile?, Option.bind_eq_bind, Option.bind_eq_some_iff] at h
  obtain ⟨regex, hregex, hrule⟩ := h
  simp only [Regex.compile?, Option.bind_eq_bind, Option.bind_eq_some_iff] at hregex
  obtain ⟨pattern, -, expr, -, hregex⟩ := hregex
  cases hregex
  cases hrule
  rfl

/-- What is declared by a literal is that literal. -/
theorem Matcher.exists_literal {matcher : Matcher} (h : matcher.isLiteral = true) :
    ∃ text, matcher = .literal text := by
  cases matcher with
  | literal text => exact ⟨text, rfl⟩
  | regex pattern => contradiction

/-- Two declarations are of the same literal in the same mode. -/
def RuleSpec.Clashes (spec other : RuleSpec) : Prop :=
  spec.matcher.isLiteral = true ∧ spec.mode = other.mode ∧ spec.matcher = other.matcher

theorem RuleSpec.Clashes.symm {spec other : RuleSpec} (h : spec.Clashes other) :
    other.Clashes spec := by
  obtain ⟨hliteral, hmode, hmatcher⟩ := h
  exact ⟨hmatcher ▸ hliteral, hmode.symm, hmatcher.symm⟩

namespace RuleTable

variable {unicode : Bool} {specs : List RuleSpec}

/-- A declaration is refused for a literal just if it clashes with an earlier one. -/
theorem sameLiteral?_eq_none_iff {earlier : List RuleSpec} {spec : RuleSpec} :
    sameLiteral? earlier spec = none ↔ ∀ other ∈ earlier, ¬ other.Clashes spec := by
  rw [sameLiteral?, List.find?_eq_none]
  refine forall₂_congr fun other _ => not_congr ?_
  simp only [Bool.and_eq_true, decide_eq_true_eq, RuleSpec.Clashes]
  constructor
  · rintro ⟨⟨hliteral, hmode⟩, hmatcher⟩
    exact ⟨hmatcher ▸ hliteral, hmode, hmatcher⟩
  · rintro ⟨hliteral, hmode, hmatcher⟩
    exact ⟨⟨hmatcher ▸ hliteral, hmode⟩, hmatcher⟩

/-- Only literals are refused for an earlier one. -/
theorem isLiteral_of_sameLiteral? {earlier : List RuleSpec} {spec previous : RuleSpec}
    (h : sameLiteral? earlier spec = some previous) : ∃ text, spec.matcher = .literal text := by
  have hsame := List.find?_some h
  simp only [Bool.and_eq_true] at hsame
  exact Matcher.exists_literal hsame.1.1

/-- The first declaration has to compile and to be of no literal that came earlier. -/
theorem compileRules_cons_eq_ok_iff {earlier : List RuleSpec} {spec : RuleSpec} {rules : List Rule} :
    compileRules unicode earlier (spec :: specs) = .ok rules ↔
      sameLiteral? earlier spec = none ∧ ∃ rule others, spec.compile? unicode = some rule ∧
        compileRules unicode (earlier ++ [spec]) specs = .ok others ∧ rules = rule :: others := by
  rw [compileRules]
  constructor
  · intro h
    split at h
    · contradiction
    · rename_i hpassed
      have hnone : sameLiteral? earlier spec = none := by
        rw [Option.eq_none_iff_forall_ne_some]
        intro previous hprevious
        obtain ⟨text, htext⟩ := isLiteral_of_sameLiteral? hprevious
        exact hpassed previous text hprevious htext
      refine ⟨hnone, ?_⟩
      split at h
      · contradiction
      · rename_i rule hrule
        cases hothers : compileRules unicode (earlier ++ [spec]) specs with
        | error error => simp [hothers, Except.map] at h
        | ok others =>
          rw [hothers] at h
          exact ⟨rule, others, hrule, rfl, (Except.ok.inj h).symm⟩
  · rintro ⟨hnone, rule, others, hrule, hothers, rfl⟩
    rw [hnone]
    simp only [hrule, hothers]
    rfl

/-- Declarations compile just if each of them does and no two clash. -/
theorem compileRules_eq_ok_iff {earlier : List RuleSpec} {rules : List Rule} :
    compileRules unicode earlier specs = .ok rules ↔
      List.Forall₂ (fun spec rule => spec.compile? unicode = some rule) specs rules ∧
        specs.Pairwise (fun spec other => ¬ spec.Clashes other) ∧
        ∀ other ∈ earlier, ∀ spec ∈ specs, ¬ other.Clashes spec := by
  induction specs generalizing earlier rules with
  | nil => simp [compileRules, eq_comm]
  | cons spec specs ih =>
    rw [compileRules_cons_eq_ok_iff, List.forall₂_cons_left_iff, List.pairwise_cons,
      sameLiteral?_eq_none_iff]
    simp only [ih, List.forall_mem_append, List.forall_mem_singleton, List.forall_mem_cons,
      forall_and]
    constructor
    · rintro ⟨hfirst, rule, others, hrule, ⟨hothers, hdistinct, hearlier, hspec⟩, rfl⟩
      exact ⟨⟨rule, others, hrule, hothers, rfl⟩, ⟨hspec, hdistinct⟩, hfirst, hearlier⟩
    · rintro ⟨⟨rule, others, hrule, hothers, rfl⟩, ⟨hspec, hdistinct⟩, hfirst, hearlier⟩
      exact ⟨hfirst, rule, others, hrule, ⟨hothers, hdistinct, hearlier, hspec⟩, rfl⟩

end RuleTable

/-- The rules of a table are those declared, in order. -/
theorem RuleTable.forall₂_of_compile {name : String} {unicode : Bool} {specs : List RuleSpec}
    {table : RuleTable} (h : compile name unicode specs = .ok table) :
    List.Forall₂ (fun spec rule => spec.compile? unicode = some rule) specs table.rules := by
  rw [compile] at h
  cases hrules : compileRules unicode [] specs with
  | error error => simp [hrules, Except.map] at h
  | ok compiled =>
    simp only [hrules, Except.map, Except.ok.injEq] at h
    subst h
    exact (compileRules_eq_ok_iff.1 hrules).1

theorem RuleTable.name_of_compile {name : String} {unicode : Bool} {specs : List RuleSpec}
    {table : RuleTable} (h : compile name unicode specs = .ok table) : table.name = name := by
  rw [compile] at h
  cases hrules : compileRules unicode [] specs with
  | error error => simp [hrules, Except.map] at h
  | ok compiled =>
    rw [hrules] at h
    cases h
    rfl

/-- Every rule of a table is declared. -/
theorem RuleTable.spec_of_mem {name : String} {unicode : Bool} {specs : List RuleSpec}
    {table : RuleTable} (h : compile name unicode specs = .ok table) {rule : Rule}
    (hmem : rule ∈ table.rules) : ∃ spec ∈ specs, spec.compile? unicode = some rule := by
  have hall := forall₂_of_compile h
  generalize table.rules = rules at hmem hall
  clear h
  induction hall with
  | nil => contradiction
  | cons hcompile _ ih =>
    rcases List.mem_cons.1 hmem with rfl | hmem
    · exact ⟨_, List.mem_cons_self, hcompile⟩
    · obtain ⟨other, hother, hcompiled⟩ := ih hmem
      exact ⟨other, List.mem_cons_of_mem _ hother, hcompiled⟩

/-! ## Lengths -/

/-- A rule takes as many characters of a text as an expression for characters that has the same ends
there, if the rule is simple enough to be matched by listing its ends. -/
theorem Rule.matchLength?_eq_takes? {rule : Rule} {body : Regex.Expr} {text : List Char}
    (hanchored : rule.regex.expr.anchored = true) (hplain : rule.regex.expr.isPlain = true)
    (htextual : body.textual = true)
    (hsame : rule.regex.expr.ends (.start text) = body.ends (.start text)) :
    rule.matchLength? text = body.takes? text := by
  have hends := Regex.head?_rel (Regex.Expr.ends_rests htextual (Regex.Spot.inner_start text))
  rw [matchLength?, matchAt, Regex.find?, Regex.Expr.find?, if_pos hanchored, if_pos hplain,
    Regex.Expr.firstEnd?, hsame, Regex.Expr.takes?, Regex.Expr.first?]
  rw [Regex.Spot.rest_start] at hends
  generalize (body.ends (.start text)).head? = stop at hends
  generalize (body.rests text).head? = rest at hends
  cases hends with
  | none => rfl
  | @some stop rest hrest =>
    have hleft : (Regex.Spot.start text).left - stop.left = text.length - rest.length := by
      rw [Regex.Spot.left_eq, Regex.Spot.left_eq, hrest.2, Regex.Spot.rest_start]
    simp only [Option.map_some, if_true, hleft]
    by_cases hzero : text.length - rest.length = 0 <;> simp [hzero]

/-! ## Anchors -/

/-- Whether what a declaration matches is a pattern by itself. -/
def Matcher.isPattern : Matcher → Bool
  | .literal _ => true
  | .regex pattern => (Regex.Pattern.ofText? false pattern.toList).isSome

/-- The pattern of a rule is a caret with a group behind it, if what is declared is a pattern by
itself. -/
theorem RuleSpec.anchored_of_compile? {unicode : Bool} {spec : RuleSpec} {rule : Rule}
    (h : spec.compile? unicode = some rule) (hpattern : spec.matcher.isPattern = true) :
    rule.regex.expr.anchored = true := by
  -- What is put into the group is a pattern, also if it is an escaped text.
  obtain ⟨text, htext, hsome⟩ : ∃ text, spec.matcher.anchoredPattern =
      "^(?:".toList ++ text ++ [')'] ∧ (Regex.Pattern.ofText? false text).isSome = true := by
    cases hmatcher : spec.matcher with
    | literal literal => exact ⟨_, rfl, by rw [Regex.ofText?_escape]; rfl⟩
    | regex pattern =>
      rw [hmatcher] at hpattern
      exact ⟨_, rfl, hpattern⟩
  obtain ⟨inner, hinner⟩ := Option.isSome_iff_exists.1 hsome
  obtain ⟨regex, hregex, hrule⟩ := Option.bind_eq_some_iff.1 h
  obtain ⟨whole, hwhole, hreading⟩ := Option.bind_eq_some_iff.1 hregex
  obtain ⟨expr, hexpr, hdone⟩ := Option.bind_eq_some_iff.1 hreading
  cases hrule
  cases hdone
  rw [htext] at hwhole
  rw [Regex.ofText?_enclosed hinner hwhole] at hexpr
  have hlines : (⟨{ unicode }, false⟩ : Regex.Reading).flags.multiLine = false := rfl
  exact Regex.Reading.anchored_of_expr? hlines hexpr

/-- Rules match at the start of a text or not at all, if they are declared by literals and by
patterns that are patterns by themselves. -/
theorem anchored_of_compile {name : String} {unicode : Bool} {specs : List RuleSpec}
    {table : RuleTable} (h : RuleTable.compile name unicode specs = .ok table)
    (hpatterns : ∀ spec ∈ specs, spec.matcher.isPattern = true) : Anchored table.rules := by
  refine anchored_of_expr fun rule hrule => ?_
  obtain ⟨spec, hspec, hcompiled⟩ := RuleTable.spec_of_mem h hrule
  exact RuleSpec.anchored_of_compile? hcompiled (hpatterns spec hspec)

/-- A choice and a literal stay anchored. -/
theorem anchored_of_compile_choice : ∃ table, RuleTable.compile "signs" true
    [{ name := "ab", matcher := .regex "a|b+" }, { name := "plus", matcher := .literal "+" }] =
      .ok table ∧ Anchored table.rules := by
  have hcompiled : (RuleTable.compile "signs" true [{ name := "ab", matcher := .regex "a|b+" },
      { name := "plus", matcher := .literal "+" }]).toOption.isSome = true := by decide +kernel
  obtain ⟨table, htable⟩ := Option.isSome_iff_exists.1 hcompiled
  have htable := ok_of_toOption htable
  exact ⟨table, htable, anchored_of_compile htable (by decide +kernel)⟩

/-- What is read of a pattern that closes the group it is put into and opens another one: only one
branch holds to the start of the text. -/
def halfAnchored : Regex.Expr :=
  .alt (.seq (.look .textStart) (.text [.char 'a'])) (.text [.char 'b'])

/-- The branch that does not hold to the start of the text matches behind it. -/
theorem misplaced_halfAnchored {rule : Rule} (hexpr : rule.regex.expr = halfAnchored)
    (hbytes : rule.regex.wholeChars = false) : rule.matchAt (.start ['x', 'b']) = .misplaced := by
  let first : Regex.Spot ['x', 'b'] := .start ['x', 'b']
  let second : Regex.Spot ['x', 'b'] := first.behind rfl
  let last : Regex.Spot ['x', 'b'] := second.behind rfl
  have hfirst : first.all = first :: second.all := by
    rw [Regex.Spot.all]
    rfl
  have hsecond : second.all = second :: last.all := by
    rw [Regex.Spot.all]
    rfl
  have hpast : first.past? [.char 'a'] = none ∧ first.past? [.char 'b'] = none ∧
      second.past? [.char 'b'] = some last := ⟨rfl, rfl, rfl⟩
  have hholds : Regex.Look.textStart.holds second = false := rfl
  have hne : first ≠ second := by decide
  simp [Rule.matchAt, Regex.find?, hexpr, hbytes, halfAnchored, Regex.Expr.find?,
    Regex.Expr.anchored, first, hfirst, hsecond, Regex.Expr.searchAmong?, Regex.Expr.search,
    Regex.Search.passing, Regex.Search.orElse, Regex.Search.nothing, Regex.Search.endsAt, hpast,
    hholds, hne, hne.symm]

/-- Not every table has anchored rules: its patterns may close the groups they are put into. -/
theorem not_anchored_of_compile : ∃ table, RuleTable.compile "broken" true
    [{ name := "a", matcher := .regex "a)|(?:b" }] = .ok table ∧ ¬ Anchored table.rules := by
  have hrun : (RuleTable.compile "broken" true
      [{ name := "a", matcher := .regex "a)|(?:b" }]).toOption.any (fun table =>
        table.rules.any fun rule => rule.regex.expr = halfAnchored ∧
          rule.regex.wholeChars = false) = true := by decide +kernel
  obtain ⟨table, htable, hany⟩ := (Option.any_eq_true _ _).1 hrun
  obtain ⟨rule, hrule, hregex⟩ := List.any_eq_true.1 hany
  obtain ⟨hexpr, hbytes⟩ := of_decide_eq_true hregex
  exact ⟨table, ok_of_toOption htable, fun hanchored =>
    hanchored rule hrule _ (misplaced_halfAnchored hexpr hbytes)⟩

end GrammarLang.Scan
