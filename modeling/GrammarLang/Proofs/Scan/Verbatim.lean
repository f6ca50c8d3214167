import GrammarLang.Proofs.Regex.Verbatim
import GrammarLang.Proofs.Scan.Declarations

/-! # Literal rules

A rule that is declared by a literal matches that text and nothing else, whatever characters it has:
**`matchSize?_verbatim`**. So two literals of one mode that match equally much are the same, and
as a mode has no literal twice, only one of the rules that tie for the longest match can be a literal:
**`literals_verbatim`**. -/

namespace GrammarLang.Scan

open GrammarLang.Text

/-- How many bytes a rule matches at the start of a text, if it matches a character there. -/
def Rule.matchSize? (rule : Rule) (text : List Char) : Option Nat :=
  (rule.matchLength? text).map fun count => byteSize (text.take count)

/-! ## Matching a literal -/

/-- A declaration by a literal always compiles. -/
theorem RuleSpec.compile?_literal {unicode : Bool} {spec : RuleSpec} {text : String}
    (h : spec.matcher = .literal text) : spec.compile? unicode =
      some (spec.matching ((Regex.Expr.look .textStart).andThen (.verbatim text.toList))) := by
  have hregex : Regex.compile? ⟨{ unicode }, false⟩ false (Matcher.literal text).anchoredPattern =
      some ⟨(Regex.Expr.look .textStart).andThen (.verbatim text.toList), false⟩ :=
    Regex.compile?_caret_escape rfl rfl text.toList
  rw [compile?, h, hregex]
  simp [matching, h, Matcher.anchoredPattern]

section

variable {rule : Rule} {text : List Char}
  (hexpr : rule.regex.expr = (Regex.Expr.look .textStart).andThen (.verbatim text))

include hexpr

theorem anchored_verbatim : rule.regex.expr.anchored = true := by
  rw [hexpr]
  cases text <;> rfl

/-- A rule for a text takes the text, if that is not empty and comes next. -/
theorem matchLength?_verbatim (rest : List Char) :
    rule.matchLength? rest = if text ≠ [] ∧ text <+: rest then some text.length else none := by
  have hplain : rule.regex.expr.isPlain = true := by
    rw [hexpr]
    cases text <;> rfl
  rw [← Regex.Expr.takes?_verbatim]
  refine Rule.matchLength?_eq_takes? (anchored_verbatim hexpr) hplain
    (Regex.Expr.textual_verbatim text) ?_
  rw [hexpr, Regex.Expr.ends_textStart_verbatim]

/-- Rules for texts do not match elsewhere. -/
theorem matchAt_verbatim_ne_misplaced (rest : List Char) : rule.matchAt (.start rest) ≠ .misplaced := by
  have hanchored : Anchored [rule] :=
    anchored_of_expr (List.forall_mem_singleton.2 (anchored_verbatim hexpr))
  exact hanchored rule (List.mem_singleton_self rule) rest

/-- A rule for a text matches the bytes of the text. -/
theorem matchSize?_verbatim (rest : List Char) :
    rule.matchSize? rest = if text ≠ [] ∧ text <+: rest then some (byteSize text) else none := by
  rw [Rule.matchSize?, matchLength?_verbatim hexpr]
  split
  · rename_i hstarts
    rw [Option.map_some, ← List.prefix_iff_eq_take.1 hstarts.2]
  · rfl

end

/-! ## Ties -/

/-- Two rules are literals of one mode that match equally much of some text. -/
def Ties (rule other : Rule) : Prop :=
  rule.isLiteral = true ∧ other.isLiteral = true ∧ rule.mode = other.mode ∧
    ∃ text count, rule.matchLength? text = some count ∧ other.matchLength? text = some count

/-- Literals that match equally much of one text are the same. -/
theorem clashes_of_ties {unicode : Bool} {spec other : RuleSpec} {rule rule' : Rule}
    (hrule : Declares unicode spec rule) (hrule' : Declares unicode other rule')
    (h : Ties rule rule') : spec.Clashes other := by
  obtain ⟨hliteral, hliteral', hmode, text, count, hcount, hcount'⟩ := h
  rw [hrule.isLiteral_eq] at hliteral
  rw [hrule'.isLiteral_eq] at hliteral'
  rw [hrule.mode_eq, hrule'.mode_eq] at hmode
  obtain ⟨literal, hspec⟩ := Matcher.exists_literal hliteral
  obtain ⟨literal', hother⟩ := Matcher.exists_literal hliteral'
  have hcompile := (RuleSpec.compile?_literal hspec).symm.trans (declares_iff.1 hrule)
  have hcompile' := (RuleSpec.compile?_literal hother).symm.trans (declares_iff.1 hrule')
  obtain rfl := Option.some.inj hcompile
  obtain rfl := Option.some.inj hcompile'
  rw [matchLength?_verbatim rfl, Option.ite_none_right_eq_some] at hcount hcount'
  obtain ⟨⟨-, hstarts⟩, hlength⟩ := hcount
  obtain ⟨⟨-, hstarts'⟩, hlength'⟩ := hcount'
  have hlength : literal.toList.length = literal'.toList.length :=
    Option.some.inj (hlength.trans hlength'.symm)
  -- The text starts with both, and they are equally long.
  have hsame : literal.toList = literal'.toList :=
    (List.prefix_of_prefix_length_le hstarts hstarts' (Nat.le_of_eq hlength)).eq_of_length hlength
  exact ⟨hliteral, hmode, by rw [hspec, hother, String.toList_inj.1 hsame]⟩

/-- No two rules of a table tie as literals. -/
theorem pairwise_not_ties {unicode : Bool} {specs : List RuleSpec} {rules : List Rule}
    (hrules : List.Forall₂ (Declares unicode) specs rules) (h : Compilable unicode specs) :
    rules.Pairwise fun rule other => ¬ Ties rule other := by
  have hdistinct := h.distinct
  clear h
  induction hrules with
  | nil => exact .nil
  | @cons spec rule specs rules hrule hrules ih =>
    obtain ⟨hfirst, hothers⟩ := List.pairwise_cons.1 hdistinct
    refine List.pairwise_cons.2 ⟨fun other hother hties => ?_, ih hothers⟩
    obtain ⟨place, hlt, rfl⟩ := List.mem_iff_getElem.1 hother
    have hlt' : place < specs.length := hrules.length_eq ▸ hlt
    exact hfirst _ (List.getElem_mem hlt') (clashes_of_ties hrule (hrules.get hlt' hlt) hties)

/-- Of the rules that match equally much of a text, one at most is a literal. -/
theorem length_filter_isLiteral_tied {rules : List Rule} {mode : String}
    (h : rules.Pairwise fun rule other => ¬ Ties rule other) (text : List Char) (count : Nat) :
    ((tied (rules.filter (·.mode = mode)) text count).filter Rule.isLiteral).length ≤ 1 := by
  have hpairwise : ((tied (rules.filter (·.mode = mode)) text count).filter
      Rule.isLiteral).Pairwise fun rule other => ¬ Ties rule other :=
    ((h.filter _).filter _).filter _
  have hmem : ∀ rule ∈ (tied (rules.filter (·.mode = mode)) text count).filter Rule.isLiteral,
      rule.isLiteral = true ∧ rule.mode = mode ∧ rule.matchLength? text = some count := by
    intro rule hrule
    obtain ⟨htied, hliteral⟩ := List.mem_filter.1 hrule
    obtain ⟨hmode, hcount⟩ := List.mem_filter.1 htied
    exact ⟨hliteral, of_decide_eq_true (List.mem_filter.1 hmode).2, of_decide_eq_true hcount⟩
  generalize (tied (rules.filter (·.mode = mode)) text count).filter Rule.isLiteral = found
    at hpairwise hmem
  -- Two literals among them would tie.
  match found with
  | [] => exact Nat.zero_le _
  | [_] => exact Nat.le_refl _
  | first :: second :: _ =>
    obtain ⟨hliteral, hmode, hcount⟩ := hmem first (by simp)
    obtain ⟨hliteral', hmode', hcount'⟩ := hmem second (by simp)
    exact absurd ⟨hliteral, hliteral', hmode.trans hmode'.symm, text, count, hcount, hcount'⟩
      ((List.pairwise_cons.1 hpairwise).1 second List.mem_cons_self)

/-- **Literals are matched verbatim.** A rule that is declared by a literal matches the bytes of the
literal where that comes next, if it is not empty, and matches nothing otherwise. So of the rules that
tie for the longest match, at any place of a source, one at most is a literal. -/
theorem literals_verbatim :
    (∀ (unicode : Bool) (spec : RuleSpec) (text : String),
      ∃ rule, { spec with matcher := .literal text }.compile? unicode = some rule ∧
        rule.isLiteral = true ∧
        ∀ rest, rule.matchAt (.start rest) ≠ .misplaced ∧
          rule.matchSize? rest =
            if text ≠ "" ∧ text.toList <+: rest then some (byteSize text.toList) else none) ∧
    ∀ (name : String) (unicode : Bool) (specs : List RuleSpec) (table : RuleTable),
      RuleTable.compile name unicode specs = .ok table →
        ∀ (mode : String) (source : Source) (here : Cursor source) (count : Nat) (rules : List Rule),
          longest (table.rulesInMode mode) (spotAt here) = .ok (count, rules) →
            (rules.filter Rule.isLiteral).length ≤ 1 := by
  refine ⟨fun unicode spec text => ?_, fun name unicode specs table h mode source here count rules
    hlongest => ?_⟩
  · refine ⟨_, RuleSpec.compile?_literal rfl, rfl, fun rest => ⟨matchAt_verbatim_ne_misplaced rfl rest,
      ?_⟩⟩
    rw [matchSize?_verbatim rfl]
    simp
  · rw [spotAt_eq_start] at hlongest
    by_cases hne : rules = []
    · simp [hne]
    · obtain ⟨-, rfl⟩ := isLongest_of_longest hlongest hne
      have hrules : List.Forall₂ (Declares unicode) specs table.rules :=
        (RuleTable.forall₂_of_compile h).imp fun _ _ => declares_iff.2
      exact length_filter_isLiteral_tied
        (pairwise_not_ties hrules (RuleTable.exists_compile_iff.1 ⟨table, h⟩)) here.rest count

/-- A literal and a pattern tie, and a longer literal does not come next. -/
theorem literals_verbatim_signs : ∃ table rules,
    RuleTable.compile "signs" false [{ name := "plus", matcher := .literal "+" },
      { name := "sign", matcher := .regex "[+*]" },
      { name := "stretched", matcher := .literal "+ä" }] = .ok table ∧
    longest (table.rulesInMode defaultMode) (spotAt (.start (.ofString "+a"))) = .ok (1, rules) ∧
    rules.map Rule.name = ["plus", "sign"] ∧ (rules.filter Rule.isLiteral).length ≤ 1 := by
  have hrun : (RuleTable.compile "signs" false [{ name := "plus", matcher := .literal "+" },
      { name := "sign", matcher := .regex "[+*]" },
      { name := "stretched", matcher := .literal "+ä" }]).toOption.map (fun table =>
        (longest (table.rulesInMode defaultMode) (spotAt (.start (.ofString "+a")))).toOption.map
          fun found => (found.1, found.2.map Rule.name)) =
        some (some (1, ["plus", "sign"])) := by decide +kernel
  obtain ⟨table, htable, hfound⟩ := Option.map_eq_some_iff.1 hrun
  obtain ⟨⟨count, rules⟩, hlongest, hnames⟩ := Option.map_eq_some_iff.1 hfound
  obtain ⟨rfl, hnames⟩ := Prod.mk.inj hnames
  have hcompile := ok_of_toOption htable
  have hlongest := ok_of_toOption hlongest
  exact ⟨table, rules, hcompile, hlongest, hnames,
    literals_verbatim.2 _ _ _ _ hcompile _ _ _ _ _ hlongest⟩

end GrammarLang.Scan
