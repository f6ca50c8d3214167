import GrammarLang.Proofs.Scan.Run
import Mathlib.Algebra.BigOperators.Group.List.Basic
import Mathlib.Data.List.Nodup
import Mathlib.Data.List.Perm.Basic

/-! # Choosing among the current tokens

Several rules may match the text that a scanner stands at, and **`Scanner.tryConsumeAny`** is told
which of them are looked for. It goes by **`Scanner.alternatives`**, which lists the current tokens
name by name, so that a token comes once for each time its name is given
(**`Scanner.alternatives_perm`**). Hence what counts is **`Scanner.fitting`**, the current tokens of
the rules looked for, and how often the names of these are given.

* **`tryConsumeAny_chooses`** — nothing happens if no token fits; if one fits whose name is given
  once then it is consumed; in all other cases there is a choice, which is a failure.
* **`tryConsumeAny_of_nodup`** — where no name is given twice, one token that fits is consumed and
  several are a failure.
* **`tryConsumeAny_repeated`** — a name given twice makes one token a choice. -/

namespace GrammarLang.Scan

open GrammarLang.Text

/-- Listed name by name, a token comes as often as its name is given. -/
theorem flatMap_filter_perm (rules : List String) (tokens : List Token) :
    (rules.flatMap fun rule => tokens.filter fun token => token.rule = rule).Perm
      (tokens.flatMap fun token => List.replicate (rules.count token.rule) token) := by
  induction tokens with
  | nil => simp
  | cons token tokens ih =>
    have hfirst : (rules.flatMap fun rule => if token.rule = rule then [token] else []) =
        List.replicate (rules.count token.rule) token := by
      clear ih
      induction rules with
      | nil => rfl
      | cons rule rules ih =>
        rw [List.flatMap_cons, ih]
        by_cases hrule : token.rule = rule
        · rw [if_pos hrule, hrule, List.count_cons_self, List.replicate_succ]
          rfl
        · rw [if_neg hrule, List.count_cons_of_ne fun h => hrule h.symm]
          rfl
    have hsplit : (rules.flatMap fun rule => (token :: tokens).filter fun token => token.rule = rule) =
        rules.flatMap fun rule => (if token.rule = rule then [token] else []) ++
          tokens.filter fun token => token.rule = rule :=
      List.flatMap_congr fun rule _ => by
        by_cases hrule : token.rule = rule <;> simp [hrule]
    rw [hsplit, List.flatMap_cons, ← hfirst]
    exact (List.flatMap_append_perm _ _ _).symm.trans (ih.append_left _)

namespace Scanner

variable {scanner : Scanner} {rules : List String} {token : Token}

/-- The current tokens of some rules, in the order of the token set. -/
def fitting (scanner : Scanner) (rules : List String) : List Token :=
  scanner.currentTokens.filter fun token => token.rule ∈ rules

@[simp] theorem mem_fitting :
    token ∈ scanner.fitting rules ↔ token ∈ scanner.currentTokens ∧ token.rule ∈ rules := by
  simp [fitting]

/-- The tokens to choose from are the current ones, each as often as its name is given. -/
theorem alternatives_perm_currentTokens (scanner : Scanner) (rules : List String) :
    (scanner.alternatives rules).Perm
      (scanner.currentTokens.flatMap fun token =>
        List.replicate (rules.count token.rule) token) :=
  flatMap_filter_perm rules scanner.currentTokens

/-- The tokens to choose from are those that fit, each as often as its name is given. -/
theorem alternatives_perm (scanner : Scanner) (rules : List String) :
    (scanner.alternatives rules).Perm
      ((scanner.fitting rules).flatMap fun token =>
        List.replicate (rules.count token.rule) token) := by
  have hfitting : scanner.alternatives rules =
      rules.flatMap fun rule => (scanner.fitting rules).filter fun token => token.rule = rule := by
    refine List.flatMap_congr fun rule hrule => ?_
    rw [fitting, List.filter_filter]
    refine List.filter_congr fun token _ => ?_
    by_cases htoken : token.rule = rule <;> simp [htoken, hrule]
  rw [hfitting]
  exact flatMap_filter_perm rules _

/-- The tokens to choose from are counted by the rules of the current tokens. -/
theorem length_alternatives (scanner : Scanner) (rules : List String) :
    (scanner.alternatives rules).length =
      (scanner.currentTokens.map Token.rule).foldr (fun name count => rules.count name + count) 0 := by
  rw [(alternatives_perm_currentTokens scanner rules).length_eq]
  generalize scanner.currentTokens = tokens
  induction tokens with
  | nil => rfl
  | cons token tokens ih =>
    rw [List.flatMap_cons, List.length_append, List.length_replicate, ih]
    rfl

/-- A token that fits comes at least once. -/
theorem count_pos_of_mem_fitting (h : token ∈ scanner.fitting rules) :
    0 < rules.count token.rule :=
  List.count_pos_iff.2 (mem_fitting.1 h).2

/-- There is nothing to choose from just if no token fits. -/
theorem alternatives_eq_nil_iff : scanner.alternatives rules = [] ↔ scanner.fitting rules = [] := by
  constructor
  · intro h
    have hperm := scanner.alternatives_perm rules
    rw [h, List.nil_perm, List.flatMap_eq_nil_iff] at hperm
    refine List.eq_nil_iff_forall_not_mem.2 fun token hmem => ?_
    have hnone := hperm token hmem
    rw [List.replicate_eq_nil_iff] at hnone
    have := count_pos_of_mem_fitting hmem
    omega
  · intro h
    have hperm := scanner.alternatives_perm rules
    rwa [h, List.flatMap_nil, List.perm_nil] at hperm

/-- There are at least as many tokens to choose from as tokens that fit. -/
theorem length_fitting_le (scanner : Scanner) (rules : List String) :
    (scanner.fitting rules).length ≤ (scanner.alternatives rules).length := by
  rw [(scanner.alternatives_perm rules).length_eq, List.length_flatMap]
  simp only [List.length_replicate]
  have hone : ∀ count ∈ (scanner.fitting rules).map fun token => rules.count token.rule,
      1 ≤ count := by
    intro count hcount
    obtain ⟨token, htoken, rfl⟩ := List.mem_map.1 hcount
    exact count_pos_of_mem_fitting htoken
  simpa using List.length_le_sum_of_one_le _ hone

/-- One token that fits comes as often as its name is given. -/
theorem alternatives_of_fitting_singleton (h : scanner.fitting rules = [token]) :
    scanner.alternatives rules = List.replicate (rules.count token.rule) token := by
  have hperm := scanner.alternatives_perm rules
  rw [h, List.flatMap_singleton] at hperm
  exact List.perm_replicate.1 hperm

/-! ## Consuming the token chosen -/

/-- Several tokens to choose from are a failure, which leaves the scanner as it is. All their names
are told, as often as they are given. -/
theorem tryConsumeAny_of_choice (h : 1 < (scanner.alternatives rules).length) :
    ∃ first ∈ scanner.fitting rules,
      scanner.tryConsumeAny rules = .failed (.ambiguousAlternative first.text
        ((scanner.alternatives rules).map Token.rule)
        (scanner.position first.span.start)) scanner := by
  have hmem (token : Token) (hmem : token ∈ scanner.alternatives rules) :
      token ∈ scanner.fitting rules := by
    simp only [alternatives, List.mem_flatMap, List.mem_filter, decide_eq_true_eq] at hmem
    obtain ⟨rule, hrule, hcurrent, rfl⟩ := hmem
    exact mem_fitting.2 ⟨hcurrent, hrule⟩
  rw [tryConsumeAny]
  generalize scanner.alternatives rules = tokens at h hmem
  obtain _ | ⟨first, _ | ⟨second, others⟩⟩ := tokens
  · contradiction
  · simp at h
  · exact ⟨first, hmem first List.mem_cons_self, rfl⟩

end Scanner

/-- **What trying to consume comes to**, whatever the scanner and whatever names are given. If no
current token fits then nothing happens. If one fits whose name is given once then it is consumed,
and this fails just as consuming the token set does. In all other cases, a name given twice among
them, there is a choice: a failure that leaves the scanner as it is. -/
theorem tryConsumeAny_chooses (scanner : Scanner) (rules : List String) :
    (scanner.fitting rules = [] → scanner.tryConsumeAny rules = .ok none scanner) ∧
    (∀ token, scanner.fitting rules = [token] → rules.count token.rule = 1 →
      scanner.tryConsumeAny rules = scanner.next.map fun _ => some token) ∧
    ((∃ token, scanner.fitting rules = [token] ∧ 1 < rules.count token.rule) ∨
        1 < (scanner.fitting rules).length →
      ∃ first ∈ scanner.fitting rules,
        scanner.tryConsumeAny rules = .failed (.ambiguousAlternative first.text
          ((scanner.alternatives rules).map Token.rule)
          (scanner.position first.span.start)) scanner) := by
  refine ⟨fun hnone => ?_, fun token hone hcount => ?_, fun hseveral => ?_⟩
  · rw [Scanner.tryConsumeAny, Scanner.alternatives_eq_nil_iff.2 hnone]
  · rw [Scanner.tryConsumeAny, Scanner.alternatives_of_fitting_singleton hone, hcount]
    simp only [List.replicate_one]
    cases scanner.next <;> rfl
  · refine Scanner.tryConsumeAny_of_choice ?_
    rcases hseveral with ⟨token, hone, hcount⟩ | hseveral
    · rwa [Scanner.alternatives_of_fitting_singleton hone, List.length_replicate]
    · exact Nat.lt_of_lt_of_le hseveral (scanner.length_fitting_le rules)

/-- Where no name is given twice, the tokens that fit decide alone: one is consumed, and several are
a failure that leaves the scanner as it is. -/
theorem tryConsumeAny_of_nodup (scanner : Scanner) {rules : List String} (h : rules.Nodup) :
    (∀ token, scanner.fitting rules = [token] →
      scanner.tryConsumeAny rules = scanner.next.map fun _ => some token) ∧
    (1 < (scanner.fitting rules).length →
      ∃ text names position, scanner.tryConsumeAny rules =
        .failed (.ambiguousAlternative text names position) scanner) := by
  obtain ⟨-, hone, hseveral⟩ := tryConsumeAny_chooses scanner rules
  refine ⟨fun token htoken => hone token htoken ?_, fun hlength => ?_⟩
  · have hmem : token ∈ scanner.fitting rules := by rw [htoken]; exact List.mem_cons_self
    exact List.count_eq_one_of_mem h (Scanner.mem_fitting.1 hmem).2
  · obtain ⟨first, -, hfailed⟩ := hseveral (.inr hlength)
    exact ⟨_, _, _, hfailed⟩

/-- One token fits, and yet there is a choice, as its name is given twice. -/
theorem tryConsumeAny_repeated : ∃ table scanner token,
    RuleTable.compile "names" true [{ name := "a", matcher := .regex "[a-z]+" }] = .ok table ∧
    Reachable table (.ofString "x") scanner ∧
    scanner.fitting ["a", "a"] = [token] ∧
    scanner.tryConsumeAny ["a", "a"] =
      .failed (.ambiguousAlternative "x" ["a", "a"] ⟨1, 1⟩) scanner := by
  have hrun : (RuleTable.compile "names" true
      [{ name := "a", matcher := .regex "[a-z]+" }]).toOption.any (fun table =>
        let created := Scanner.create table (.ofString "x")
        created.result.toOption.isSome &&
          created.after.currentTokens = [⟨"a", ⟨0, 1⟩, "x", .text "x"⟩] &&
          created.after.position 0 = ⟨1, 1⟩) = true := by decide +kernel
  obtain ⟨table, htable, hscan⟩ := (Option.any_eq_true _ _).1 hrun
  simp only [Bool.and_eq_true, decide_eq_true_eq] at hscan
  obtain ⟨⟨hok, htokens⟩, hposition⟩ := hscan
  cases hcreate : Scanner.create table (.ofString "x") with
  | failed error last =>
    rw [hcreate] at hok
    contradiction
  | ok created scanner =>
    rw [hcreate] at htokens hposition
    simp only [Outcome.after] at htokens hposition
    refine ⟨table, scanner, ⟨"a", ⟨0, 1⟩, "x", .text "x"⟩, ok_of_toOption htable,
      .create hcreate, ?_, ?_⟩
    · rw [Scanner.fitting, htokens]
      rfl
    · rw [Scanner.tryConsumeAny, Scanner.alternatives, htokens]
      show Outcome.failed (.ambiguousAlternative "x" ["a", "a"] (scanner.position 0)) scanner = _
      rw [hposition]

end GrammarLang.Scan
