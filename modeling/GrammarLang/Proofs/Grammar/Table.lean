import GrammarLang.Proofs.Grammar.Readers
import GrammarLang.Proofs.Scan.Compiled
import GrammarLang.Proofs.Scan.Standing

/-! # The compiled words of the notation

What the compiled rule table keeps of the declarations in `Lexicon.rules`. -/

namespace GrammarLang.Grammar.Lexicon

open GrammarLang.Scan

variable {table : RuleTable}

/-- The compiled rules are those declared, in order. -/
theorem forall₂_table (h : Lexicon.table = .ok table) :
    List.Forall₂ (fun spec rule => spec.compile? true = some rule) rules table.rules :=
  RuleTable.forall₂_of_compile h

/-- A compiled rule has the fields of one of the declarations. -/
theorem spec_of_mem (h : Lexicon.table = .ok table) {rule : Rule} (hmem : rule ∈ table.rules) :
    ∃ spec ∈ rules, rule.name = spec.name ∧ rule.mode = spec.mode ∧
      rule.ignored = spec.ignored ∧ rule.decoder = spec.decoder := by
  obtain ⟨spec, hspec, hcompile⟩ := RuleTable.spec_of_mem h hmem
  exact ⟨spec, hspec, RuleSpec.fields_of_compile? hcompile⟩

/-- The rules of the notation are compiled, each to what its name says, at the start of a text. -/
theorem all_table : Lexicon.table.toOption.any (fun table => table.rules.all fun rule =>
    rule.regex.expr = .seq (.look .textStart) (bodyOf rule.name)) = true := by decide +kernel

theorem exists_table : ∃ table, Lexicon.table = .ok table := by
  have hall := all_table
  generalize Lexicon.table = compiled at hall ⊢
  cases compiled with
  | error error => simp [Except.toOption] at hall
  | ok table => exact ⟨table, rfl⟩

/-- Each rule matches what its name says, at the start of a text. -/
theorem expr_eq (h : Lexicon.table = .ok table) {rule : Rule} (hmem : rule ∈ table.rules) :
    rule.regex.expr = .seq (.look .textStart) (bodyOf rule.name) := by
  have hall := all_table
  rw [h] at hall
  simp only [Except.toOption, Option.any_some, List.all_eq_true, decide_eq_true_eq] at hall
  exact hall rule hmem

/-- The compiled words of the notation, with what they match written out. -/
def words : RuleTable where
  name := "grammar"
  rules := rules.map fun spec => spec.matching (.seq (.look .textStart) (bodyOf spec.name))

/-- **The rules of the notation compile to its words**, so a text can be scanned without compiling
them. -/
theorem table_eq_words : Lexicon.table = .ok words := by
  obtain ⟨table, htable⟩ := exists_table
  have hcompiled := forall₂_table htable
  have hexpr (rule : Rule) (hmem : rule ∈ table.rules) := expr_eq htable hmem
  have hrules : table.rules =
      rules.map fun spec => spec.matching (.seq (.look .textStart) (bodyOf spec.name)) := by
    generalize table.rules = compiled at hcompiled hexpr
    generalize rules = specs at hcompiled
    induction hcompiled with
    | nil => rfl
    | cons hcompile _ ih =>
      obtain ⟨hfirst, hothers⟩ := List.forall_mem_cons.1 hexpr
      have hrule := RuleSpec.eq_matching_of_compile? hcompile
      obtain ⟨hname, -⟩ := RuleSpec.fields_of_compile? hcompile
      rw [List.map_cons, ← ih hothers, ← hname, ← hfirst, ← hrule]
  have hname : table.name = "grammar" := RuleTable.name_of_compile htable
  rw [htable, words, ← hrules, ← hname]

/-- The rules hold to the start of a text. -/
theorem anchored_table (h : Lexicon.table = .ok table) : Anchored table.rules :=
  anchored_of_expr fun rule hmem => by rw [expr_eq h hmem]; rfl

/-- So do the rules of each mode. -/
theorem anchored_mode (h : Lexicon.table = .ok table) (mode : String) :
    Anchored (table.rulesInMode mode) :=
  fun rule hmem => anchored_table h rule (List.mem_filter.1 hmem).1

/-- The names of the rules of a mode, in order. -/
def namesOf (mode : String) : List String :=
  (rules.filter fun spec => spec.mode = mode).map RuleSpec.name

/-- The rules of a mode have the names declared for it. -/
theorem names_rulesInMode (h : Lexicon.table = .ok table) (mode : String) :
    (table.rulesInMode mode).map Rule.name = namesOf mode := by
  have hall := forall₂_table h
  rw [RuleTable.rulesInMode, namesOf]
  generalize table.rules = compiled at hall
  generalize rules = specs at hall
  induction hall with
  | nil => rfl
  | cons hcompile _ ih =>
    obtain ⟨hname, hmode, -⟩ := RuleSpec.fields_of_compile? hcompile
    simp only [List.filter_cons, hmode]
    split
    · rw [List.map_cons, List.map_cons, ih, hname]
    · exact ih

/-- Only the rules of the notation proper ignore text. -/
theorem ignored_eq_false (h : Lexicon.table = .ok table) {mode : String} (hmode : mode ≠ defaultMode)
    {rule : Rule} (hmem : rule ∈ table.rulesInMode mode) : rule.ignored = false := by
  obtain ⟨hrule, hruleMode⟩ := List.mem_filter.1 hmem
  obtain ⟨spec, hspec, -, hspecMode, hignored, -⟩ := spec_of_mem h hrule
  have hall : ∀ spec ∈ rules, spec.ignored = true → spec.mode = defaultMode := by
    decide +kernel
  rw [hignored]
  by_contra hne
  have := hall spec hspec (by simpa using hne)
  simp_all

/-- The values of tokens: a number is decoded as one, a string literal as its text, and any other
token has its own text for a value. -/
def decoderOf (name : String) : Option Decoder :=
  if name = number then some numberValue else if name = string then some stringValue else none

/-- A rule decodes as its name says. -/
theorem decoder_eq (h : Lexicon.table = .ok table) {rule : Rule} (hmem : rule ∈ table.rules) :
    rule.decoder = decoderOf rule.name := by
  obtain ⟨spec, hspec, hname, -, -, hdecoder⟩ := spec_of_mem h hmem
  have hall : rules.map RuleSpec.decoder = rules.map fun spec => decoderOf spec.name := rfl
  rw [hdecoder, hname]
  exact List.map_inj_left.1 hall spec hspec

end GrammarLang.Grammar.Lexicon
