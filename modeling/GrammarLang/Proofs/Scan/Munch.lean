import GrammarLang.Scan.Scanner
import Mathlib.Data.List.Forall2

/-! # Maximal munch

What it means to cut a text into its longest matches, said on the rules alone. It is the measure for
the scanner.

* **`Rule.matchLength?`** — how many characters a rule matches at the start of a text.
* **`IsLongest`**, **`tied`** — the greatest of these lengths, and the rules that attain it.
* **`Passed`** — text that is cut into longest matches of ignoring rules.
* **`First`** — the first token set of a text, behind a gap.
* **`Munch`** — a text is cut into gaps and token sets, up to some place in it.
* **`Fails`** — a text has no first longest match that could become a token set.

A place is given by the number of bytes before it and the text behind it. -/

namespace GrammarLang.Scan

open GrammarLang.Text

/-- How many characters a rule matches at the start of a text, if it matches any there. -/
def Rule.matchLength? (rule : Rule) (text : List Char) : Option Nat :=
  match rule.matchAt (.start text) with
  | .chars count => some count
  | _ => none

/-- A result that has a value is a success. -/
theorem ok_of_toOption {ε α : Type} {result : Except ε α} {value : α}
    (h : result.toOption = some value) : result = .ok value := by
  cases result with
  | ok other => exact congrArg Except.ok (Option.some.inj h)
  | error error => simp [Except.toOption] at h

/-- Whether rules match at the start of a text or not at all. -/
def Anchored (rules : List Rule) : Prop :=
  ∀ rule ∈ rules, ∀ text : List Char, rule.matchAt (.start text) ≠ .misplaced

/-- The greatest number of characters that some rules match at the start of a text. -/
structure IsLongest (rules : List Rule) (text : List Char) (count : Nat) : Prop where
  /-- Some rule matches so many. -/
  attained : ∃ rule ∈ rules, rule.matchLength? text = some count
  /-- No rule matches more. -/
  greatest : ∀ rule ∈ rules, ∀ other, rule.matchLength? text = some other → other ≤ count

/-- The rules that match a given number of characters, in the order they were declared. -/
def tied (rules : List Rule) (text : List Char) (count : Nat) : List Rule :=
  rules.filter fun rule => rule.matchLength? text = some count

/-- The text `gap`, with `rest` behind it, is cut into longest matches of ignoring rules. -/
inductive Passed (rules : List Rule) (rest : List Char) : (gap : List Char) → Prop
  /-- Nothing is passed over. -/
  | nil : Passed rules rest []
  /-- A longest match that ignoring rules alone attain, and more of them behind it. -/
  | cons {front gap : List Char}
      (longest : IsLongest rules (front ++ (gap ++ rest)) front.length)
      (ignored : ∀ rule ∈ tied rules (front ++ (gap ++ rest)) front.length, rule.ignored = true)
      (further : Passed rules rest gap) : Passed rules rest (front ++ gap)

/-- A token is what a rule makes of the text `front` behind `offset` bytes. -/
def Reads (offset : Nat) (front : List Char) (rule : Rule) (token : Token) : Prop :=
  ∃ value, rule.evaluate (String.ofList front) = .ok value ∧
    token = ⟨rule.name, ⟨offset, offset + byteSize front⟩, String.ofList front, value⟩

/-- Tokens have the names of the rules that make them. -/
theorem Reads.names_eq {offset : Nat} {front : List Char} {rules : List Rule} {tokens : List Token}
    (h : List.Forall₂ (Reads offset front) rules tokens) :
    tokens.map Token.rule = rules.map Rule.name := by
  induction h with
  | nil => rfl
  | cons hfirst _ ih =>
    obtain ⟨value, -, rfl⟩ := hfirst
    rw [List.map_cons, List.map_cons, ih]

/-- The text `front`, with `rest` behind it, is a longest match of rules that do not ignore it. -/
structure IsLexeme (rules : List Rule) (front rest : List Char) : Prop where
  /-- No rule matches more. -/
  longest : IsLongest rules (front ++ rest) front.length
  /-- None of the rules that match it ignores it. -/
  kept : ∀ rule ∈ tied rules (front ++ rest) front.length, rule.ignored = false

/-- The first token set of the text from a place on, and the place right behind it; there is no set
where only a gap is left. -/
inductive First (rules : List Rule) : Nat × List Char → Option TokenSet → Nat × List Char → Prop
  /-- The text is passed over up to its end. -/
  | atEnd {offset : Nat} {gap : List Char} (passed : Passed rules [] gap) :
      First rules (offset, gap) none (offset + byteSize gap, [])
  /-- Behind a gap comes a longest match, and a token for each rule that attains it, in the order
  the rules were declared. -/
  | lexeme {offset : Nat} {gap front rest : List Char} {set : TokenSet}
      (passed : Passed rules (front ++ rest) gap) (lexeme : IsLexeme rules front rest)
      (read : List.Forall₂ (Reads (offset + byteSize gap) front)
        (tied rules (front ++ rest) front.length) set.toList) :
      First rules (offset, gap ++ (front ++ rest)) (some set)
        (offset + byteSize gap + byteSize front, rest)

/-- From a place on, a text is cut into gaps and token sets up to another place. The second place is
behind a last gap. -/
inductive Munch (rules : List Rule) : Nat × List Char → List TokenSet → Nat × List Char → Prop
  /-- There is no further token set. -/
  | last {offset : Nat} {gap rest : List Char} (passed : Passed rules rest gap) :
      Munch rules (offset, gap ++ rest) [] (offset + byteSize gap, rest)
  /-- Behind a gap comes a longest match, and a token for each rule that attains it, in the order
  the rules were declared. -/
  | next {offset : Nat} {gap front rest : List Char} {set : TokenSet} {sets : List TokenSet}
      {stop : Nat × List Char} (passed : Passed rules (front ++ rest) gap)
      (lexeme : IsLexeme rules front rest)
      (read : List.Forall₂ (Reads (offset + byteSize gap) front)
        (tied rules (front ++ rest) front.length) set.toList)
      (further : Munch rules (offset + byteSize gap + byteSize front, rest) sets stop) :
      Munch rules (offset, gap ++ (front ++ rest)) (set :: sets) stop

/-- The first token set of a text is cut off together with the gap before it. -/
theorem First.munch {rules : List Rule} {here stop : Nat × List Char} {current : Option TokenSet}
    (h : First rules here current stop) : Munch rules here current.toList stop := by
  cases h with
  | @atEnd offset gap passed =>
    have hlast : Munch rules (offset, gap ++ []) [] _ := .last passed
    simpa using hlast
  | @lexeme offset gap front rest set passed lexeme read =>
    refine .next passed lexeme read ?_
    have hlast : Munch rules (offset + byteSize gap + byteSize front, [] ++ rest) [] _ := .last .nil
    simpa using hlast

/-- A text without token sets is passed over as a whole. -/
theorem First.rest_eq_nil {rules : List Rule} {here stop : Nat × List Char}
    {current : Option TokenSet} (h : First rules here current stop) (hnone : current = none) :
    stop.2 = [] := by
  cases h with
  | atEnd => rfl
  | lexeme => contradiction

/-- No token set can be made at a place of a source, and this is why. -/
inductive Fails (rules : List Rule) (source : Source) : Nat × List Char → Error → Prop
  /-- No rule matches. -/
  | unknown {offset : Nat} {c : Char} {cs : List Char}
      (unmatched : ∀ rule ∈ rules, rule.matchLength? (c :: cs) = none) :
      Fails rules source (offset, c :: cs) (.invalidToken c (source.position offset))
  /-- Of the rules that attain the longest match, some ignore it and some do not. -/
  | mixed {offset : Nat} {front rest : List Char}
      (longest : IsLongest rules (front ++ rest) front.length)
      (ignored : ∃ rule ∈ tied rules (front ++ rest) front.length, rule.ignored = true)
      (kept : ∃ rule ∈ tied rules (front ++ rest) front.length, rule.ignored = false) :
      Fails rules source (offset, front ++ rest)
        (.ambiguousIgnore (String.ofList front)
          ((tied rules (front ++ rest) front.length).map Rule.name) (source.position offset))
  /-- A rule that attains the longest match refuses the text, and those before it do not. -/
  | refused {offset : Nat} {front rest : List Char} {before behind : List Rule} {rule : Rule}
      {reason : String} (lexeme : IsLexeme rules front rest)
      (order : tied rules (front ++ rest) front.length = before ++ rule :: behind)
      (accepted : ∀ other ∈ before, ∃ value, other.evaluate (String.ofList front) = .ok value)
      (refusal : rule.evaluate (String.ofList front) = .error reason) :
      Fails rules source (offset, front ++ rest)
        (.decode rule.name (String.ofList front) reason (source.position offset))

/-- A rule whose expression holds to the start of a text is anchored. -/
theorem anchored_of_expr {rules : List Rule} (h : ∀ rule ∈ rules, rule.regex.expr.anchored = true) :
    Anchored rules := by
  intro rule hmem text hplaced
  have hsearch (stop : Regex.Spot text × Regex.Spot text)
      (hfound : rule.regex.expr.searchAmong? ∅ [.start text] = some stop) :
      stop.1 = .start text := by
    simp only [Regex.Expr.searchAmong?] at hfound
    split at hfound
    · cases hfound; rfl
    · contradiction
  simp only [Rule.matchAt, Regex.find?, Regex.Expr.find?, h rule hmem, if_true] at hplaced
  split at hplaced
  · contradiction
  · rename_i found stop hfound
    have hstart : found = .start text := by
      split at hfound
      · obtain ⟨_, -, heq⟩ := Option.map_eq_some_iff.1 hfound
        cases heq
        rfl
      · exact hsearch _ hfound
    rw [if_pos hstart] at hplaced
    split at hplaced <;> contradiction

/-! ## The longest match of a rule table -/

theorem Rule.matchLength?_eq_some_iff {rule : Rule} {text : List Char} {count : Nat} :
    rule.matchLength? text = some count ↔ rule.matchAt (.start text) = .chars count := by
  rw [matchLength?]
  split
  · rename_i found
    rw [found, Option.some.injEq, MatchAt.chars.injEq]
  · rename_i hnone
    simpa using hnone count

/-- A match has at least one character, and no more than the text. -/
theorem Rule.matchLength?_bounds {rule : Rule} {text : List Char} {count : Nat}
    (h : rule.matchLength? text = some count) : 0 < count ∧ count ≤ text.length := by
  have hat := Rule.matchLength?_eq_some_iff.1 h
  refine ⟨Rule.pos_of_matchAt hat, ?_⟩
  simp only [matchAt] at hat
  split at hat
  · contradiction
  · split at hat
    · split at hat
      · contradiction
      · cases hat
        show (Regex.Spot.start text).left - _ ≤ text.length
        exact Nat.sub_le _ _
    · contradiction

/-- The longest match has at least one character, and no more than the text. -/
theorem IsLongest.bounds {rules : List Rule} {text : List Char} {count : Nat}
    (h : IsLongest rules text count) : 0 < count ∧ count ≤ text.length := by
  obtain ⟨rule, -, hrule⟩ := h.attained
  exact Rule.matchLength?_bounds hrule

/-- There is one greatest length at most. -/
theorem IsLongest.unique {rules : List Rule} {text : List Char} {count other : Nat}
    (h : IsLongest rules text count) (h' : IsLongest rules text other) : count = other := by
  obtain ⟨rule, hmem, hrule⟩ := h.attained
  obtain ⟨rule', hmem', hrule'⟩ := h'.attained
  exact Nat.le_antisymm (h'.greatest rule hmem count hrule) (h.greatest rule' hmem' other hrule')

/-- Some rule attains the longest match. -/
theorem IsLongest.tied_ne_nil {rules : List Rule} {text : List Char} {count : Nat}
    (h : IsLongest rules text count) : tied rules text count ≠ [] := by
  obtain ⟨rule, hmem, hrule⟩ := h.attained
  exact List.ne_nil_of_mem (List.mem_filter.2 ⟨hmem, by simpa using hrule⟩)

/-- Rules that match at the start of a text, or not at all, are found with the lengths of their
matches. -/
theorem matchesAt_start {rules : List Rule} {text : List Char}
    (h : ∀ rule ∈ rules, rule.matchAt (.start text) ≠ .misplaced) :
    matchesAt (.start text) rules =
      .ok (rules.filterMap fun rule => (rule.matchLength? text).map (rule, ·)) := by
  induction rules with
  | nil => rfl
  | cons rule rules ih =>
    have hrule := h rule List.mem_cons_self
    rw [matchesAt, ih fun other hmem => h other (List.mem_cons_of_mem _ hmem)]
    cases hat : rule.matchAt (.start text) with
    | none => simp [Rule.matchLength?, hat]
    | chars count => simp [Rule.matchLength?, hat, Except.map]
    | misplaced => exact absurd hat hrule

/-- No rule matches elsewhere where matches are found. -/
theorem ne_misplaced_of_matchesAt {text : List Char} {start : Regex.Spot text} {rules : List Rule}
    {found : Matches} (h : matchesAt start rules = .ok found) :
    ∀ rule ∈ rules, rule.matchAt start ≠ .misplaced := by
  induction rules generalizing found with
  | nil => simp
  | cons rule rules ih =>
    rw [matchesAt] at h
    rw [List.forall_mem_cons]
    cases hat : rule.matchAt start with
    | none => exact ⟨by simp, ih (by simpa [hat] using h)⟩
    | misplaced => simp [hat] at h
    | chars count =>
      cases hothers : matchesAt start rules with
      | error other => simp [hat, hothers, Except.map] at h
      | ok others => exact ⟨by simp, ih hothers⟩

/-- The best length of several matches is the greater of the first and the best of the others. -/
theorem Matches.best_cons (first : Rule × Nat) (others : Matches) :
    Matches.best (first :: others) = max first.2 others.best := rfl

/-- The best length is at least as great as every other. -/
theorem Matches.le_best {found : Matches} {entry : Rule × Nat} (h : entry ∈ found) :
    entry.2 ≤ found.best := by
  induction found with
  | nil => simp at h
  | cons first others ih =>
    rw [best_cons]
    rcases List.mem_cons.1 h with rfl | hmem
    · exact Nat.le_max_left _ _
    · exact Nat.le_trans (ih hmem) (Nat.le_max_right _ _)

/-- The best length is attained, unless it is zero. -/
theorem Matches.best_attained (found : Matches) :
    found.best = 0 ∨ ∃ entry ∈ found, entry.2 = found.best := by
  induction found with
  | nil => exact .inl rfl
  | cons first others ih =>
    rw [best_cons]
    rcases Nat.le_total first.2 (Matches.best others) with hle | hle
    · rw [Nat.max_eq_right hle]
      rcases ih with hzero | ⟨entry, hmem, hentry⟩
      · exact .inl hzero
      · exact .inr ⟨entry, List.mem_cons_of_mem _ hmem, hentry⟩
    · rw [Nat.max_eq_left hle]
      exact .inr ⟨first, List.mem_cons_self, rfl⟩

/-- The rules that win are those tied at the best length. -/
theorem winners_filterMap (rules : List Rule) (text : List Char) {best : Nat}
    (h : Matches.best (rules.filterMap fun rule => (rule.matchLength? text).map (rule, ·)) = best) :
    Matches.winners (rules.filterMap fun rule => (rule.matchLength? text).map (rule, ·)) =
      tied rules text best := by
  simp only [Matches.winners, h]
  clear h
  induction rules with
  | nil => rfl
  | cons rule rules ih =>
    simp only [tied] at ih ⊢
    cases hlength : rule.matchLength? text with
    | none => simp [hlength, ih]
    | some count =>
      by_cases hbest : count = best
      · simp [hlength, hbest, ih]
      · simp [hlength, hbest, ih]

/-- The longest match, as the scanner finds it, is the longest match of the rules, if none of them
matches elsewhere. -/
theorem longest_of_ne_misplaced {rules : List Rule} {text : List Char}
    (h : ∀ rule ∈ rules, rule.matchAt (.start text) ≠ .misplaced) :
    (longest rules (.start text) = .ok (0, []) ∧
        ∀ rule ∈ rules, rule.matchLength? text = none) ∨
      ∃ count, IsLongest rules text count ∧
        longest rules (.start text) = .ok (count, tied rules text count) := by
  have hmem : ∀ entry, entry ∈ rules.filterMap (fun rule => (rule.matchLength? text).map (rule, ·)) ↔
      entry.1 ∈ rules ∧ entry.1.matchLength? text = some entry.2 := by
    rintro ⟨rule, count⟩
    simp only [List.mem_filterMap, Option.map_eq_some_iff, Prod.mk.injEq]
    constructor
    · rintro ⟨other, hother, length, hlength, rfl, rfl⟩
      exact ⟨hother, hlength⟩
    · rintro ⟨hrule, hlength⟩
      exact ⟨rule, hrule, count, hlength, rfl, rfl⟩
  rw [longest, matchesAt_start h]
  generalize hfound : (rules.filterMap fun rule => (rule.matchLength? text).map (rule, ·)) = found
    at hmem
  have hwinners := winners_filterMap rules text (congrArg Matches.best hfound)
  rw [hfound] at hwinners
  simp only [Except.map, hwinners]
  rcases Matches.best_attained found with hzero | ⟨entry, hentry, hbest⟩
  · left
    have hnone : ∀ rule ∈ rules, rule.matchLength? text = none := by
      intro rule hrule
      cases hlength : rule.matchLength? text with
      | none => rfl
      | some count =>
        have hle := Matches.le_best ((hmem (rule, count)).2 ⟨hrule, hlength⟩)
        have hpos := (Rule.matchLength?_bounds hlength).1
        simp only [hzero] at hle
        omega
    refine ⟨?_, hnone⟩
    have hnil : tied rules text 0 = [] := by
      rw [tied, List.filter_eq_nil_iff]
      intro rule hrule
      simp [hnone rule hrule]
    rw [hzero, hnil]
  · right
    refine ⟨Matches.best found, ⟨⟨entry.1, ?_⟩, ?_⟩, rfl⟩
    · rw [← hbest]
      exact (hmem entry).1 hentry
    · intro rule hrule other hlength
      exact Matches.le_best ((hmem (rule, other)).2 ⟨hrule, hlength⟩)

/-- Anchored rules match nowhere else, so that their longest match is found. -/
theorem longest_start {rules : List Rule} (h : Anchored rules) (text : List Char) :
    (longest rules (.start text) = .ok (0, []) ∧
        ∀ rule ∈ rules, rule.matchLength? text = none) ∨
      ∃ count, IsLongest rules text count ∧
        longest rules (.start text) = .ok (count, tied rules text count) :=
  longest_of_ne_misplaced fun rule hmem => h rule hmem text

/-- A match that is found is the longest match of the rules, whether or not these are anchored. -/
theorem isLongest_of_longest {rules winners : List Rule} {text : List Char} {count : Nat}
    (h : longest rules (.start text) = .ok (count, winners)) (hne : winners ≠ []) :
    IsLongest rules text count ∧ tied rules text count = winners := by
  have hfound : ∃ found, matchesAt (.start text) rules = .ok found := by
    cases hmatches : matchesAt (.start text) rules with
    | error rule => simp [longest, hmatches, Except.map] at h
    | ok found => exact ⟨found, rfl⟩
  obtain ⟨found, hfound⟩ := hfound
  rcases longest_of_ne_misplaced (ne_misplaced_of_matchesAt hfound) with
    ⟨hzero, -⟩ | ⟨best, hbest, heq⟩
  · rw [h] at hzero
    simp_all
  · rw [h] at heq
    simp only [Except.ok.injEq, Prod.mk.injEq] at heq
    obtain ⟨rfl, rfl⟩ := heq
    exact ⟨hbest, rfl⟩

end GrammarLang.Scan
