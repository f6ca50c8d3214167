import GrammarLang.Proofs.Scan.Munch

/-! # What a scan finds

**`Finding.Holds`** says what a finding means for the text where it is made. **`scan_passed`**: all
text before what a scan finds is passed over. **`scan_holds`**: where the rules are anchored, what it
finds holds there. -/

namespace GrammarLang.Scan

open GrammarLang.Text

/-- What a finding says of the text where it is made. -/
inductive Finding.Holds (rules : List Rule) (text : List Char) : Finding → Prop
  /-- There is no text. -/
  | atEnd (ended : text = []) : Holds rules text .atEnd
  /-- No rule matches. -/
  | unknown {c : Char} {cs : List Char} (split : text = c :: cs)
      (unmatched : ∀ rule ∈ rules, rule.matchLength? text = none) : Holds rules text (.unknown c)
  /-- Of the rules that attain the longest match, some ignore it and some do not. -/
  | mixed {count : Nat} (longest : IsLongest rules text count)
      (ignored : ∃ rule ∈ tied rules text count, rule.ignored = true)
      (kept : ∃ rule ∈ tied rules text count, rule.ignored = false) :
      Holds rules text (.mixed (tied rules text count) count)
  /-- The rules that attain the longest match do not ignore it. -/
  | lexeme {first : Rule} {others : List Rule} {count : Nat} (longest : IsLongest rules text count)
      (attained : tied rules text count = first :: others)
      (kept : ∀ rule ∈ tied rules text count, rule.ignored = false) :
      Holds rules text (.lexeme first others count)

/-- Text that is passed over in two parts is passed over as a whole. -/
theorem Passed.append {rules : List Rule} {rest first second : List Char}
    (h : Passed rules (second ++ rest) first) (h' : Passed rules rest second) :
    Passed rules rest (first ++ second) := by
  induction h with
  | nil => exact h'
  | cons longest ignored _ ih =>
    rw [List.append_assoc]
    exact .cons (by simpa using longest) (by simpa using ignored) ih

/-- One longest match of ignoring rules is passed over. -/
theorem Passed.single {rules : List Rule} {text : List Char} {count : Nat}
    (longest : IsLongest rules text count)
    (ignored : ∀ rule ∈ tied rules text count, rule.ignored = true) :
    Passed rules (text.drop count) (text.take count) := by
  have hlength : (text.take count).length = count := by
    rw [List.length_take, Nat.min_eq_left longest.bounds.2]
  have h : Passed rules (text.drop count) (text.take count ++ []) :=
    .cons (by simpa [hlength] using longest) (by simpa [hlength] using ignored) .nil
  rwa [List.append_nil] at h

/-- A scan passes over text that is ignored, up to the place of what it finds. -/
theorem scan_passed {source : Source} (rules : List Rule) (here : Cursor source) :
    ∃ gap, Passed rules (scan rules here).2.rest gap ∧
      here.rest = gap ++ (scan rules here).2.rest := by
  fun_induction scan rules here with
  | case5 here c cs hrest count first others hfound hall ih =>
    obtain ⟨gap, hgap, hsplit⟩ := ih
    rw [spotAt_eq_start] at hfound
    obtain ⟨hlongest, htied⟩ := isLongest_of_longest hfound (by simp)
    have hpassed := Passed.single hlongest (by
      rw [htied]
      exact List.all_eq_true.1 hall)
    rw [Cursor.rest_skip] at hsplit
    rw [hsplit] at hpassed
    refine ⟨_, hpassed.append hgap, ?_⟩
    rw [List.append_assoc, ← hsplit, List.take_append_drop]
  | _ => exact ⟨[], .nil, rfl⟩

/-- A scan by anchored rules passes over text that is ignored, and what it finds behind holds
there. -/
theorem scan_holds {source : Source} {rules : List Rule} (h : Anchored rules)
    (here : Cursor source) :
    (scan rules here).1.Holds rules (scan rules here).2.rest ∧
      ∃ gap, Passed rules (scan rules here).2.rest gap ∧
        here.rest = gap ++ (scan rules here).2.rest := by
  refine ⟨?_, scan_passed rules here⟩
  fun_induction scan rules here with
  | case1 here hrest => exact .atEnd hrest
  | case2 here c cs hrest rule hfound =>
    have hlongest := longest_start h here.rest
    rw [← spotAt_eq_start] at hlongest
    rcases hlongest with ⟨hzero, -⟩ | ⟨count, -, hcount⟩ <;> simp_all
  | case3 here c cs hrest winners hfound =>
    rw [spotAt_eq_start] at hfound
    rcases longest_start h here.rest with ⟨-, hnone⟩ | ⟨count, hcount, heq⟩
    · exact .unknown hrest hnone
    · rw [hfound] at heq
      have := hcount.bounds.1
      simp only [Except.ok.injEq, Prod.mk.injEq] at heq
      omega
  | case4 here c cs hrest count hne hfound =>
    rw [spotAt_eq_start] at hfound
    rcases longest_start h here.rest with ⟨-, hnone⟩ | ⟨best, hbest, heq⟩
    · exact .unknown hrest hnone
    · rw [hfound] at heq
      simp only [Except.ok.injEq, Prod.mk.injEq] at heq
      exact absurd heq.2.symm hbest.tied_ne_nil
  | case5 here c cs hrest count first others hfound hall ih => exact ih
  | case6 here c cs hrest count first others hfound hall hany =>
    rw [spotAt_eq_start] at hfound
    obtain ⟨hlongest, htied⟩ := isLongest_of_longest hfound (by simp)
    rw [← htied] at hall hany ⊢
    exact .mixed hlongest (List.any_eq_true.1 hany) (by simpa using hall)
  | case7 here c cs hrest count first others hfound hall hany =>
    rw [spotAt_eq_start] at hfound
    obtain ⟨hlongest, htied⟩ := isLongest_of_longest hfound (by simp)
    refine .lexeme hlongest htied ?_
    intro rule hrule
    rw [htied] at hrule
    simpa using fun hignored => hany (List.any_eq_true.2 ⟨rule, hrule, hignored⟩)

end GrammarLang.Scan
