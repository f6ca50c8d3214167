import GrammarLang.Proofs.Regex.Steady
import GrammarLang.Regex.Meaning

/-! # Patterns in a group behind a caret

A text that spells a pattern spells the same pattern inside a group, as long as the group around is
closed at all (**`readRest_under`**): what is read is a caret and a group (**`ofText?_enclosed`**), and
matches of that start where the text starts (**`Reading.anchored_of_expr?`**). -/

namespace GrammarLang.Regex

open Reader

/-! ## One more group around -/

namespace Progress

variable {progress further : Progress} {outer : OpenGroup} {c : Char} {text rest : List Char}

/-- The same progress inside one more group, around all that are open. -/
def under (progress : Progress) (outer : OpenGroup) : Progress :=
  { progress with groups := progress.groups ++ [outer] }

theorem closeGroup?_under (h : progress.closeGroup? = some further) :
    (progress.under outer).closeGroup? = some (further.under outer) := by
  obtain ⟨groups, branches, items, spacedOut, numbered, names, brackets⟩ := progress
  cases groups with
  | nil => contradiction
  | cons group groups =>
    cases h
    rfl

theorem repeatLast_under {counts : Reader (Nat × Option Nat)} {spaceBeforeMark : Bool}
    (h : (progress.repeatLast counts spaceBeforeMark).run text = some (further, rest)) :
    ((progress.under outer).repeatLast counts spaceBeforeMark).run text =
      some (further.under outer, rest) := by
  obtain ⟨groups, branches, items, spacedOut, numbered, names, brackets⟩ := progress
  rcases items with _ | ⟨item, items⟩
  · contradiction
  · cases item
    case flags | empty => contradiction
    all_goals
      obtain ⟨found, between, hfound, hrest⟩ := run_bind_eq_some_iff.1 h
      cases hfound
      obtain ⟨counts, behind, hcounts, hmark⟩ := run_bind_eq_some_iff.1 hrest
      obtain ⟨⟨⟩, spaced, hspaced, hreluctant⟩ := run_bind_eq_some_iff.1 hmark
      obtain ⟨reluctant, after, hread, hdone⟩ := run_bind_eq_some_iff.1 hreluctant
      cases hdone
      exact run_bind_eq_some_iff.2 ⟨_, _, rfl, run_bind_eq_some_iff.2 ⟨counts, behind, hcounts,
        run_bind_eq_some_iff.2 ⟨(), spaced, hspaced, run_bind_eq_some_iff.2
          ⟨reluctant, _, hread, rfl⟩⟩⟩⟩

/-- A step inside one more group. -/
theorem stepOutside_under (h : (stepOutside progress c).run text = some (further, rest)) :
    (stepOutside (progress.under outer) c).run text = some (further.under outer, rest) := by
  rw [stepOutside.eq_def]
  split
  case h_1 =>
    obtain ⟨head, between, hhead, hrest⟩ := run_bind_eq_some_iff.1 h
    refine run_bind_eq_some_iff.2 ⟨head, between, hhead, ?_⟩
    cases head with
    | named name =>
      obtain ⟨⟨⟩, behind, hfresh, hdone⟩ := run_bind_eq_some_iff.1 hrest
      cases hdone
      exact run_bind_eq_some_iff.2 ⟨(), _, hfresh, rfl⟩
    | _ => cases hrest; rfl
  case h_2 =>
    have h : (ofOption progress.closeGroup?).run text = some (further, rest) := h
    cases hclose : progress.closeGroup? with
    | none =>
      rw [hclose] at h
      contradiction
    | some closed =>
      rw [hclose] at h
      rw [closeGroup?_under hclose]
      cases h
      rfl
  case h_4 =>
    obtain ⟨bracket, between, hbracket, hdone⟩ := run_bind_eq_some_iff.1 h
    cases hdone
    exact run_bind_eq_some_iff.2 ⟨bracket, _, hbracket, rfl⟩
  case h_5 | h_6 | h_7 | h_8 => exact repeatLast_under h
  case h_9 =>
    obtain ⟨item, between, hitem, hdone⟩ := run_bind_eq_some_iff.1 h
    cases hdone
    exact run_bind_eq_some_iff.2 ⟨item, _, hitem, rfl⟩
  case h_13 =>
    rw [stepOutside] at h
    · cases h
      rfl
    all_goals assumption
  all_goals
    cases h
    rfl

/-- A step inside a bracket, with one more group around. -/
theorem stepInBracket_under {bracket : OpenBracket} {others : List OpenBracket}
    (h : (stepInBracket progress bracket others c).run text = some (further, rest)) :
    (stepInBracket (progress.under outer) bracket others c).run text =
      some (further.under outer, rest) := by
  rw [stepInBracket.eq_def]
  split
  case h_1 =>
    obtain ⟨tree?, between, htree, hrest⟩ := run_bind_eq_some_iff.1 h
    refine run_bind_eq_some_iff.2 ⟨tree?, between, htree, ?_⟩
    cases tree? with
    | some tree =>
      cases hrest
      rfl
    | none =>
      obtain ⟨inner, behind, hinner, hdone⟩ := run_bind_eq_some_iff.1 hrest
      cases hdone
      exact run_bind_eq_some_iff.2 ⟨inner, _, hinner, rfl⟩
  case h_2 =>
    cases others <;> cases h <;> rfl
  case h_3 =>
    rw [stepInBracket] at h
    rotate_left
    · assumption
    · assumption
    obtain ⟨after, between, hafter, hrest⟩ := run_bind_eq_some_iff.1 h
    refine run_bind_eq_some_iff.2 ⟨after, between, hafter, ?_⟩
    dsimp only at hrest ⊢
    split at hrest
    · obtain ⟨⟨⟩, behind, hskip, hdone⟩ := run_bind_eq_some_iff.1 hrest
      cases hdone
      exact run_bind_eq_some_iff.2 ⟨(), _, hskip, rfl⟩
    · obtain ⟨tree, behind, htree, hdone⟩ := run_bind_eq_some_iff.1 hrest
      cases hdone
      exact run_bind_eq_some_iff.2 ⟨tree, _, htree, rfl⟩

theorem step_under (h : (step progress c).run text = some (further, rest)) :
    (step (progress.under outer) c).run text = some (further.under outer, rest) := by
  rw [step.eq_def] at h ⊢
  rw [show (progress.under outer).brackets = progress.brackets from rfl]
  split at h
  · exact stepOutside_under h
  · exact stepInBracket_under h

end Progress

/-! ## Reading to the end -/

section

variable {progress further : Progress} {c : Char} {text cs rest : List Char}

theorem readRest_of_nil (h : skipSpacing progress.spacedOut text = []) :
    readRest progress text = progress.finish? := by
  rw [readRest]
  split
  · rfl
  · rename_i heq
    rw [h] at heq
    contradiction

theorem readRest_of_step (h : skipSpacing progress.spacedOut text = c :: cs)
    (hstep : (step progress c).run cs = some (further, rest)) :
    readRest progress text = readRest further rest := by
  rw [readRest]
  split
  · rename_i heq
    rw [h] at heq
    contradiction
  · rename_i heq
    rw [h] at heq
    cases heq
    split
    · rename_i hnone
      rw [hstep] at hnone
      contradiction
    · rename_i hsome
      rw [hstep] at hsome
      cases hsome
      rfl

end

/-- The pattern that is read when the last open group is closed around a pattern. -/
def OpenGroup.around (outer : OpenGroup) (pattern : Pattern) : Pattern :=
  .choice (.sequence (.group outer.number outer.settings pattern :: outer.items).reverse ::
    outer.branches).reverse

/-- A text that is read as a pattern is read as the same pattern inside a group, if the text with the
group around is read at all. -/
theorem readRest_under {progress : Progress} {outer : OpenGroup} {text : List Char}
    {pattern whole : Pattern} (h : readRest progress text = some pattern)
    (hwhole : readRest (progress.under outer) (text ++ [')']) = some whole) :
    whole = outer.around pattern := by
  fun_induction readRest progress text with
  | case1 progress text hnil =>
    have hopen : (progress.under outer).finish? = none := by
      simp [Progress.finish?, Progress.under]
    rcases skipSpacing_append (progress.under outer).spacedOut text with hsame | ⟨-, hboth⟩
    · rw [show (progress.under outer).spacedOut = progress.spacedOut from rfl, hnil,
        List.nil_append] at hsame
      obtain ⟨groups, branches, items, spacedOut, numbered, names, brackets⟩ := progress
      simp only [Progress.finish?] at h
      split at h
      · rename_i hclosed
        obtain ⟨hgroups, hbrackets⟩ := Bool.and_eq_true_iff.1 hclosed
        obtain rfl := List.isEmpty_iff.1 hgroups
        obtain rfl := List.isEmpty_iff.1 hbrackets
        have hstep : (step (Progress.under ⟨[], branches, items, spacedOut, numbered, names, []⟩ outer)
            ')').run [] = some (⟨[], outer.branches, .group outer.number outer.settings pattern ::
              outer.items, outer.spacedOut, numbered, names, []⟩, []) := by
          cases h
          rfl
        have hnone : skipSpacing outer.spacedOut [] = [] := by cases outer.spacedOut <;> rfl
        have hsame : skipSpacing (Progress.under ⟨[], branches, items, spacedOut, numbered, names, []⟩
            outer).spacedOut (text ++ [')']) = [')'] := hsame
        rw [readRest_of_step hsame hstep, readRest_of_nil hnone] at hwhole
        cases hwhole
        rfl
      · contradiction
    · rw [readRest_of_nil hboth, hopen] at hwhole
      contradiction
  | case2 => contradiction
  | case3 progress text c cs hcons further rest hstep ih =>
    have hsame : skipSpacing (progress.under outer).spacedOut (text ++ [')']) =
        c :: (cs ++ [')']) := by
      rw [← List.cons_append, ← hcons]
      exact skipSpacing_append_of_ne_nil (by
        rw [show (progress.under outer).spacedOut = progress.spacedOut from rfl, hcons]
        exact List.cons_ne_nil _ _)
    rcases steady_step progress c hstep with hinside | ⟨rfl, hend⟩
    · rw [readRest_of_step hsame (Progress.step_under hinside)] at hwhole
      exact ih h hwhole
    · -- The parenthesis belongs to a comment, so that the group is never closed.
      have hnone : skipSpacing (further.under outer).spacedOut [] = [] := by
        cases (further.under outer).spacedOut <;> rfl
      rw [readRest_of_step hsame (Progress.step_under hend), readRest_of_nil hnone] at hwhole
      simp [Progress.finish?, Progress.under] at hwhole

/-- The opening of a group without a number. -/
theorem run_readGroupHead (text : List Char) :
    (readGroupHead false).run ('?' :: ':' :: text) = some (.plain [], text) := by
  have hnone : flagSettings? [] = some [] := rfl
  simp [readGroupHead, run_bind, spacing, ahead, Reader.require, Reader.give, accept, takeWhile,
    Reader.next, hnone, Reader.ofOption, List.isPrefixOf]

/-- The group that a text is put into behind a caret. -/
def caretGroup : OpenGroup := ⟨none, [], [], [.assertion .lineStart], false⟩

/-- A caret and the opening of a group are read first. -/
theorem ofText?_caretGroup (text : List Char) :
    Pattern.ofText? false ("^(?:".toList ++ text) =
      readRest ((Progress.initial false).under caretGroup) text := by
  have hmark : "^(?:".toList = ['^', '(', '?', ':'] := by decide
  let caret : Progress := (Progress.initial false).add (.assertion .lineStart)
  have hcaret (rest : List Char) : (step (.initial false) '^').run rest = some (caret, rest) := rfl
  have hopening (rest : List Char) : (step caret '(').run ('?' :: ':' :: rest) =
      some ((Progress.initial false).under caretGroup, rest) :=
    run_bind_eq_some_iff.2 ⟨.plain [], rest, run_readGroupHead rest, rfl⟩
  rw [Pattern.ofText?, hmark]
  exact (readRest_of_step rfl (hcaret _)).trans (readRest_of_step rfl (hopening _))

/-- A pattern in a group of its own behind a caret is read as such, if it is read at all. -/
theorem ofText?_enclosed {text : List Char} {pattern whole : Pattern}
    (h : Pattern.ofText? false text = some pattern)
    (hwhole : Pattern.ofText? false ("^(?:".toList ++ text ++ [')']) = some whole) :
    whole = .seq (.assertion .lineStart) (.group none [] pattern) := by
  rw [List.append_assoc, ofText?_caretGroup] at hwhole
  exact readRest_under h hwhole

/-- The expression for a caret and a group behind it matches at the start of a text only. -/
theorem Reading.anchored_of_expr? {reading : Reading} {pattern : Pattern} {expr : Expr}
    (hlines : reading.flags.multiLine = false)
    (h : reading.expr? (.seq (.assertion .lineStart) (.group none [] pattern)) = some expr) :
    expr.anchored = true := by
  obtain ⟨⟨branches, flags⟩, hbranches, rfl⟩ := Option.map_eq_some_iff.1 h
  obtain ⟨⟨second, after⟩, hsecond, hdone⟩ := Option.bind_eq_some_iff.1 hbranches
  have hlook : reading.look .lineStart = .textStart := by simp [look, hlines]
  cases hdone
  rw [hlook, Expr.choice_singleton rfl]
  -- A condition in front of an expression stays in front, whatever the expression is.
  cases Expr.choice second <;> rfl

/-! ## Literal texts -/

theorem run_readEscape_meta {c : Char} (hc : isMeta c = true) (rest : List Char) :
    (readEscape false).run (c :: rest) = some (.literal ⟨c, false⟩, rest) := by
  have hescapable : isEscapable c = true := by rw [isEscapable, hc, Bool.true_or]
  rw [readEscape, run_bind_eq_some_iff]
  refine ⟨c, rest, rfl, ?_⟩
  -- The letters behind a backslash that mean something mean nothing without one.
  split
  case h_18 => rw [if_pos hescapable, run_pure]
  all_goals exact absurd hc (by decide)

theorem run_stepOutside_literal {c : Char} (hc : isMeta c = false) (progress : Progress)
    (rest : List Char) :
    (stepOutside progress c).run rest = some (progress.add (.literal ⟨c, false⟩), rest) := by
  rw [stepOutside.eq_def]
  split
  case h_13 => rfl
  all_goals exact absurd hc (by decide)

/-- The characters of a text as patterns, one for each. -/
def literals (text : List Char) : List Pattern := text.map fun c => .literal ⟨c, false⟩

/-- The progress once the characters of a text have been read as such. -/
def Progress.spell (progress : Progress) (text : List Char) : Progress :=
  { progress with items := (literals text).reverse ++ progress.items }

theorem Progress.spell_cons (progress : Progress) (c : Char) (cs : List Char) :
    progress.spell (c :: cs) = (progress.add (.literal ⟨c, false⟩)).spell cs := by
  simp [spell, add, literals]

/-- Escaped characters are read one by one, and each stands for itself. -/
theorem readRest_escape {progress : Progress} (hspaced : progress.spacedOut = false)
    (hbrackets : progress.brackets = []) (text rest : List Char) :
    readRest progress (escape text ++ rest) = readRest (progress.spell text) rest := by
  induction text generalizing progress with
  | nil => rfl
  | cons c cs ih =>
    have hskip (text : List Char) : skipSpacing progress.spacedOut text = text := by
      rw [hspaced]
      rfl
    have hstep (c : Char) : step progress c = stepOutside progress c := by
      rw [step, hbrackets]
    -- Reading a character opens no group and no bracket, so that the next one is read alike.
    have hfurther : (progress.add (.literal ⟨c, false⟩)).spacedOut = false := hspaced
    rw [Progress.spell_cons, ← ih hfurther hbrackets, escape_cons]
    cases hc : isMeta c with
    | true =>
      refine readRest_of_step (hskip _) ?_
      rw [hstep]
      refine run_bind_eq_some_iff.2 ⟨_, _, ?_, rfl⟩
      rw [hspaced]
      exact run_readEscape_meta hc (escape cs ++ rest)
    | false =>
      refine readRest_of_step (hskip _) ?_
      rw [hstep]
      exact run_stepOutside_literal hc progress (escape cs ++ rest)

/-- A text is a pattern for itself once its characters are escaped. -/
theorem ofText?_escape (text : List Char) :
    Pattern.ofText? false (escape text) = some (.sequence (literals text)) := by
  have hdone : readRest ((Progress.initial false).spell text) [] = some (.sequence (literals text)) := by
    rw [readRest_of_nil rfl]
    simp [Progress.finish?, Progress.contents, Progress.initial, Progress.spell, Pattern.choice]
  rw [Pattern.ofText?, ← List.append_nil (escape text), readRest_escape rfl rfl, hdone]

/-- It is the same pattern in a group behind a caret. -/
theorem ofText?_caret_escape (text : List Char) :
    Pattern.ofText? false ("^(?:".toList ++ escape text ++ [')']) =
      some (.seq (.assertion .lineStart) (.group none [] (.sequence (literals text)))) := by
  let inside := ((Progress.initial false).under caretGroup).spell text
  have hstep : (step inside ')').run [] = some ((Progress.initial false).add (.assertion .lineStart)
      |>.add (.group none [] inside.contents), []) := rfl
  have hcontents : inside.contents = .sequence (literals text) := by
    simp [inside, Progress.contents, Progress.initial, Progress.under, Progress.spell, Pattern.choice]
  rw [List.append_assoc, ofText?_caretGroup, readRest_escape rfl rfl, readRest_of_step rfl hstep,
    readRest_of_nil rfl, hcontents]
  rfl

end GrammarLang.Regex
