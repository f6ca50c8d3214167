import GrammarLang.Scan.RuleTable
import GrammarLang.Text.Cursor

/-! # The next lexeme of a text

**`scan`** looks for the next stretch of a text that is more than ignored text: it passes over the
longest matches of ignoring rules and says what it finds behind them. It is the one place where the
longest match decides, for scanning proper as well as for looking ahead. -/

namespace GrammarLang.Scan

open GrammarLang.Text

/-- What is found at a place. -/
inductive Finding
  /-- The end of the text. -/
  | atEnd
  /-- A character that no rule matches. -/
  | unknown (c : Char)
  /-- A rule that matched, but not there. -/
  | misplaced (rule : Rule)
  /-- A longest match, `count` characters long, of rules that disagree on whether to ignore it. -/
  | mixed (rules : List Rule) (count : Nat)
  /-- A longest match, `count` characters long, that becomes a token of each of the rules. -/
  | lexeme (first : Rule) (others : List Rule) (count : Nat)

/-- The spot of a place, for matching the text from there on as a text of its own. -/
def spotAt {source : Source} (here : Cursor source) : Regex.Spot here.rest :=
  .startOf here.rest here.left here.left_eq

@[simp] theorem spotAt_eq_start {source : Source} (here : Cursor source) :
    spotAt here = .start here.rest :=
  Regex.Spot.startOf_eq_start here.rest here.left here.left_eq

/-- What the rules find in a text from a place on, behind the matches they ignore, and where. -/
def scan {source : Source} (rules : List Rule) (here : Cursor source) : Finding × Cursor source :=
  match _ : here.rest with
  | [] => (.atEnd, here)
  | c :: _ =>
    match longest rules (spotAt here) with
    | .error rule => (.misplaced rule, here)
    | .ok (0, _) => (.unknown c, here)
    | .ok (_, []) => (.unknown c, here)
    | .ok (count + 1, first :: others) =>
      if (first :: others).all Rule.ignored then scan rules (here.skip (count + 1))
      else if (first :: others).any Rule.ignored then (.mixed (first :: others) (count + 1), here)
      else (.lexeme first others (count + 1), here)
termination_by here.left
decreasing_by
  have hrest : here.rest = _ := ‹_›
  have hleft := here.left_eq
  rw [hrest, List.length_cons] at hleft
  rw [Cursor.left_skip]
  omega

/-- What is found stands in the text: only text before it is passed over. -/
theorem rest_scan_suffix {source : Source} (rules : List Rule) (here : Cursor source) :
    (scan rules here).2.rest <:+ here.rest := by
  fun_induction scan rules here with
  | case5 here _ _ _ count _ _ _ _ ih => exact ih.trans (List.drop_suffix (count + 1) here.rest)
  | _ => exact List.suffix_refl _

/-- The end is found where no text is left. -/
theorem rest_of_scan_eq_atEnd {source : Source} {rules : List Rule} {here there : Cursor source}
    (h : scan rules here = (.atEnd, there)) : there.rest = [] := by
  fun_induction scan rules here with
  | case1 here hrest => cases h; exact hrest
  | case5 _ _ _ _ _ _ _ _ _ ih => exact ih h
  | _ => simp at h

/-- The lexeme found is the longest match of its rules, and none of them ignores it. -/
theorem longest_of_scan_eq_lexeme {source : Source} {rules others : List Rule}
    {here there : Cursor source} {first : Rule} {count : Nat}
    (h : scan rules here = (.lexeme first others count, there)) :
    0 < count ∧ there.rest ≠ [] ∧ longest rules (spotAt there) = .ok (count, first :: others) ∧
      (first :: others).any Rule.ignored = false := by
  fun_induction scan rules here with
  | case7 here c cs hrest count' first' others' hlongest hall hany =>
    simp only [Prod.mk.injEq, Finding.lexeme.injEq] at h
    obtain ⟨⟨rfl, rfl, rfl⟩, rfl⟩ := h
    exact ⟨Nat.succ_pos _, by rw [hrest]; simp, hlongest, by simpa using hany⟩
  | case5 _ _ _ _ _ _ _ _ _ ih => exact ih h
  | _ => simp at h

end GrammarLang.Scan
