import GrammarLang.Proofs.Regex.Enclosed
import GrammarLang.Proofs.Regex.Runs

/-! # Expressions for texts

The pattern that an escaped text spells is compiled to that text, as long as letters have to match in
their own case: **`compile?_caret_escape`**. It matches where the text comes next, and nowhere else:
**`Expr.takes?_verbatim`**. -/

namespace GrammarLang.Regex

/-- The expression that matches a text. -/
def Expr.verbatim : List Char → Expr
  | [] => .empty
  | c :: cs => .text ((c :: cs).map .char)

namespace Reading

variable {reading : Reading}

/-- A character of a pattern stands for itself, whether classes are sets of characters or of bytes. -/
theorem literal?_eq (hcase : reading.flags.anyCase = false) (c : Char) :
    reading.literal? ⟨c, false⟩ = some (.text [.char c]) := by
  have hbyte : reading.isByte ⟨c, false⟩ = false := by simp [isByte]
  have hclose : reading.flags.closeCase [(c.toNat, c.toNat)] = [(c.toNat, c.toNat)] := by
    simp [Flags.closeCase, hcase]
  simp only [literal?, hbyte, hclose, Bool.false_eq_true, if_false]
  split
  · rename_i hcode
    rw [element, Flags.alphabet]
    cases hunicode : reading.flags.unicode with
    | true => simp [Expr.ofChars]
    | false =>
      have hplain : c.toNat < 0x80 := by simpa [hunicode] using hcode
      simp [Expr.ofBytes, Expr.ofByte, hplain]
  · rfl

/-- Characters one after another are a text. -/
theorem branches?_literals (hcase : reading.flags.anyCase = false) (text : List Char) :
    reading.branches? (.sequence (literals text)) = some ([.verbatim text], reading.flags) := by
  induction text with
  | nil => rfl
  | cons c cs ih =>
    have hletter := literal?_eq hcase c
    -- A single character is no sequence; with others behind it, it joins their text.
    cases cs with
    | nil => simp [literals, Pattern.sequence, branches?, hletter, Expr.verbatim]
    | cons d ds =>
      have hsequence : Pattern.sequence (literals (c :: d :: ds)) =
          .seq (.literal ⟨c, false⟩) (.sequence (literals (d :: ds))) := rfl
      have hfirst : Expr.choice [.text [.char c]] = .text [.char c] := Expr.choice_singleton rfl
      have hothers : Expr.choice [.verbatim (d :: ds)] = .verbatim (d :: ds) :=
        Expr.choice_singleton rfl
      simp only [hsequence, branches?, hletter, ih, Option.map_some, Option.bind_eq_bind,
        Option.bind_some, hfirst, hothers]
      rfl

/-- In a group behind a caret, a text is matched at the start. -/
theorem expr?_caret_literals (hcase : reading.flags.anyCase = false)
    (hlines : reading.flags.multiLine = false) (text : List Char) :
    reading.expr? (.seq (.assertion .lineStart) (.group none [] (.sequence (literals text)))) =
      some ((Expr.look .textStart).andThen (.verbatim text)) := by
  have hlook : reading.look .lineStart = .textStart := by simp [look, hlines]
  have hinside := branches?_literals hcase text
  have hcaret : Expr.choice [.look .textStart] = .look .textStart := Expr.choice_singleton rfl
  have hgroup : Expr.choice [.choice [.verbatim text]] = .verbatim text := by cases text <;> rfl
  have hwhole : Expr.choice [(Expr.look .textStart).andThen (.verbatim text)] =
      (Expr.look .textStart).andThen (.verbatim text) := by cases text <;> rfl
  simp only [expr?, branches?, Flags.setAll, List.foldl_nil, hinside, hlook, Option.bind_eq_bind,
    Option.pure_def, Option.bind_some, Option.map_some, hcaret, hgroup, hwhole]

end Reading

/-- An escaped text in a group behind a caret is matched at the start. -/
theorem compile?_caret_escape {reading : Reading} (hcase : reading.flags.anyCase = false)
    (hlines : reading.flags.multiLine = false) (text : List Char) :
    compile? reading false ("^(?:".toList ++ escape text ++ [')']) =
      some ⟨(Expr.look .textStart).andThen (.verbatim text), reading.wholeChars⟩ := by
  rw [compile?, ofText?_caret_escape]
  simp [Reading.expr?_caret_literals hcase hlines]

namespace Expr

/-- What matches a text at the start ends where it does without asking for the start. -/
theorem ends_textStart_verbatim (text rest : List Char) :
    ((look .textStart).andThen (verbatim text)).ends (.start rest) =
      (verbatim text).ends (.start rest) := by
  cases text with
  | nil =>
    show (look .textStart).ends (.start rest) = [.start rest]
    simp [Look.holds]
  | cons c cs => exact ends_textStart_seq (verbatim (c :: cs)) rest

theorem textual_verbatim (text : List Char) : (verbatim text).textual = true := by
  cases text with
  | nil => rfl
  | cons c cs => simp [verbatim, textual, Letter.isChar]

/-- What matches a text takes that text and nothing else. -/
theorem takes?_verbatim (text rest : List Char) :
    (verbatim text).takes? rest = if text ≠ [] ∧ text <+: rest then some text.length else none := by
  cases text with
  | nil => simp [verbatim, takes?, first?, rests]
  | cons c cs =>
    rw [takes?, verbatim, first?_text]
    by_cases hstarts : (c :: cs) <+: rest
    · obtain ⟨behind, rfl⟩ := hstarts
      rw [(Letter.behind?_eq_some_iff (c :: cs)).2 rfl]
      simp only [List.length_append, Nat.add_sub_cancel]
      simp
    · have hnone : Letter.behind? ((c :: cs).map .char) rest = none := by
        rw [Option.eq_none_iff_forall_ne_some]
        intro behind hbehind
        exact hstarts ⟨behind, ((Letter.behind?_eq_some_iff (c :: cs)).1 hbehind).symm⟩
      rw [hnone]
      simp [hstarts]

end Expr

end GrammarLang.Regex
