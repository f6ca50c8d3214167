import GrammarLang.Proofs.Grammar.CodeWords
import GrammarLang.Proofs.Grammar.Leads

/-! # What closed code leads with

A comment at the start of code is a gap to a parser that looks at the word behind the opening brace. If
the code is closed in front of every text, the comment ends inside the code, so what the parser sees
does not depend on what stands behind the code: **`ClosesAlways.exists_lead`**. -/

namespace GrammarLang.Grammar

open GrammarLang.Text

/-! ## Comments in front of more text -/

theorem commentEnd?_cons {c : Char} {cs : List Char} (h : ∀ ds, c = '*' → cs = '/' :: ds → False) :
    commentEnd? (c :: cs) = commentEnd? cs := by
  rw [commentEnd?]
  exact h

/-- A comment that ends inside a text ends there in front of more text. -/
theorem commentEnd?_append {cs rest : List Char} (h : commentEnd? cs = some rest)
    (more : List Char) : commentEnd? (cs ++ more) = some (rest ++ more) := by
  fun_induction commentEnd? cs with
  | case1 cs =>
    cases h
    rfl
  | case2 c cs hnot ih =>
    rw [List.cons_append, commentEnd?_cons, ih h]
    rintro ds rfl hslash
    -- The star is not the last character, as nothing ends behind the last one.
    cases cs with
    | nil => contradiction
    | cons d cs => exact hnot cs rfl (by rw [(List.cons.inj hslash).1])
  | case3 => contradiction

/-- A comment that does not end inside a text ends where its end stands behind a brace. -/
theorem commentEnd?_brace {cs : List Char} (h : commentEnd? cs = none) (more : List Char) :
    commentEnd? (cs ++ '\x7d' :: '*' :: '/' :: more) = some more := by
  fun_induction commentEnd? cs with
  | case1 => contradiction
  | case2 c cs hnot ih =>
    rw [List.cons_append, commentEnd?_cons, ih h]
    rintro ds rfl hslash
    cases cs with
    | nil => exact absurd (List.cons.inj hslash).1 (by decide)
    | cons d cs => exact hnot cs rfl (by rw [(List.cons.inj hslash).1])
  | case3 => rfl

/-! ## Closed code -/

/-- Blanks mean nothing in code. -/
theorem isCodeChar_of_isBlank {c : Char} (hblank : isBlank c = true) : isCodeChar c = true := by
  have hne {d : Char} (hd : isBlank d = false) : c ≠ d := by
    rintro rfl
    rw [hblank] at hd
    contradiction
  rw [isCodeChar_eq]
  simp [hne (d := '\"') (by decide), hne (d := '\'') (by decide), hne (d := '/') (by decide),
    hne (d := '\x7b') (by decide), hne (d := '\x7d') (by decide)]

namespace ClosesAlways

variable {c : Char} {cs rest : List Char}

/-- What stands behind the first word of code is closed as the code is. -/
theorem of_codeRest (h : ClosesAlways (c :: cs)) (hopening : c ≠ '\x7b') (hclosing : c ≠ '\x7d')
    (hrest : ∀ more, codeRest (c :: (cs ++ '\x7d' :: more)) = rest ++ '\x7d' :: more) :
    ClosesAlways rest := by
  intro behind
  have hcloses := h behind
  rw [Closes, List.cons_append, codeEnd_cons hopening hclosing, hrest] at hcloses
  exact hcloses

theorem of_codeChar (h : ClosesAlways (c :: cs)) (hc : isCodeChar c = true) : ClosesAlways cs := by
  intro behind
  have hcloses := h behind
  rw [Closes, List.cons_append, codeEnd_codeChar hc] at hcloses
  exact hcloses

/-- A line comment in closed code ends inside the code. -/
theorem dropWhile_append (h : ClosesAlways ('/' :: '/' :: cs)) (more : List Char) :
    (cs ++ '\x7d' :: more).dropWhile (· ≠ '\n') = cs.dropWhile (· ≠ '\n') ++ '\x7d' :: more := by
  rw [List.dropWhile_append, if_neg]
  intro hempty
  -- Otherwise the comment takes the closing brace with it.
  have hcloses := h []
  have hline : (cs ++ ['\x7d']).dropWhile (· ≠ '\n') = [] := by
    rw [List.dropWhile_append, if_pos hempty]
    rfl
  rw [Closes, List.cons_append, List.cons_append, codeEnd_cons (by decide) (by decide), codeRest,
    hline, codeEnd] at hcloses
  contradiction

/-- A block comment in closed code ends inside the code. -/
theorem exists_commentEnd (h : ClosesAlways ('/' :: '*' :: cs)) :
    ∃ rest, commentEnd? cs = some rest := by
  rw [← Option.isSome_iff_exists, Option.isSome_iff_ne_none]
  intro hnone
  -- Otherwise the comment goes on up to an end that stands behind the closing brace.
  have hcloses := h ['*', '/']
  rw [Closes, List.cons_append, List.cons_append, codeEnd_cons (by decide) (by decide), codeRest,
    commentEnd?_brace hnone, Option.getD_some, codeEnd] at hcloses
  contradiction

/-- **Closed code leads with the same character** in front of every text. -/
theorem exists_lead {code : List Char} (h : ClosesAlways code) :
    ∃ c, ∀ behind, lead (code ++ '\x7d' :: behind) = some c := by
  match code with
  | [] =>
    refine ⟨'\x7d', fun behind => ?_⟩
    rw [lead, List.nil_append, behindGap_cons (by decide) (by decide)]
    rfl
  | c :: cs =>
    -- The first character belongs to a gap, which leaves closed code behind it, or to a word.
    have hgap {rest : List Char} (hshorter : rest.length ≤ cs.length) (hrest : ClosesAlways rest)
        (hbehind : ∀ behind, behindGap (c :: (cs ++ '\x7d' :: behind)) =
          behindGap (rest ++ '\x7d' :: behind)) :
        ∃ d, ∀ behind, lead (c :: cs ++ '\x7d' :: behind) = some d := by
      obtain ⟨d, hlead⟩ := exists_lead hrest
      exact ⟨d, fun behind => by rw [← hlead behind, lead, List.cons_append, hbehind, lead]⟩
    have hword (hcons : ∀ behind, behindGap (c :: (cs ++ '\x7d' :: behind)) =
        c :: (cs ++ '\x7d' :: behind)) :
        ∃ d, ∀ behind, lead (c :: cs ++ '\x7d' :: behind) = some d :=
      ⟨c, fun behind => by rw [lead, List.cons_append, hcons]; rfl⟩
    by_cases hslash : c = '/'
    · subst hslash
      cases cs with
      | nil => exact hword fun behind => behindGap_slash (by decide) (by decide) behind
      | cons d cs =>
        by_cases hline : d = '/'
        · subst hline
          refine hgap ((List.dropWhile_suffix (· ≠ '\n')).trans (List.suffix_cons _ _)).length_le
            (h.of_codeRest (by decide) (by decide) h.dropWhile_append) fun behind => ?_
          rw [List.cons_append, behindGap_lineComment, h.dropWhile_append]
        · by_cases hblock : d = '*'
          · subst hblock
            obtain ⟨rest, hend⟩ := h.exists_commentEnd
            refine hgap ((commentEnd?_suffix hend).trans (List.suffix_cons _ _)).length_le
              (h.of_codeRest (by decide) (by decide) fun more => ?_) fun behind => ?_
            · rw [List.cons_append, codeRest, commentEnd?_append hend, Option.getD_some]
            · rw [List.cons_append, behindGap_blockComment (commentEnd?_append hend _)]
          · exact hword fun behind => behindGap_slash hline hblock _
    · by_cases hblank : isBlank c = true
      · exact hgap (Nat.le_refl _) (h.of_codeChar (isCodeChar_of_isBlank hblank)) fun behind =>
          behindGap_blank hblank _
      · exact hword fun behind => behindGap_cons (Bool.eq_false_iff.2 hblank) hslash _
termination_by code.length

end ClosesAlways

end GrammarLang.Grammar
