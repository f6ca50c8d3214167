import GrammarLang.Proofs.Grammar.CodeGaps
import GrammarLang.Proofs.Grammar.RegexWords

/-! # Texts that end behind a semicolon

Where a production ends, at its semicolon, the text may end too, but for the brace that closes the
grammar. Then what is found in front of the semicolon is the same as before: strings, character
literals and comments look for their ends in all of the text, but in the **`ending`** there is none
of them. What a search finds in both texts **`Agree`**s, unless it goes beyond the semicolon; so do
gaps (**`behindGap_ending`**), code (**`codeEnd_ending`**) and the words of the notation
(**`Wins.in_front_of_ending`**). -/

namespace GrammarLang.Grammar

open GrammarLang.Scan GrammarLang.Text

open Regex (SameFront)

/-- What stands behind the last semicolon of a grammar. -/
def ending : List Char := [' ', '\x7d']

variable {rest : List Char} {found found' other other' : Option (List Char)}

/-- What is found in two texts leaves the same in front of a semicolon, or reaches beyond it in the
first text. -/
def Agree (rest : List Char) (found found' : Option (List Char)) : Prop :=
  Option.Rel (SameFront ';' rest ending) found found' ∨
    ∃ behind, found = some behind ∧ behind.length ≤ rest.length

namespace Agree

theorem none : Agree rest none none := .inl .none

theorem front (front : List Char) :
    Agree rest (some (front ++ ';' :: rest)) (some (front ++ ';' :: ending)) :=
  .inl (.some ⟨front, rfl, rfl⟩)

/-- Where nothing is found in the ending, only what is found beyond the semicolon is left. -/
theorem beyond (h : ∀ behind, found = some behind → behind.length ≤ rest.length)
    (h' : found' = .none) : Agree rest found found' := by
  subst h'
  cases found with
  | none => exact .none
  | some behind => exact .inr ⟨behind, rfl, h behind rfl⟩

theorem or (h : Agree rest found found') (h' : Agree rest other other') :
    Agree rest (found.or other) (found'.or other') := by
  obtain hrel | ⟨behind, rfl, hle⟩ := h
  · cases hrel with
    | none => simpa using h'
    | some hsame => exact .inl (.some hsame)
  · exact .inr ⟨behind, rfl, hle⟩

/-- What is found from the same place on. -/
theorem bind (h : Option.Rel (SameFront ';' rest ending) found found')
    {next : List Char → Option (List Char)}
    (hnext : ∀ front, Agree rest (next (front ++ ';' :: rest)) (next (front ++ ';' :: ending))) :
    Agree rest (found.bind next) (found'.bind next) := by
  cases h with
  | none => exact .none
  | some hsame =>
    obtain ⟨front, rfl, rfl⟩ := hsame
    exact hnext front

/-- What does not reach beyond the semicolon is the same. -/
theorem of_length (h : Agree rest found found') {behind : List Char} (hfound : found = some behind)
    (hlength : rest.length < behind.length) :
    ∃ front, behind = front ++ ';' :: rest ∧ found' = some (front ++ ';' :: ending) := by
  subst hfound
  obtain hrel | ⟨_, hsame, hle⟩ := h
  · cases hrel with
    | some hsame =>
      obtain ⟨front, hbehind, rfl⟩ := hsame
      exact ⟨front, hbehind, rfl⟩
  · cases hsame
    omega

end Agree

/-! ## Strings, character literals and comments -/

/-- A string is closed in front of the semicolon, beyond it, or not at all. -/
theorem stringEnd?_agree {quote : Char} (hquote : quote = '\"' ∨ quote = '\'') (rest : List Char) :
    (front : List Char) → Agree rest (stringEnd? quote (front ++ ';' :: rest))
      (stringEnd? quote (front ++ ';' :: ending))
  | [] => by
    have hne : ';' ≠ quote := by rcases hquote with rfl | rfl <;> decide
    refine .beyond (fun behind h => ?_) ?_
    · cases rest with
      | nil => simp [stringEnd?, hne] at h
      | cons c cs =>
        rw [List.nil_append, stringEnd?, if_neg hne, if_neg (by decide)] at h
        exact (stringEnd?_suffix h).length_le
    · rcases hquote with rfl | rfl <;> decide
  | [c] => by
    have hcons (cs : List Char) : stringEnd? quote (c :: ';' :: cs) =
        if c = quote then some (';' :: cs) else if c = '\\' then stringEnd? quote cs
        else stringEnd? quote (';' :: cs) := by rw [stringEnd?]
    rw [List.singleton_append, List.singleton_append, hcons, hcons]
    split
    · exact .front []
    · split
      · refine .beyond (fun behind h => (stringEnd?_suffix h).length_le) ?_
        rcases hquote with rfl | rfl <;> decide
      · exact stringEnd?_agree hquote rest []
  | c :: d :: cs => by
    simp only [List.cons_append, stringEnd?]
    split
    · exact .front (d :: cs)
    · split
      · exact stringEnd?_agree hquote rest cs
      · exact stringEnd?_agree hquote rest (d :: cs)

/-- A string ends in its quote. -/
theorem exists_of_stringEnd? {quote : Char} {text behind : List Char}
    (h : stringEnd? quote text = some behind) : ∃ front, text = front ++ quote :: behind := by
  fun_induction stringEnd? quote text with
  | case1 => contradiction
  | case2 =>
    cases h
    exact ⟨[], rfl⟩
  | case3 => contradiction
  | case4 d cs =>
    cases h
    exact ⟨[], rfl⟩
  | case5 d cs _ ih =>
    obtain ⟨front, rfl⟩ := ih h
    exact ⟨'\\' :: d :: front, rfl⟩
  | case6 c d cs _ _ ih =>
    obtain ⟨front, hfront⟩ := ih h
    exact ⟨c :: front, by rw [hfront, List.cons_append]⟩

/-- A comment that is not closed in front of the semicolon goes on behind it. -/
theorem commentEnd?_semicolon {cs : List Char} (h : commentEnd? cs = none) (more : List Char) :
    commentEnd? (cs ++ ';' :: more) = commentEnd? more := by
  fun_induction commentEnd? cs with
  | case1 => contradiction
  | case2 c cs hnot ih =>
    rw [List.cons_append, commentEnd?_cons, ih h]
    rintro ds rfl hslash
    cases cs with
    | nil => exact absurd (List.cons.inj hslash).1 (by decide)
    | cons d cs => exact hnot cs rfl (by rw [(List.cons.inj hslash).1])
  | case3 => exact commentEnd?_cons (by simp)

/-- A comment is closed in front of the semicolon, beyond it, or not at all. -/
theorem commentEnd?_agree (rest front : List Char) :
    Agree rest (commentEnd? (front ++ ';' :: rest)) (commentEnd? (front ++ ';' :: ending)) := by
  cases hend : commentEnd? front with
  | some behind =>
    rw [commentEnd?_append hend, commentEnd?_append hend]
    exact .front behind
  | none =>
    rw [commentEnd?_semicolon hend, commentEnd?_semicolon hend]
    exact .beyond (fun behind h => (commentEnd?_suffix h).length_le) (by decide)

theorem behindQuote?_agree (rest : List Char) :
    (front : List Char) → Agree rest (behindQuote? (front ++ ';' :: rest))
      (behindQuote? (front ++ ';' :: ending))
  | [] => .none
  | c :: cs => by
    by_cases hc : c = '\''
    · subst hc
      exact .front cs
    · have hnone (text : List Char) : behindQuote? (c :: text) = none := by simp [behindQuote?, hc]
      rw [List.cons_append, List.cons_append, hnone, hnone]
      exact .none

theorem behindBrace?_agree (rest : List Char) :
    (front : List Char) → Agree rest (behindBrace? (front ++ ';' :: rest))
      (behindBrace? (front ++ ';' :: ending))
  | [] => .none
  | c :: cs => by
    by_cases hc : c = '\x7d'
    · subst hc
      exact behindQuote?_agree rest cs
    · have hnone (text : List Char) : behindBrace? (c :: text) = none := by simp [behindBrace?, hc]
      rw [List.cons_append, List.cons_append, hnone, hnone]
      exact .none

theorem isHexDigit_semicolon : isHexDigit ';' = false := by decide

theorem dropWhile_in_front {keep : Char → Bool} {c : Char} (hc : keep c = false)
    (cs more : List Char) :
    (cs ++ c :: more).dropWhile keep = cs.dropWhile keep ++ c :: more := by
  rw [List.dropWhile_append]
  split
  · rename_i hempty
    rw [List.isEmpty_iff.1 hempty, List.dropWhile_cons_of_neg (by simp [hc]), List.nil_append]
  · rfl

theorem byteEscapeEnd?_agree (rest : List Char) :
    (front : List Char) → Agree rest (byteEscapeEnd? (front ++ ';' :: rest))
      (byteEscapeEnd? (front ++ ';' :: ending))
  | [] => by
    refine .beyond (fun behind h => ?_) (by decide)
    rcases rest with _ | ⟨c, _ | ⟨d, cs⟩⟩ <;> simp [byteEscapeEnd?] at h
  | [x] => by
    refine .beyond (fun behind h => ?_) (by simp [ending, byteEscapeEnd?, isHexDigit_semicolon])
    cases rest <;> simp [byteEscapeEnd?, isHexDigit_semicolon] at h
  | [x, c] => by
    have hnone (cs : List Char) : byteEscapeEnd? (x :: c :: ';' :: cs) = none := by
      simp [byteEscapeEnd?, isHexDigit_semicolon]
    rw [List.cons_append, List.singleton_append, List.cons_append, List.singleton_append, hnone,
      hnone]
    exact .none
  | x :: c :: d :: cs => by
    simp only [List.cons_append, byteEscapeEnd?]
    split
    · exact behindQuote?_agree rest cs
    · exact .none

theorem codeEscapeEnd?_agree (rest : List Char) :
    (front : List Char) → Agree rest (codeEscapeEnd? (front ++ ';' :: rest))
      (codeEscapeEnd? (front ++ ';' :: ending))
  | [] => by
    refine .beyond (fun behind h => ?_) (by decide)
    rcases rest with _ | ⟨c, _ | ⟨d, cs⟩⟩ <;> simp [codeEscapeEnd?] at h
  | [u] => by
    refine .beyond (fun behind h => ?_) (by simp [ending, codeEscapeEnd?])
    cases rest <;> simp [codeEscapeEnd?] at h
  | [u, brace] => by
    have hnone (cs : List Char) : codeEscapeEnd? (u :: brace :: ';' :: cs) = none := by
      simp [codeEscapeEnd?, isHexDigit_semicolon]
    rw [List.cons_append, List.singleton_append, List.cons_append, List.singleton_append, hnone,
      hnone]
    exact .none
  | u :: brace :: c :: cs => by
    have hdigits (more : List Char) : (cs ++ ';' :: more).dropWhile isHexDigit =
        cs.dropWhile isHexDigit ++ ';' :: more :=
      dropWhile_in_front isHexDigit_semicolon cs more
    simp only [List.cons_append, codeEscapeEnd?, hdigits]
    split
    · exact behindBrace?_agree rest _
    · exact .none

theorem plainEscapeEnd?_agree (rest : List Char) :
    (front : List Char) → Agree rest (plainEscapeEnd? (front ++ ';' :: rest))
      (plainEscapeEnd? (front ++ ';' :: ending))
  | [] => by
    refine .beyond (fun behind h => ?_) (by decide)
    rw [List.nil_append, plainEscapeEnd?, if_neg (by decide)] at h
    exact (behindQuote?_suffix h).length_le
  | c :: cs => by
    simp only [List.cons_append, plainEscapeEnd?]
    split
    · exact .none
    · exact behindQuote?_agree rest cs

/-- A character literal is closed in front of the semicolon, beyond it, or not at all. -/
theorem charEnd?_agree (rest : List Char) :
    (front : List Char) → Agree rest (charEnd? (front ++ ';' :: rest))
      (charEnd? (front ++ ';' :: ending))
  | [] => by
    refine .beyond (fun behind h => ?_) (by decide)
    exact (charEnd?_suffix h).length_le
  | c :: cs => by
    simp only [List.cons_append, charEnd?]
    split
    · exact (byteEscapeEnd?_agree rest cs).or
        ((codeEscapeEnd?_agree rest cs).or (plainEscapeEnd?_agree rest cs))
    · split
      · exact .none
      · exact behindQuote?_agree rest cs

/-- A line comment ends in front of the semicolon, beyond it, or not at all. -/
theorem lineEnd_agree (rest front : List Char) :
    Agree rest (some ((front ++ ';' :: rest).dropWhile (· ≠ '\n')))
      (some ((front ++ ';' :: ending).dropWhile (· ≠ '\n'))) := by
  rw [List.dropWhile_append, List.dropWhile_append]
  split
  · refine .inr ⟨_, rfl, ?_⟩
    rw [List.dropWhile_cons_of_pos (by decide)]
    exact (List.dropWhile_suffix _).length_le
  · exact .front _

/-! ## Code -/

theorem codeRest_cons {c : Char} (hdouble : c ≠ '\"') (hsingle : c ≠ '\'') (hslash : c ≠ '/')
    (cs : List Char) : codeRest (c :: cs) = cs := by
  rw [codeRest]
  · exact hdouble
  · exact hsingle
  · exact fun _ h => absurd h hslash
  · exact fun _ h => absurd h hslash

theorem codeRest_of_slash {c : Char} (hline : c ≠ '/') (hblock : c ≠ '*') (cs : List Char) :
    codeRest ('/' :: c :: cs) = c :: cs := by
  rw [codeRest]
  · decide
  · decide
  · exact fun _ _ h => absurd (List.cons.inj h).1 hline
  · exact fun _ _ h => absurd (List.cons.inj h).1 hblock

/-- What is behind a word of code that is no brace is the same, or reaches beyond the semicolon. -/
theorem codeRest_agree (rest : List Char) (c : Char) (cs : List Char) :
    Agree rest (some (codeRest (c :: (cs ++ ';' :: rest))))
      (some (codeRest (c :: (cs ++ ';' :: ending)))) := by
  have hgetD {found found' : Option (List Char)} (h : Agree rest found found') (ds : List Char) :
      Agree rest (some (found.getD (ds ++ ';' :: rest)))
        (some (found'.getD (ds ++ ';' :: ending))) := by
    obtain hrel | ⟨behind, rfl, hle⟩ := h
    · cases hrel with
      | none => exact .front ds
      | some hsame => exact .inl (.some hsame)
    · exact .inr ⟨behind, rfl, hle⟩
  by_cases hdouble : c = '\"'
  · subst hdouble
    exact hgetD (stringEnd?_agree (.inl rfl) rest cs) cs
  by_cases hsingle : c = '\''
  · subst hsingle
    exact hgetD (charEnd?_agree rest cs) cs
  by_cases hslash : c = '/'
  · subst hslash
    cases cs with
    | nil =>
      rw [List.nil_append, List.nil_append, codeRest_of_slash (by decide) (by decide),
        codeRest_of_slash (by decide) (by decide)]
      exact .front []
    | cons d ds =>
      by_cases hline : d = '/'
      · subst hline
        simp only [List.cons_append, codeRest]
        exact lineEnd_agree rest ds
      · by_cases hblock : d = '*'
        · subst hblock
          exact hgetD (commentEnd?_agree rest ds) ('*' :: ds)
        · rw [List.cons_append, List.cons_append, codeRest_of_slash hline hblock,
            codeRest_of_slash hline hblock]
          exact .front (d :: ds)
  · rw [codeRest_cons hdouble hsingle hslash, codeRest_cons hdouble hsingle hslash]
    exact .front cs

/-- What is behind the brace that closes code is an end of the code. -/
theorem codeEnd_suffix {depth : Nat} {text behind : List Char}
    (h : codeEnd depth text = some behind) : behind <:+ text := by
  fun_induction codeEnd depth text with
  | case1 => contradiction
  | case2 depth cs ih => exact (ih h).trans (List.suffix_cons _ _)
  | case3 cs => cases h; exact List.suffix_cons _ _
  | case4 cs outer ih => exact (ih h).trans (List.suffix_cons _ _)
  | case5 depth c cs hopening hclosing ih =>
    exact (ih h).trans ((codeRest_suffix c cs).trans (List.suffix_cons _ _))

/-- Code that is closed in front of the semicolon is closed there too where the text ends behind the
semicolon. -/
theorem codeEnd_ending {rest : List Char} (depth : Nat) (front : List Char) {behind : List Char}
    (hend : codeEnd depth (front ++ ';' :: rest) = some behind)
    (hlength : rest.length < behind.length) :
    ∃ front', behind = front' ++ ';' :: rest ∧
      codeEnd depth (front ++ ';' :: ending) = some (front' ++ ';' :: ending) := by
  match front with
  | [] =>
    rw [List.nil_append, codeEnd_codeChar (by decide)] at hend
    have hle := (codeEnd_suffix hend).length_le
    omega
  | c :: cs =>
    rw [List.cons_append] at hend ⊢
    by_cases hopening : c = '\x7b'
    · subst hopening
      rw [codeEnd_opening] at hend ⊢
      exact codeEnd_ending (depth + 1) cs hend hlength
    by_cases hclosing : c = '\x7d'
    · subst hclosing
      cases depth with
      | zero =>
        rw [codeEnd_closing] at hend ⊢
        exact ⟨cs, (Option.some.inj hend).symm, rfl⟩
      | succ outer =>
        rw [codeEnd_closing_succ] at hend ⊢
        exact codeEnd_ending outer cs hend hlength
    · rw [codeEnd_cons hopening hclosing] at hend ⊢
      have hbeyond := (codeEnd_suffix hend).length_le
      obtain ⟨front', hfront, hfront'⟩ :=
        (codeRest_agree rest c cs).of_length rfl (Nat.lt_of_lt_of_le hlength hbeyond)
      have hshorter : front'.length < (c :: cs).length := by
        have hle := (codeRest_suffix c (cs ++ ';' :: rest)).length_le
        rw [hfront] at hle
        simp only [List.length_append, List.length_cons] at hle ⊢
        omega
      rw [hfront] at hend
      rw [Option.some.inj hfront']
      exact codeEnd_ending depth front' hend hlength
termination_by front.length
decreasing_by
  · simp
  · simp
  · exact hshorter

/-! ## Gaps -/

/-- A comment that is not closed is not passed over. -/
theorem behindGap_openComment {cs : List Char} (h : commentEnd? cs = none) :
    behindGap ('/' :: '*' :: cs) = '/' :: '*' :: cs := by
  rw [behindGap]
  split
  · rename_i heq
    rw [h] at heq
    contradiction
  · rfl

/-- A gap ends in front of the semicolon, and then it ends there too where the text ends behind the
semicolon. Or else it goes beyond; then the text that ends leads with nothing, or with the slash of a
comment that is not closed there. -/
theorem behindGap_ending (rest front : List Char) :
    (∃ front', behindGap (front ++ ';' :: rest) = front' ++ ';' :: rest ∧
      behindGap (front ++ ';' :: ending) = front' ++ ';' :: ending) ∨
    (behindGap (front ++ ';' :: rest)).length ≤ rest.length ∧
      ∀ c ∈ lead (front ++ ';' :: ending), c = '/' := by
  cases front with
  | nil =>
    exact .inl ⟨[], behindGap_cons (by decide) (by decide) rest,
      behindGap_cons (by decide) (by decide) ending⟩
  | cons c cs =>
    rw [List.cons_append, List.cons_append]
    -- Either the gap goes on behind what is passed over first, or there is none.
    have hgap {front' : List Char} (hshorter : front'.length < (c :: cs).length)
        (hbehind : ∀ more, more = rest ∨ more = ending →
          behindGap (c :: (cs ++ ';' :: more)) = behindGap (front' ++ ';' :: more)) :
        (∃ front', behindGap (c :: (cs ++ ';' :: rest)) = front' ++ ';' :: rest ∧
          behindGap (c :: (cs ++ ';' :: ending)) = front' ++ ';' :: ending) ∨
        (behindGap (c :: (cs ++ ';' :: rest))).length ≤ rest.length ∧
          ∀ d ∈ lead (c :: (cs ++ ';' :: ending)), d = '/' := by
      rw [lead, hbehind rest (.inl rfl), hbehind ending (.inr rfl), ← lead]
      exact behindGap_ending rest front'
    have hword (hsolid : ∀ more, more = rest ∨ more = ending →
          behindGap (c :: (cs ++ ';' :: more)) = c :: (cs ++ ';' :: more)) :
        (∃ front', behindGap (c :: (cs ++ ';' :: rest)) = front' ++ ';' :: rest ∧
          behindGap (c :: (cs ++ ';' :: ending)) = front' ++ ';' :: ending) ∨
        (behindGap (c :: (cs ++ ';' :: rest))).length ≤ rest.length ∧
          ∀ d ∈ lead (c :: (cs ++ ';' :: ending)), d = '/' :=
      .inl ⟨c :: cs, hsolid rest (.inl rfl), hsolid ending (.inr rfl)⟩
    by_cases hslash : c = '/'
    · subst hslash
      cases cs with
      | nil => exact hword fun more _ => behindGap_slash (by decide) (by decide) more
      | cons d ds =>
        by_cases hline : d = '/'
        · subst hline
          by_cases hempty : (ds.dropWhile (· ≠ '\n')).isEmpty = true
          · have hending : (';' :: ending).dropWhile (· ≠ '\n') = [] := by decide
            refine .inr ?_
            rw [lead, List.cons_append, List.cons_append, behindGap_lineComment,
              behindGap_lineComment, List.dropWhile_append, if_pos hempty, List.dropWhile_append,
              if_pos hempty, hending, List.dropWhile_cons_of_pos (by decide), behindGap]
            exact ⟨((behindGap_suffix _).trans (List.dropWhile_suffix _)).length_le, by simp⟩
          · refine @hgap (ds.dropWhile (· ≠ '\n')) ?_ fun more _ => ?_
            · have hle := (List.dropWhile_suffix (l := ds) (· ≠ '\n')).length_le
              simp only [List.length_cons]
              omega
            · rw [List.cons_append, behindGap_lineComment, List.dropWhile_append, if_neg hempty]
        by_cases hblock : d = '*'
        · subst hblock
          cases hend : commentEnd? ds with
          | some behind =>
            refine @hgap behind ?_ fun more _ => ?_
            · have hle := (commentEnd?_suffix hend).length_le
              simp only [List.length_cons]
              omega
            · rw [List.cons_append, behindGap_blockComment (commentEnd?_append hend _)]
          | none =>
            have hending : behindGap ('/' :: '*' :: (ds ++ ';' :: ending)) = _ :=
              behindGap_openComment ((commentEnd?_semicolon hend ending).trans (by decide))
            cases hbehind : commentEnd? rest with
            | some behind =>
              refine .inr ?_
              rw [lead, List.cons_append, List.cons_append, hending, behindGap_blockComment
                ((commentEnd?_semicolon hend rest).trans hbehind)]
              refine ⟨((behindGap_suffix _).trans (commentEnd?_suffix hbehind)).length_le, ?_⟩
              rintro _ ⟨⟩
              rfl
            | none =>
              refine hword fun more hmore => ?_
              rcases hmore with rfl | rfl
              · exact behindGap_openComment ((commentEnd?_semicolon hend more).trans hbehind)
              · exact hending
        · exact hword fun more _ => behindGap_slash hline hblock _
    · by_cases hblank : isBlank c = true
      · exact hgap (Nat.lt_succ_self _) fun more _ => behindGap_blank hblank _
      · exact hword fun more _ => behindGap_cons (Bool.eq_false_iff.2 hblank) hslash _
termination_by front.length
decreasing_by exact hshorter

/-! ## Words -/

namespace Lexicon

/-- The rules of the notation that do not match beyond a semicolon. -/
theorem avoids_semicolon {name : String} (hmem : name ∈ namesOf defaultMode)
    (hname : name ∉ [";", string, "line_comment", "block_comment"]) :
    (bodyOf name).textual = true ∧ (bodyOf name).avoids ';' = true := by
  have hall : ∀ name ∈ namesOf defaultMode,
      name ∉ [";", string, "line_comment", "block_comment"] →
        (bodyOf name).textual = true ∧ (bodyOf name).avoids ';' = true := by decide
  exact hall name hmem hname

/-- What a rule of the notation matches is the same, or reaches beyond the semicolon. -/
theorem first?_agree {name : String} (hmem : name ∈ namesOf defaultMode) (rest : List Char)
    (c : Char) (cs : List Char) :
    Agree rest ((bodyOf name).first? (c :: (cs ++ ';' :: rest)))
      ((bodyOf name).first? (c :: (cs ++ ';' :: ending))) := by
  have hbehind (letters : List Regex.Letter)
      (htextual : (Regex.Expr.text letters).textual = true)
      (havoids : (Regex.Expr.text letters).avoids ';' = true) :
      Option.Rel (SameFront ';' rest ending)
        (Regex.Letter.behind? letters (c :: cs ++ ';' :: rest))
        (Regex.Letter.behind? letters (c :: cs ++ ';' :: ending)) := by
    rw [← Regex.Expr.first?_text, ← Regex.Expr.first?_text]
    exact Regex.Expr.first?_sameFront htextual havoids (c :: cs)
  by_cases hname : name ∈ [";", string, "line_comment", "block_comment"]
  · simp only [List.mem_cons, List.not_mem_nil, or_false] at hname
    obtain rfl | rfl | rfl | rfl := hname
    · rw [first?_sign (c := ';') rfl, first?_sign (c := ';') rfl]
      split
      · exact .front cs
      · exact .none
    · rw [first?_string, first?_string]
      exact (Agree.bind (hbehind _ rfl rfl) (stringEnd?_agree (.inl rfl) rest)).or
        (Agree.bind (hbehind _ rfl rfl) (stringEnd?_agree (.inr rfl) rest))
    · rw [first?_line_comment, first?_line_comment, Option.map_eq_bind, Option.map_eq_bind]
      exact .bind (hbehind _ rfl rfl) (lineEnd_agree rest)
    · rw [first?_block_comment, first?_block_comment]
      exact .bind (hbehind _ rfl rfl) (commentEnd?_agree rest)
  · obtain ⟨htextual, havoids⟩ := avoids_semicolon hmem hname
    exact .inl (Regex.Expr.first?_sameFront htextual havoids (c :: cs))

/-- No rule for words of the notation stops right behind a semicolon, but for the one that starts
there. -/
theorem length_ne_of_first? {name : String} (hmem : name ∈ namesOf defaultMode)
    (hkept : name ∉ ignoredNames) {c : Char} {cs rest behind : List Char}
    (hfirst : (bodyOf name).first? (c :: cs ++ ';' :: rest) = some behind) :
    behind.length ≠ rest.length := by
  intro hlength
  by_cases hname : name ∈ [";", string, "line_comment", "block_comment"]
  · simp only [List.mem_cons, List.not_mem_nil, or_false] at hname
    obtain rfl | rfl | rfl | rfl := hname
    · rw [List.cons_append, first?_sign (c := ';') rfl] at hfirst
      split at hfirst
      · cases hfirst
        simp only [List.length_append, List.length_cons] at hlength
        omega
      · contradiction
    · -- A string ends in its quote, which is no semicolon.
      have hquote {quote : Char} (hne : quote ≠ ';')
          (hquoted : (Regex.Letter.behind? [.char quote] (c :: cs ++ ';' :: rest)).bind
            (stringEnd? quote) = some behind) : False := by
        obtain ⟨text, hbehind, hend⟩ := Option.bind_eq_some_iff.1 hquoted
        obtain ⟨front, rfl⟩ := exists_of_stringEnd? hend
        have htext := (Regex.Letter.behind?_eq_some_iff [quote]).1 hbehind
        rw [← List.append_assoc] at htext
        have hends := (List.append_inj' htext (by simp [hlength])).2
        exact hne (List.cons.inj hends).1.symm
      rw [first?_string, Option.or_eq_some_iff] at hfirst
      obtain hfirst | ⟨-, hfirst⟩ := hfirst
      · exact hquote (by decide) hfirst
      · exact hquote (by decide) hfirst
    · exact absurd hkept (by decide)
    · exact absurd hkept (by decide)
  · obtain ⟨htextual, havoids⟩ := avoids_semicolon hmem hname
    have hsame : Option.Rel (SameFront ';' rest ending)
        ((bodyOf name).first? (c :: cs ++ ';' :: rest))
        ((bodyOf name).first? (c :: cs ++ ';' :: ending)) :=
      Regex.Expr.first?_sameFront htextual havoids (c :: cs)
    generalize (bodyOf name).first? (c :: cs ++ ';' :: ending) = other at hsame
    rw [hfirst] at hsame
    cases hsame with
    | some hsame =>
      obtain ⟨front, rfl, -⟩ := hsame
      simp only [List.length_append, List.length_cons] at hlength
      omega

end Lexicon

variable {table : RuleTable}

/-- A rule of the notation matches the same where the text ends behind the semicolon, if the match
does not go beyond the semicolon. -/
theorem matchLength?_ending (h : Lexicon.table = .ok table) {rest : List Char} {rule : Rule}
    (hrule : rule ∈ table.rulesInMode defaultMode) (c : Char) (cs : List Char)
    (hle : ∀ count, rule.matchLength? (c :: cs ++ ';' :: rest) = some count →
      count ≤ (c :: cs).length) :
    rule.matchLength? (c :: cs ++ ';' :: rest) = rule.matchLength? (c :: cs ++ ';' :: ending) := by
  have hmem := (List.mem_filter.1 hrule).1
  have hname : rule.name ∈ Lexicon.namesOf defaultMode := by
    rw [← Lexicon.names_rulesInMode h]
    exact List.mem_map_of_mem hrule
  have hrepeat : rule.name ≠ Lexicon.regexRepeat := by
    intro heq
    rw [heq] at hname
    exact absurd hname (by decide)
  rw [Lexicon.matchLength?_eq h hmem hrepeat] at hle ⊢
  rw [Lexicon.matchLength?_eq h hmem hrepeat]
  obtain hrel | ⟨behind, hbehind, hbeyond⟩ := Lexicon.first?_agree hname rest c cs
  · exact Regex.Expr.takes?_sameFront hrel
  · rw [List.cons_append, Regex.Expr.takes?, hbehind] at hle
    simp only [List.length_cons, List.length_append] at hle
    rw [if_neg (by omega)] at hle
    have hcount := hle _ rfl
    omega

/-- The longest match in front of the semicolon is the same where the text ends behind the
semicolon. -/
theorem Wins.in_front_of_ending (h : Lexicon.table = .ok table) {names : List String}
    {front behind rest : List Char}
    (hwins : Wins table defaultMode names front (behind ++ ';' :: rest)) :
    Wins table defaultMode names front (behind ++ ';' :: ending) := by
  obtain ⟨c, cs, rfl⟩ := List.exists_cons_of_length_pos hwins.longest.bounds.1
  refine hwins.of_matchLength? fun rule hrule => ?_
  have hle : ∀ count, rule.matchLength? (c :: (cs ++ behind) ++ ';' :: rest) = some count →
      count ≤ (c :: (cs ++ behind)).length := by
    intro count hcount
    have hgreatest := hwins.longest.greatest rule hrule count (by simpa using hcount)
    simp only [List.length_cons, List.length_append] at hgreatest ⊢
    omega
  simpa using matchLength?_ending h hrule c (cs ++ behind) hle

/-- The only word that ends in a semicolon is the semicolon. -/
theorem Word.eq_nil_of_semicolon (h : Lexicon.table = .ok table) {names : List String}
    {front rest : List Char} (hword : Word table defaultMode names (front ++ [';']) rest) :
    front = [] := by
  cases front with
  | nil => rfl
  | cons c cs =>
    obtain ⟨rule, hrule, hlength⟩ := hword.longest.attained
    have hkept := hword.kept _ (hword.name_mem (List.mem_filter.2 ⟨hrule, decide_eq_true hlength⟩))
    have hname : rule.name ∈ Lexicon.namesOf defaultMode := by
      rw [← Lexicon.names_rulesInMode h]
      exact List.mem_map_of_mem hrule
    have hrepeat : rule.name ≠ Lexicon.regexRepeat := by
      intro heq
      rw [heq] at hname
      exact absurd hname (by decide)
    rw [Lexicon.matchLength?_eq h (List.mem_filter.1 hrule).1 hrepeat, List.append_assoc,
      List.singleton_append] at hlength
    -- What the rule leaves of the text is as long as the text behind the semicolon.
    obtain ⟨behind, hfirst, hsame⟩ : ∃ behind,
        (Lexicon.bodyOf rule.name).first? (c :: cs ++ ';' :: rest) = some behind ∧
          behind.length = rest.length := by
      rw [Regex.Expr.takes?] at hlength
      split at hlength
      · contradiction
      · rename_i behind hfirst
        refine ⟨behind, hfirst, ?_⟩
        split at hlength
        · contradiction
        · simp only [Option.some.injEq, List.length_append, List.length_cons, List.length_nil]
            at hlength
          omega
    exact absurd hsame (Lexicon.length_ne_of_first? hname hkept hfirst)

end GrammarLang.Grammar
