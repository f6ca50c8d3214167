import GrammarLang.Regex.PatternText

/-! # Reading in front of a closing parenthesis

The readers of a pattern look ahead, so more text behind a pattern may change how it is read. A
closing parenthesis there changes little: a reader is **`Reader.Steady`** if it reads the same in
front of one and leaves it unread, or else, at the end of the text, takes it for a part of a comment.
Steadiness goes over from the parts of a reader to the whole (**`Steady.bind`**), and all readers of
a pattern have it: **`steady_step`**. -/

namespace GrammarLang.Regex

open Reader

namespace Reader

variable {α β : Type}

/-- Reading one after the other. -/
theorem run_bind (first : Reader α) (next : α → Reader β) (text : List Char) :
    (first >>= next).run text =
      (first.run text).bind fun result => (next result.1).run result.2 := by
  show (first.andThen next).run text = _
  simp only [andThen]
  cases first.run text <;> rfl

theorem run_bind_eq_some_iff {first : Reader α} {next : α → Reader β} {text rest : List Char}
    {value : β} : (first >>= next).run text = some (value, rest) ↔
      ∃ middle between, first.run text = some (middle, between) ∧
        (next middle).run between = some (value, rest) := by
  rw [run_bind, Option.bind_eq_some_iff, Prod.exists]

@[simp] theorem run_pure (value : α) (text : List Char) :
    (pure value : Reader α).run text = some (value, text) := rfl

/-- Reading in front of a closing parenthesis is the same and leaves it unread. Only at the end of
the text it may be passed over too. -/
def Steady (reader : Reader α) : Prop :=
  ∀ ⦃text : List Char⦄ ⦃value : α⦄ ⦃rest : List Char⦄, reader.run text = some (value, rest) →
    reader.run (text ++ [')']) = some (value, rest ++ [')']) ∨
      rest = [] ∧ reader.run (text ++ [')']) = some (value, [])

/-- Reading in front of a closing parenthesis is the same and leaves it unread, if something else is
left unread too. -/
def SteadyInside (reader : Reader α) : Prop :=
  ∀ ⦃text : List Char⦄ ⦃value : α⦄ ⦃rest : List Char⦄, reader.run text = some (value, rest) →
    rest ≠ [] → reader.run (text ++ [')']) = some (value, rest ++ [')'])

/-- A reader that needs text. -/
def Needy (reader : Reader α) : Prop := reader.run [] = none

namespace Steady

variable {reader : Reader α} {next : α → Reader β}

theorem give (value : α) : (Reader.give value).Steady := fun _ _ _ hrun => by
  cases hrun
  exact .inl rfl

theorem pure (value : α) : (Pure.pure value : Reader α).Steady := give value

theorem refuse : (Reader.refuse : Reader α).Steady := fun _ _ _ hrun => by contradiction

theorem ofOption : (value : Option α) → (Reader.ofOption value).Steady
  | none => refuse
  | some value => give value

theorem require (condition : Bool) : (Reader.require condition).Steady := by
  rw [Reader.require]
  split
  · exact give ()
  · exact refuse

/-- Steady readers one after the other are steady. -/
theorem bind (h : reader.Steady) (hnext : ∀ value, (next value).Steady) :
    (reader >>= next).Steady := by
  intro text value rest hrun
  obtain ⟨middle, between, hfirst, hrest⟩ := run_bind_eq_some_iff.1 hrun
  rcases h hfirst with hsame | ⟨rfl, hnil⟩
  · rw [run_bind, hsame]
    exact hnext middle hrest
  · -- What is read from the end of the text on leaves nothing, and meets the same end.
    have hlength := (next middle).shrinks hrest
    obtain rfl : rest = [] := List.eq_nil_of_length_eq_zero (Nat.le_zero.1 hlength)
    rw [run_bind, hnil]
    exact .inr ⟨rfl, hrest⟩

/-- Where more text is needed behind it, a reader need only be steady inside the text. -/
theorem bind_needy (h : reader.SteadyInside) (hnext : ∀ value, (next value).Steady)
    (hneedy : ∀ value, (next value).Needy) : (reader >>= next).Steady := by
  intro text value rest hrun
  obtain ⟨middle, between, hfirst, hrest⟩ := run_bind_eq_some_iff.1 hrun
  have hne : between ≠ [] := by
    rintro rfl
    rw [hneedy middle] at hrest
    contradiction
  rw [run_bind, h hfirst hne]
  exact hnext middle hrest

theorem map (change : α → β) (h : reader.Steady) : (change <$> reader).Steady := by
  have hbind : (reader >>= fun value => Pure.pure (change value)).Steady := h.bind fun _ => pure _
  exact hbind

theorem ite {condition : Prop} [Decidable condition] {first second : Reader α}
    (hfirst : first.Steady) (hsecond : second.Steady) :
    (if condition then first else second).Steady := by
  split
  · exact hfirst
  · exact hsecond

end Steady

/-! ## Single steps -/

theorem steady_next : next.Steady := by
  intro text value rest hrun
  cases text with
  | nil => contradiction
  | cons c cs => cases hrun; exact .inl rfl

theorem steady_skip (count : Nat) : (skip count).Steady := by
  intro text value rest hrun
  cases hrun
  simp only [skip, Option.some.injEq, Prod.mk.injEq, true_and]
  by_cases hle : count ≤ text.length
  · exact .inl (List.drop_append_of_le_length hle)
  · exact .inr ⟨List.drop_of_length_le (by omega), List.drop_of_length_le (by simp; omega)⟩

/-- The next character is looked at to compare it with another one than a closing parenthesis. -/
theorem steady_peek {next : Option Char → Reader β} (h : ∀ c, (next c).Steady)
    (hend : next (some ')') = next none) : (peek? >>= next).Steady := by
  intro text value rest hrun
  rw [run_bind] at hrun ⊢
  cases text with
  | nil =>
    have hnil : (next (some ')')).run [')'] = some (value, rest ++ [')']) ∨
        rest = [] ∧ (next (some ')')).run [')'] = some (value, []) := by
      rw [hend]
      exact h none hrun
    exact hnil
  | cons c cs => exact h (some c) hrun

/-- The text ahead is looked at for something that a closing parenthesis at its end does not
change. -/
theorem steady_ahead {next : List Char → Reader β} (h : ∀ text, (next text).Steady)
    (hsame : ∀ {text : List Char} {value : β} {rest : List Char},
      (next text).run text = some (value, rest) → next (text ++ [')']) = next text) :
    (ahead >>= next).Steady := by
  intro text value rest hrun
  have hread : (next text).run text = some (value, rest) := hrun
  have hahead : (ahead >>= next).run (text ++ [')']) = (next text).run (text ++ [')']) := by
    rw [← hsame hread]
    rfl
  rw [hahead]
  exact h text hread

/-- A text without closing parentheses is not completed by one. -/
theorem isPrefixOf_append {mark : List Char} (hmark : ')' ∉ mark) (text : List Char) :
    mark.isPrefixOf (text ++ [')']) = mark.isPrefixOf text := by
  induction mark generalizing text with
  | nil => simp
  | cons c cs ih =>
    obtain ⟨hc, hcs⟩ := not_or.1 fun h => hmark (List.mem_cons.2 h)
    cases text with
    | nil => simp [List.isPrefixOf, Ne.symm hc]
    | cons d ds => simp [List.isPrefixOf, ih hcs]

theorem steady_accept {expected : List Char} (h : ')' ∉ expected) : (accept expected).Steady := by
  intro text value rest hrun
  simp only [accept] at hrun
  simp only [accept, isPrefixOf_append h]
  left
  split at hrun
  · rename_i hprefix
    cases hrun
    have hlength := (List.isPrefixOf_iff_prefix.1 hprefix).length_le
    rw [if_pos hprefix, List.drop_append_of_le_length hlength]
  · rename_i hprefix
    cases hrun
    rw [if_neg hprefix]

/-- Asking for a text that is not there needs text, if nothing else will do. -/
theorem needy_accept {expected : List Char} (h : expected ≠ []) {next : Bool → Reader β}
    (hnext : (next false).Needy) : (accept expected >>= next).Needy := by
  have hnot : expected.isPrefixOf [] = false := by
    cases expected with
    | nil => contradiction
    | cons => rfl
  rw [Needy, run_bind]
  simp only [accept, hnot]
  exact hnext

/-- A run of characters ends in front of a closing parenthesis that does not belong to it. -/
theorem steady_takeWhile {property : Char → Bool} (h : property ')' = false) :
    (takeWhile property).Steady := by
  intro text value rest hrun
  simp only [takeWhile, Option.some.injEq, Prod.mk.injEq] at hrun ⊢
  obtain ⟨rfl, rfl⟩ := hrun
  left
  induction text with
  | nil => simp [h]
  | cons c cs ih => cases hc : property c <;> simp [hc, ih]

theorem steadyInside_takeWhile (property : Char → Bool) : (takeWhile property).SteadyInside := by
  intro text value rest hrun hne
  simp only [takeWhile, Option.some.injEq, Prod.mk.injEq] at hrun ⊢
  obtain ⟨rfl, rfl⟩ := hrun
  induction text with
  | nil => simp at hne
  | cons c cs ih =>
    cases hc : property c
    · simp [hc]
    · rw [List.dropWhile_cons, if_pos hc] at hne
      simp [hc, ih hne]

end Reader

/-! ## Spaced out patterns -/

/-- What is left behind remarks is left in front of a closing parenthesis too, unless a comment goes
on up to the end. -/
theorem skipRemarks_append (inComment : Bool) (text : List Char) :
    skipRemarks inComment (text ++ [')']) = skipRemarks inComment text ++ [')'] ∨
      skipRemarks inComment text = [] ∧ skipRemarks inComment (text ++ [')']) = [] := by
  induction text generalizing inComment with
  | nil =>
    cases inComment
    · exact .inl (by decide)
    · exact .inr ⟨rfl, by decide⟩
  | cons c cs ih =>
    cases inComment
    · simp only [List.cons_append, skipRemarks]
      split
      · exact ih false
      · split
        · exact ih true
        · exact .inl rfl
    · simp only [List.cons_append, skipRemarks]
      exact ih _

theorem skipSpacing_append (spacedOut : Bool) (text : List Char) :
    skipSpacing spacedOut (text ++ [')']) = skipSpacing spacedOut text ++ [')'] ∨
      skipSpacing spacedOut text = [] ∧ skipSpacing spacedOut (text ++ [')']) = [] := by
  cases spacedOut
  · exact .inl rfl
  · exact skipRemarks_append false text

theorem skipSpacing_append_of_ne_nil {spacedOut : Bool} {text : List Char}
    (h : skipSpacing spacedOut text ≠ []) :
    skipSpacing spacedOut (text ++ [')']) = skipSpacing spacedOut text ++ [')'] :=
  (skipSpacing_append spacedOut text).resolve_right fun hnil => h hnil.1

theorem steady_spacing (spacedOut : Bool) : (spacing spacedOut).Steady := by
  intro text value rest hrun
  cases hrun
  simp only [spacing, Option.some.injEq, Prod.mk.injEq, true_and]
  exact skipSpacing_append spacedOut text

theorem splitSpaced_append (spacedOut : Bool) {property : Char → Bool} (text : List Char)
    (h : property ')' = false ∨ (splitSpaced spacedOut property text).2 ≠ []) :
    splitSpaced spacedOut property (text ++ [')']) =
        ((splitSpaced spacedOut property text).1, (splitSpaced spacedOut property text).2 ++ [')']) ∨
      (splitSpaced spacedOut property text).2 = [] ∧
        splitSpaced spacedOut property (text ++ [')']) =
          ((splitSpaced spacedOut property text).1, []) := by
  fun_induction splitSpaced spacedOut property text with
  | case1 =>
    have hclosing : property ')' = false := h.resolve_right fun hne => hne rfl
    left
    rw [List.nil_append, splitSpaced, if_neg (by simp [hclosing])]
  | case2 c cs hc taken rest hrest ih =>
    rw [hrest] at ih
    rw [List.cons_append, splitSpaced, if_pos hc]
    rcases skipSpacing_append spacedOut cs with hsame | ⟨hnil, hboth⟩
    · rw [hsame]
      rcases ih h with hleft | ⟨hempty, hright⟩
      · rw [hleft]
        exact .inl rfl
      · rw [hright]
        exact .inr ⟨hempty, rfl⟩
    · rw [hboth]
      rw [hnil, splitSpaced] at hrest
      obtain ⟨rfl, rfl⟩ := Prod.mk.inj hrest
      rw [splitSpaced]
      exact .inr ⟨rfl, rfl⟩
  | case3 c cs hc =>
    left
    rw [List.cons_append, splitSpaced, if_neg hc]

theorem steady_takeSpaced (spacedOut : Bool) {property : Char → Bool}
    (h : property ')' = false) : (takeSpaced spacedOut property).Steady := by
  intro text value rest hrun
  simp only [takeSpaced, Option.some.injEq] at hrun ⊢
  have happend := splitSpaced_append spacedOut text (.inl h)
  rwa [hrun] at happend

theorem steadyInside_takeSpaced (spacedOut : Bool) (property : Char → Bool) :
    (takeSpaced spacedOut property).SteadyInside := by
  intro text value rest hrun hne
  simp only [takeSpaced, Option.some.injEq] at hrun ⊢
  have happend := @splitSpaced_append spacedOut property text (.inr (by rwa [hrun]))
  rw [hrun] at happend
  exact happend.resolve_right fun hnil => hne hnil.1


/-! ## Escapes and counts -/

theorem steady_readHexDigits (spacedOut : Bool) (count : Nat) :
    (readHexDigits spacedOut count).Steady := by
  induction count with
  | zero => exact .give []
  | succ count ih =>
    rw [readHexDigits]
    exact steady_next.bind fun digit => (Steady.require _).bind fun _ =>
      (steady_spacing spacedOut).bind fun _ => ih.bind fun _ => .pure _

theorem steady_readCode (spacedOut : Bool) (count : Nat) : (readCode spacedOut count).Steady := by
  have hopening : ')' ∉ ['\x7b'] := by decide
  have hclosing : ')' ∉ ['\x7d'] := by decide
  have hend (braced : Bool) (digits : List Char) : (do
      let char ← Reader.ofOption (Text.charOfCode? (Text.numberOf 16 digits))
      return (⟨char, !braced && count == 2⟩ : Literal)).Steady :=
    (Steady.ofOption _).bind fun _ => .pure _
  rw [readCode]
  refine (steady_spacing spacedOut).bind fun _ => (steady_accept hopening).bind fun braced => ?_
  refine .ite ?_ ((steady_readHexDigits spacedOut count).bind (hend braced))
  exact (steady_spacing spacedOut).bind fun _ => (steady_takeSpaced spacedOut rfl).bind fun digits =>
    (Steady.require _).bind fun _ => (steady_accept hclosing).bind fun _ =>
      (Steady.require _).bind fun _ => (steady_spacing spacedOut).bind fun _ =>
        hend braced digits

theorem steady_readPropertyClass (spacedOut negated : Bool) :
    (readPropertyClass spacedOut negated).Steady := by
  have hopening : ')' ∉ ['\x7b'] := by decide
  have hclosing : ')' ∉ ['\x7d'] := by decide
  rw [readPropertyClass]
  refine (steady_spacing spacedOut).bind fun _ => (steady_accept hopening).bind fun _ => .ite ?_ ?_
  · refine (steady_spacing spacedOut).bind fun _ =>
      Steady.bind_needy (steadyInside_takeSpaced spacedOut _) (fun text => ?_) fun text => ?_
    · exact (steady_accept hclosing).bind fun _ => (Steady.require _).bind fun _ => .pure _
    · exact needy_accept (List.cons_ne_nil _ _) rfl
  · exact steady_next.bind fun _ => (Steady.require _).bind fun _ =>
      (steady_spacing spacedOut).bind fun _ => .pure _


theorem steady_readWordEdge (spacedOut : Bool) : (readWordEdge spacedOut).Steady := by
  have hclosing : ')' ∉ ['\x7d'] := by decide
  rw [readWordEdge]
  refine steady_ahead (fun text => .ite ?_ (.pure _)) fun {text value rest} hrun => ?_
  · refine steady_next.bind fun _ => (steady_spacing spacedOut).bind fun _ =>
      (steady_takeSpaced spacedOut (by decide)).bind fun name => (steady_accept hclosing).bind fun _ =>
        (Steady.require _).bind fun _ => ?_
    split
    all_goals first | exact .pure _ | exact .refuse
  · rcases text with _ | ⟨c, cs⟩
    · rfl
    · by_cases hc : c = '\x7b'
      · subst hc
        have hne : skipSpacing spacedOut cs ≠ [] := by
          intro hnil
          -- The end of the text is no end of a name.
          have htaken : splitSpaced spacedOut (fun c => c.isAlpha || decide (c = '-')) [] = ([], []) := by
            rw [splitSpaced]
          simp [hnil, run_bind, Reader.next, spacing, takeSpaced, htaken, accept, Reader.require,
            Reader.refuse] at hrun
        have happend := skipSpacing_append_of_ne_nil hne
        cases hrest : skipSpacing spacedOut cs with
        | nil => exact absurd hrest hne
        | cons d ds => simp [happend, hrest]
      · simp [hc]

theorem steady_readEscape (spacedOut : Bool) : (readEscape spacedOut).Steady := by
  rw [readEscape]
  refine steady_next.bind fun c => ?_
  split
  case h_1 | h_2 | h_3 => exact (steady_readCode spacedOut _).bind fun _ => .pure _
  case h_4 | h_5 => exact (steady_readPropertyClass spacedOut _).bind fun _ => .pure _
  case h_14 => exact (steady_readWordEdge spacedOut).bind fun _ => .pure _
  case h_18 => exact .ite (.pure _) ((Steady.ofOption _).bind fun _ => .pure _)
  all_goals exact .pure _

theorem steady_readCount (spacedOut : Bool) : (readCount spacedOut).Steady := by
  rw [readCount]
  exact (steady_takeWhile (by decide)).bind fun _ => (steady_takeSpaced spacedOut rfl).bind fun _ =>
    (steady_takeWhile (by decide)).bind fun _ => (Steady.require _).bind fun _ =>
      (Steady.require _).bind fun _ => .pure _

theorem steady_readCounts (spacedOut : Bool) : (readCounts spacedOut).Steady := by
  have hcomma : ')' ∉ [','] := by decide
  have hclosing : ')' ∉ ['\x7d'] := by decide
  have hend (least : Nat) (most : Option Nat) : (do
      Reader.require (← accept ['\x7d'])
      Reader.require (most.all (least ≤ ·))
      return (least, most)).Steady :=
    (steady_accept hclosing).bind fun _ => (Steady.require _).bind fun _ =>
      (Steady.require _).bind fun _ => .pure _
  rw [readCounts]
  refine (steady_spacing spacedOut).bind fun _ => (steady_readCount spacedOut).bind fun least =>
    (steady_accept hcomma).bind fun _ => .ite ?_ (hend least (some least))
  refine (steady_spacing spacedOut).bind fun _ => steady_peek (fun _ => .ite (hend least none) ?_) rfl
  exact ((steady_readCount spacedOut).map some).bind fun most => hend least most

/-! ## Groups -/

theorem steady_readGroupHead (spacedOut : Bool) : (readGroupHead spacedOut).Steady := by
  have hmarks (text : List Char) : (["?=", "?!", "?<=", "?<!"].all fun mark =>
      !mark.toList.isPrefixOf (text ++ [')'])) =
        ["?=", "?!", "?<=", "?<!"].all fun mark => !mark.toList.isPrefixOf text := by
    have hmark : ∀ mark ∈ ["?=", "?!", "?<=", "?<!"], ')' ∉ mark.toList := by decide
    rw [Bool.eq_iff_iff, List.all_eq_true, List.all_eq_true]
    exact forall₂_congr fun mark hmem => by rw [isPrefixOf_append (hmark mark hmem)]
  have hbehind (named : Bool) : (if named = true then do
        let name ← takeWhile (· ≠ '>')
        Reader.require (← accept ['>'])
        Reader.require (isGroupName name)
        return GroupHead.named (String.ofList name)
      else do
        if ← accept ['?'] then
          let letters ← takeWhile fun c => c ≠ ':' && c ≠ ')'
          let settings ← Reader.ofOption (flagSettings? letters)
          if (← next) = ')' then
            Reader.require (!settings.isEmpty)
            return .flags settings
          else return .plain settings
        else return .numbered).Steady := by
    refine .ite ?_ ((steady_accept (by decide)).bind fun _ => .ite ?_ (.pure _))
    · refine Steady.bind_needy (steadyInside_takeWhile _) (fun name => ?_) fun name => ?_
      · exact (steady_accept (by decide)).bind fun _ => (Steady.require _).bind fun _ =>
          (Steady.require _).bind fun _ => .pure _
      · exact needy_accept (List.cons_ne_nil _ _) rfl
    · exact (steady_takeWhile rfl).bind fun _ => (Steady.ofOption _).bind fun _ =>
        steady_next.bind fun _ => .ite ((Steady.require _).bind fun _ => .pure _) (.pure _)
  rw [readGroupHead]
  refine (steady_spacing spacedOut).bind fun _ => steady_ahead (fun text => ?_) fun {text _ _} _ => by
    rw [hmarks]
  refine (Steady.require _).bind fun _ => (steady_accept (by decide)).bind fun _ => .ite ?_ ?_
  · exact hbehind true
  · exact (steady_accept (by decide)).bind hbehind

theorem steady_repeatLast {counts : Reader (Nat × Option Nat)} (h : counts.Steady)
    (progress : Progress) (spaceBeforeMark : Bool) :
    (progress.repeatLast counts spaceBeforeMark).Steady := by
  have hmark : ')' ∉ ['?'] := by decide
  rw [Progress.repeatLast]
  exact (Steady.ofOption _).bind fun _ => h.bind fun _ => (steady_spacing _).bind fun _ =>
    (steady_accept hmark).bind fun _ => .pure _

/-! ## Brackets -/

theorem steady_readClassItem (spacedOut : Bool) (c : Char) : (readClassItem spacedOut c).Steady := by
  rw [readClassItem]
  exact .ite (steady_readEscape spacedOut) (.pure _)

theorem skipRemarks_dropWhile (text : List Char) :
    skipRemarks false (text.dropWhile Unicode.isBlank) = skipRemarks false text := by
  induction text with
  | nil => rfl
  | cons c cs ih =>
    cases hc : Unicode.isBlank c
    · rw [List.dropWhile_cons_of_neg (by simp [hc])]
    · rw [List.dropWhile_cons_of_pos hc, ih, skipRemarks, if_pos hc]

/-- Of a text of blanks nothing is left, in a comment or not. -/
theorem skipRemarks_blank {text : List Char} (h : text.dropWhile Unicode.isBlank = [])
    (inComment : Bool) : skipRemarks inComment text = [] := by
  induction text generalizing inComment with
  | nil => cases inComment <;> rfl
  | cons c cs ih =>
    cases hc : Unicode.isBlank c with
    | false =>
      rw [List.dropWhile_cons_of_neg (by simp [hc])] at h
      contradiction
    | true =>
      rw [List.dropWhile_cons_of_pos hc] at h
      cases inComment
      · rw [skipRemarks, if_pos hc, ih h]
      · rw [skipRemarks, ih h]

/-- A text starts with a blank, or it starts as it does behind its blanks. -/
theorem head?_of_dropWhile {text : List Char} {c : Char} (hhead : text.head? = some c)
    (hc : Unicode.isBlank c = false) : (text.dropWhile Unicode.isBlank).head? = some c := by
  cases text with
  | nil => contradiction
  | cons d ds =>
    cases hhead
    rw [List.dropWhile_cons_of_neg (by simp [hc])]
    rfl

theorem dropWhile_append_of_ne_nil {property : Char → Bool} {text : List Char}
    (h : text.dropWhile property ≠ []) (other : List Char) :
    (text ++ other).dropWhile property = text.dropWhile property ++ other := by
  rw [List.dropWhile_append, if_neg (by simpa using h)]

/-- The character behind another one is the same in front of a closing parenthesis, if there is more
than blanks and a comment, or if it has a meaning there. -/
theorem behind?_append {spacedOut : Bool} {text : List Char}
    (h : skipSpacing spacedOut text ≠ [] ∨ behind? spacedOut text = some ']' ∨
      behind? spacedOut text = some '-') :
    behind? spacedOut (text ++ [')']) = behind? spacedOut text := by
  have hbracket : Unicode.isBlank ']' = false := by decide
  have hhyphen : Unicode.isBlank '-' = false := by decide
  cases spacedOut with
  | false =>
    cases text with
    | nil => simp [skipSpacing, behind?] at h
    | cons c cs => rfl
  | true =>
    have hne : text.dropWhile Unicode.isBlank ≠ [] := by
      intro hnil
      simp only [skipSpacing, behind?, hnil, skipRemarks_blank hnil, if_true] at h
      rcases h with h | h | h
      · contradiction
      · have hhead := head?_of_dropWhile h hbracket
        rw [hnil] at hhead
        contradiction
      · have hhead := head?_of_dropWhile h hhyphen
        rw [hnil] at hhead
        contradiction
    simp only [behind?, if_true, dropWhile_append_of_ne_nil hne]
    obtain ⟨c, rest, hdrop⟩ := List.exists_cons_of_ne_nil hne
    simp only [skipSpacing, behind?, if_true, ← skipRemarks_dropWhile text, hdrop] at h
    rw [hdrop, List.cons_append]
    by_cases hc : c = '#'
    · subst hc
      have hrest : rest.dropWhile Unicode.isBlank ≠ [] := by
        intro hnil
        have hremarks : skipRemarks false ('#' :: rest) = [] := by
          rw [skipRemarks, if_neg (by decide), if_pos rfl, skipRemarks_blank hnil]
        simp only [hremarks, hnil, List.head?_nil, Option.none_or] at h
        rcases h with h | h | h
        · contradiction
        · have hhead := head?_of_dropWhile h hbracket
          rw [hdrop] at hhead
          exact absurd (Option.some.inj hhead) (by decide)
        · have hhead := head?_of_dropWhile h hhyphen
          rw [hdrop] at hhead
          exact absurd (Option.some.inj hhead) (by decide)
      obtain ⟨d, ds, hbehind⟩ := List.exists_cons_of_ne_nil hrest
      simp only [dropWhile_append_of_ne_nil hrest, hbehind]
      rfl
    · simp

theorem steady_readClassMember (spacedOut : Bool) (c : Char) :
    (readClassMember spacedOut c).Steady := by
  rw [readClassMember]
  refine (steady_readClassItem spacedOut c).bind fun first => (steady_spacing spacedOut).bind fun _ =>
    steady_ahead (fun text => ?_) fun {text value rest} hrun => ?_
  · refine (Steady.require _).bind fun _ => .ite ?_ ?_
    · split
      · exact .pure _
      · exact .pure _
      · exact .refuse
    · refine steady_next.bind fun _ => (steady_spacing spacedOut).bind fun _ => steady_next.bind fun c =>
        (steady_readClassItem spacedOut c).bind fun last => ?_
      split
      · exact (Steady.require _).bind fun _ => .pure _
      · exact .refuse
  · rcases text with _ | ⟨d, ds⟩
    · simp [run_bind, Reader.require, Reader.refuse] at hrun
    · have hbehind (heq : d = '-') : behind? spacedOut (ds ++ [')']) = behind? spacedOut ds := by
        subst heq
        refine behind?_append ?_
        by_cases hskip : skipSpacing spacedOut ds = []
        · -- A hyphen that makes a range has a character behind it.
          refine .inr ?_
          by_cases hclosing : behind? spacedOut ds = some ']'
          · exact .inl hclosing
          · by_cases hhyphen : behind? spacedOut ds = some '-'
            · exact .inr hhyphen
            · simp [run_bind, Reader.require, Reader.give, Reader.next, spacing, hclosing, hhyphen,
                hskip] at hrun
        · exact .inl hskip
      by_cases hd : d = '-'
      · simp [hd, hbehind hd]
      · simp [hd]

theorem steady_readBracketHead (spacedOut : Bool) : (readBracketHead spacedOut).Steady := by
  have hhyphens (negated : Bool) : (do
      let hyphens ← takeSpaced spacedOut (· = '-')
      let bracket : OpenBracket := ⟨negated, none, hyphens.map fun c => .literal ⟨c, false⟩⟩
      if hyphens.isEmpty then
        if ← accept [']'] then
          spacing spacedOut
          return bracket.add (.literal ⟨']', false⟩)
        else return bracket
      else return bracket).Steady := by
    refine (steady_takeSpaced spacedOut rfl).bind fun hyphens => .ite ?_ (.pure _)
    exact (steady_accept (by decide)).bind fun _ =>
      .ite ((steady_spacing spacedOut).bind fun _ => .pure _) (.pure _)
  rw [readBracketHead]
  refine (steady_spacing spacedOut).bind fun _ => (steady_accept (by decide)).bind fun negated =>
    .ite ((steady_spacing spacedOut).bind fun _ => hhyphens negated) (hhyphens negated)

/-- A text is cut at the same place if a closing parenthesis is added. -/
theorem cutAt?_append {mark : Char} (h : mark ≠ ')') (text : List Char) :
    cutAt? [mark] (text ++ [')']) =
      (cutAt? [mark] text).map fun (before, after) => (before, after ++ [')']) := by
  induction text with
  | nil => simp [cutAt?, List.isPrefixOf, h]
  | cons c cs ih =>
    by_cases hc : mark = c
    · simp [cutAt?, List.isPrefixOf, hc]
    · simp [cutAt?, List.isPrefixOf, hc, ih, Function.comp_def]

/-- The class whose name stands at the start of the text, behind the sign of the complement. -/
def namedBehind? (negated : Bool) (text : List Char) : Option (ClassTree × List Char) := do
  let (name, rest) ← cutAt? [':'] text
  let rest ← match rest with
    | ']' :: rest => some rest
    | _ => none
  let kind ← NamedClass.ofName? (String.ofList name)
  return (.named kind negated, rest)

theorem namedBehind?_append (negated : Bool) (text : List Char) :
    namedBehind? negated (text ++ [')']) =
      (namedBehind? negated text).map fun (tree, rest) => (tree, rest ++ [')']) := by
  have hcolon : ':' ≠ ')' := by decide
  rw [namedBehind?, namedBehind?, cutAt?_append hcolon]
  cases cutAt? [':'] text with
  | none => rfl
  | some cut =>
    obtain ⟨name, rest⟩ := cut
    rcases rest with _ | ⟨c, rest⟩
    · rfl
    · by_cases hc : c = ']'
      · subst hc
        cases hkind : NamedClass.ofName? (String.ofList name) <;> simp [hkind]
      · simp [hc]

theorem namedClass?_of_ne {c : Char} (h : c ≠ '^') (cs : List Char) :
    namedClass? (':' :: c :: cs) = namedBehind? false (c :: cs) := by
  simp only [namedClass?, namedBehind?, Option.bind_eq_bind, Option.bind_some]
  split
  · rename_i heq
    exact absurd (List.cons.inj heq).1 h
  · rfl

theorem namedClass?_append (text : List Char) :
    namedClass? (text ++ [')']) = (namedClass? text).map fun (tree, rest) => (tree, rest ++ [')']) := by
  rcases text with _ | ⟨c, cs⟩
  · rfl
  · by_cases hc : c = ':'
    · subst hc
      rcases cs with _ | ⟨d, ds⟩
      · exact namedBehind?_append false []
      · by_cases hd : d = '^'
        · subst hd
          exact namedBehind?_append true ds
        · rw [List.cons_append, List.cons_append, namedClass?_of_ne hd, namedClass?_of_ne hd]
          exact namedBehind?_append false (d :: ds)
    · simp [namedClass?, hc]

theorem steady_readNamedClass? : readNamedClass?.Steady := by
  rw [readNamedClass?]
  refine steady_ahead (fun text => ?_) fun {text _ _} _ => ?_
  · split
    · exact .pure _
    · exact (steady_skip _).bind fun _ => .pure _
  · rw [namedClass?_append]
    cases namedClass? text with
    | none => rfl
    | some found => simp

theorem steady_stepInBracket (progress : Progress) (bracket : OpenBracket)
    (outer : List OpenBracket) (c : Char) : (stepInBracket progress bracket outer c).Steady := by
  rw [stepInBracket.eq_def]
  split
  · refine steady_readNamedClass?.bind fun tree? => ?_
    split
    · exact .pure _
    · exact (steady_readBracketHead _).bind fun _ => .pure _
  · split
    · exact .pure _
    · exact .pure _
  · refine steady_peek (fun after => ?_) ?_
    · split
      · exact (steady_skip 1).bind fun _ => .pure _
      · exact (steady_readClassMember _ _).bind fun _ => .pure _
    · -- A closing parenthesis makes no operator.
      have hop : (if some ')' = some c then setOp? c else none) = none := by
        split
        · rename_i heq
          rw [← Option.some.inj heq]
          rfl
        · rfl
      rw [hop]
      rfl

theorem steady_stepOutside (progress : Progress) (c : Char) : (stepOutside progress c).Steady := by
  rw [stepOutside.eq_def]
  split
  case h_1 =>
    refine (steady_readGroupHead _).bind fun head => ?_
    split
    case h_4 => exact (Steady.require _).bind fun _ => .pure _
    all_goals exact .pure _
  case h_2 => exact .ofOption _
  case h_4 => exact (steady_readBracketHead _).bind fun _ => .pure _
  case h_5 | h_6 | h_7 => exact steady_repeatLast (.give _) _ _
  case h_8 => exact steady_repeatLast (steady_readCounts _) _ _
  case h_9 => exact (steady_readEscape _).bind fun _ => .pure _
  all_goals exact .pure _

/-- All that is read of a pattern at a time is read in front of a closing parenthesis as well. -/
theorem steady_step (progress : Progress) (c : Char) : (step progress c).Steady := by
  rw [step]
  split
  · exact steady_stepOutside progress c
  · exact steady_stepInBracket progress _ _ c

end GrammarLang.Regex
