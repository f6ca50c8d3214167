import GrammarLang.Proofs.Regex.Paired
import GrammarLang.Regex.Search

/-! # Matching over plain texts

The ends of an expression are spots of a text. Where an expression consists of characters only, so
that it takes no single bytes and looks at nothing around it, an end is known by the text behind it.
**`Expr.rests`** lists these texts, most preferred first, by recursion on the expression alone, and
**`Expr.ends_rests`** says that it does so. Of these texts **`Expr.first?`** is the one behind the match,
and **`Expr.takes?`** is the number of characters in front of it. -/

namespace GrammarLang.Regex

open List (Forall₂)

/-- Lists of corresponding things start with corresponding things. -/
theorem head?_rel {α β : Type} {rel : α → β → Prop} {left : List α} {right : List β}
    (h : Forall₂ rel left right) : Option.Rel rel left.head? right.head? := by
  cases h with
  | nil => exact .none
  | cons hfirst _ => exact .some hfirst

/-- The text behind given letters, if they are the next ones. -/
def Letter.behind? : List Letter → List Char → Option (List Char)
  | [], rest => some rest
  | .char c :: letters, d :: rest => if d = c then behind? letters rest else none
  | _, _ => none

/-- Letters that are characters are passed one by one. -/
theorem Letter.behind?_cons_cons (c d : Char) (letters : List Letter) (rest : List Char) :
    Letter.behind? (.char c :: letters) (d :: rest) =
      if d = c then Letter.behind? letters rest else none := rfl

/-- Letters that are characters lead from a text that starts with them to what is behind them. -/
theorem Letter.behind?_eq_some_iff (chars : List Char) {text rest : List Char} :
    Letter.behind? (chars.map .char) text = some rest ↔ text = chars ++ rest := by
  induction chars generalizing text with
  | nil => simp [Letter.behind?]
  | cons c chars ih =>
    cases text with
    | nil => simp [Letter.behind?]
    | cons d ds =>
      rw [List.map_cons, Letter.behind?_cons_cons, List.cons_append, List.cons.injEq]
      split
      · rename_i heq
        simp [ih, heq]
      · rename_i hne
        simp [hne]

/-- Whether a letter is a character. -/
def Letter.isChar : Letter → Bool
  | .char _ => true
  | .byte _ => false

/-- Texts are told apart in a table of places by the hashes of their characters. -/
instance hashableText : Hashable (List Char) := @instHashableList Char instHashableChar

namespace Expr

/-- Whether an expression consists of characters only. -/
def textual : Expr → Bool
  | .empty => true
  | .text letters => letters.all Letter.isChar
  | .char _ => true
  | .byte _ => false
  | .look _ => false
  | .group _ body => body.textual
  | .seq first second => first.textual && second.textual
  | .alt first second => first.textual && second.textual
  | .repeated body _ _ _ => body.textual

/-- The texts behind the matches at the start of a text, most preferred first. Bytes and conditions
match nothing here. -/
def rests : Expr → List Char → List (List Char)
  | .empty, rest => [rest]
  | .text letters, rest => (Letter.behind? letters rest).toList
  | .char set, c :: rest => if set.contains c.toNat then [rest] else []
  | .char _, [] => []
  | .byte _, _ => []
  | .look _, _ => []
  | .group _ body, rest => body.rests rest
  | .seq first second, rest => follow (first.rests rest) second.rests
  | .alt first second, rest => distinct (first.rests rest ++ second.rests rest)
  | .repeated body least most greedy, rest =>
    if body.isSingle then
      strides List.length (fun rest => (body.rests rest).head?) least most greedy rest
    else rounds List.length body.rests least most greedy rest

@[simp] theorem rests_text (letters : List Letter) (rest : List Char) :
    (Expr.text letters).rests rest = (Letter.behind? letters rest).toList := by
  cases rest <;> rfl

@[simp] theorem rests_char_nil (set : Unicode.Ranges) : (Expr.char set).rests [] = [] := rfl

@[simp] theorem rests_char_cons (set : Unicode.Ranges) (c : Char) (rest : List Char) :
    (Expr.char set).rests (c :: rest) = if set.contains c.toNat then [rest] else [] := rfl

@[simp] theorem rests_seq (first second : Expr) (rest : List Char) :
    (Expr.seq first second).rests rest = follow (first.rests rest) second.rests := by
  cases rest <;> rfl

@[simp] theorem rests_alt (first second : Expr) (rest : List Char) :
    (Expr.alt first second).rests rest = distinct (first.rests rest ++ second.rests rest) := by
  cases rest <;> rfl

theorem rests_repeated (body : Expr) (least : Nat) (most : Option Nat) (greedy : Bool)
    (rest : List Char) :
    (Expr.repeated body least most greedy).rests rest =
      if body.isSingle then
        strides List.length (fun rest => (body.rests rest).head?) least most greedy rest
      else rounds List.length body.rests least most greedy rest := by
  cases rest <;> rfl

variable {text : List Char}

/-- A spot between two characters lies before the given rest of its text. -/
def Before (spot : Spot text) (rest : List Char) : Prop := spot.inner = 0 ∧ spot.rest = rest

/-- Spots between characters correspond to the texts behind them. -/
theorem paired_before :
    Paired (Before : Spot text → List Char → Prop) Spot.remaining List.length where
  biUnique := by
    refine ⟨fun spot other rest h h' => Spot.eq_of_left_eq ?_ (h.1.trans h'.1.symm),
      fun spot rest rest' h h' => h.2.symm.trans h'.2⟩
    rw [spot.left_eq, other.left_eq, h.2, h'.2]
  size_lt := by
    rintro spot next rest rest' ⟨hinner, rfl⟩ ⟨hinner', rfl⟩
    simp only [Spot.remaining, hinner, hinner', spot.left_eq, next.left_eq]
    omega

/-- Behind a letter that is a character lies the text behind that character. -/
theorem past?_before {letters : List Letter} (h : letters.all Letter.isChar = true)
    {spot : Spot text} (hinner : spot.inner = 0) :
    Option.Rel Before (spot.past? letters) (Letter.behind? letters spot.rest) := by
  induction letters generalizing spot with
  | nil => exact .some ⟨hinner, rfl⟩
  | cons letter letters ih =>
    rw [List.all_cons, Bool.and_eq_true] at h
    cases letter with
    | byte octet => simp [Letter.isChar] at h
    | char c =>
      rw [Spot.past?_cons, Spot.pastLetter?]
      generalize hrest : spot.rest = rest
      cases rest with
      | nil =>
        rw [Spot.nextChar?_eq_none hrest]
        exact .none
      | cons d rest =>
        simp only [Spot.nextChar?_eq_some hrest hinner, Letter.behind?]
        by_cases heq : d = c
        · subst heq
          have hbehind : (spot.behind hrest).inner = 0 := rfl
          simp only [if_true, Option.bind_some]
          exact ih h.2 hbehind
        · simp only [heq, if_false, Option.bind_none]
          exact .none

/-- The ends of an expression of characters are the spots before the texts it leaves. -/
theorem ends_rests {expr : Expr} (h : expr.textual = true) {spot : Spot text}
    (hinner : spot.inner = 0) : Forall₂ Before (expr.ends spot) (expr.rests spot.rest) := by
  induction expr generalizing spot with
  | empty => exact .cons ⟨hinner, rfl⟩ .nil
  | text letters =>
    rw [ends_text, rests_text]
    have hpast := past?_before h hinner
    generalize spot.past? letters = after at hpast
    generalize Letter.behind? letters spot.rest = rest at hpast
    cases hpast with
    | none => exact .nil
    | some hpast => exact .cons hpast .nil
  | char set =>
    generalize hrest : spot.rest = rest
    cases rest with
    | nil =>
      rw [ends_char_nil set hrest]
      exact .nil
    | cons c rest =>
      rw [ends_char_cons set hrest hinner, rests_char_cons]
      split
      · exact .cons ⟨rfl, rfl⟩ .nil
      · exact .nil
  | byte => simp [textual] at h
  | look => simp [textual] at h
  | group number body ih => exact ih h hinner
  | seq first second ih₁ ih₂ =>
    simp only [textual, Bool.and_eq_true] at h
    rw [ends_seq, rests_seq]
    refine paired_before.follow (ih₁ h.1 hinner) ?_
    rintro place _ ⟨hplace, rfl⟩
    exact ih₂ h.2 hplace
  | alt first second ih₁ ih₂ =>
    simp only [textual, Bool.and_eq_true] at h
    rw [ends_alt, rests_alt]
    exact paired_before.distinct (List.rel_append (ih₁ h.1 hinner) (ih₂ h.2 hinner))
  | repeated body least most greedy ih =>
    have hround : ∀ (place : Spot text) rest, Before place rest →
        Forall₂ Before (body.ends place) (body.rests rest) := by
      rintro place _ ⟨hplace, rfl⟩
      exact ih h hplace
    rw [ends, rests_repeated]
    split
    · exact paired_before.strides (fun place rest hplace => head?_rel (hround place rest hplace))
        ⟨hinner, rfl⟩
    · exact paired_before.rounds hround ⟨hinner, rfl⟩

/-- At the start of a text, asking for the start makes no difference. -/
theorem ends_textStart_seq (body : Expr) (text : List Char) :
    (Expr.seq (.look .textStart) body).ends (.start text) = body.ends (.start text) := by
  have hlook : (Expr.look .textStart).ends (.start text) = [.start text] := by
    simp [Look.holds]
  rw [ends_seq, hlook, follow_singleton]

/-- The text behind the match at the start of a text. -/
def first? (expr : Expr) (text : List Char) : Option (List Char) := (expr.rests text).head?

/-- How many characters the match at the start of a text takes, if it takes any. -/
def takes? (expr : Expr) (text : List Char) : Option Nat :=
  match expr.first? text with
  | none => none
  | some rest => if text.length - rest.length = 0 then none else some (text.length - rest.length)

/-- Whether a match may start with a character; where it holds of no character, there is no match. -/
def mayStart : Expr → Char → Bool
  | .empty, _ => true
  | .text [], _ => true
  | .text (letter :: _), c => letter = .char c
  | .char set, c => set.contains c.toNat
  | .byte _, _ => false
  | .look _, _ => false
  | .group _ body, c => body.mayStart c
  | .seq first _, c => first.mayStart c
  | .alt first second, c => first.mayStart c || second.mayStart c
  | .repeated body least _ _, c => least = 0 || body.mayStart c

/-- What matches may start with the first character. -/
theorem mayStart_of_rests {expr : Expr} {c : Char} {cs : List Char}
    (h : expr.rests (c :: cs) ≠ []) : expr.mayStart c = true := by
  induction expr with
  | empty => rfl
  | text letters =>
    rw [rests_text] at h
    match letters with
    | [] => rfl
    | .byte _ :: _ => simp [Letter.behind?] at h
    | .char d :: letters =>
      by_cases heq : c = d
      · simp [mayStart, heq]
      · simp [Letter.behind?, heq] at h
  | char set =>
    rw [rests_char_cons] at h
    by_contra hset
    have hcontains : set.contains c.toNat = false := Bool.eq_false_iff.2 hset
    simp [hcontains] at h
  | byte => exact absurd rfl h
  | look => exact absurd rfl h
  | group number body ih => exact ih h
  | seq first second ih =>
    refine ih fun hnil => h ?_
    rw [rests_seq, hnil, follow_nil]
  | alt first second ih₁ ih₂ =>
    rw [mayStart, Bool.or_eq_true]
    by_contra hneither
    rw [not_or] at hneither
    have hfirst := not_ne_iff.1 (mt ih₁ hneither.1)
    have hsecond := not_ne_iff.1 (mt ih₂ hneither.2)
    exact h (by rw [rests_alt, hfirst, hsecond]; rfl)
  | repeated body least most greedy ih =>
    cases least with
    | zero => rfl
    | succ least =>
      rw [mayStart, Bool.or_eq_true]
      refine .inr (ih fun hnil => h ?_)
      -- The first round leads nowhere.
      rw [rests_repeated]
      split
      · rw [strides, stridesFrom]
        split <;> simp [hnil]
      · simp [rounds, exactRounds, hnil]

/-- A match at the start of a text may start with its first character. -/
theorem mayStart_of_first? {expr : Expr} {c : Char} {cs rest : List Char}
    (h : expr.first? (c :: cs) = some rest) : expr.mayStart c = true := by
  have hne : expr.rests (c :: cs) ≠ [] := by
    intro hnil
    rw [first?, hnil] at h
    contradiction
  exact mayStart_of_rests hne

end Expr

end GrammarLang.Regex
