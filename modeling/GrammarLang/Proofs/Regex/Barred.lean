import GrammarLang.Proofs.Regex.Rests

/-! # Matching in front of a bar

An expression that avoids a character cannot match beyond it. So where two texts have the same
characters up to such a *bar*, the matches in them end at the same places: spots of the two texts
that are as far from their bars are **`Abreast`**, and **`Expr.ends_abreast`** and
**`Expr.search_abreast`** say that matches of an expression from spots abreast end at spots abreast. -/

namespace GrammarLang.Regex

open List (Forall₂)

variable {text text' : List Char} {bar : Char} {rest rest' : List Char}

/-- Two spots have the same characters in front of a bar, and between the bar and the ends of their
texts lie `rest` and `rest'`. -/
def Abreast (bar : Char) (rest rest' : List Char) (spot : Spot text) (spot' : Spot text') : Prop :=
  spot.inner = 0 ∧ spot'.inner = 0 ∧
    ∃ front, spot.rest = front ++ bar :: rest ∧ spot'.rest = front ++ bar :: rest'

/-- Spots abreast correspond to one another. -/
theorem paired_abreast : Paired (Abreast bar rest rest' : Spot text → Spot text' → Prop)
    Spot.remaining Spot.remaining where
  biUnique := by
    constructor
    · rintro spot other place ⟨hinner, -, front, hrest, hplace⟩ ⟨hinner', -, front', hrest', hplace'⟩
      obtain rfl := List.append_cancel_right (hplace.symm.trans hplace')
      refine Spot.eq_of_left_eq ?_ (hinner.trans hinner'.symm)
      rw [spot.left_eq, other.left_eq, hrest, hrest']
    · rintro spot place place' ⟨-, hinner, front, hrest, hplace⟩ ⟨-, hinner', front', hrest', hplace'⟩
      obtain rfl := List.append_cancel_right (hrest.symm.trans hrest')
      refine Spot.eq_of_left_eq ?_ (hinner.trans hinner'.symm)
      rw [place.left_eq, place'.left_eq, hplace, hplace']
  size_lt := by
    rintro spot next place place' ⟨hspot, hplace, front, hrest, hrest'⟩
      ⟨hnext, hplace', front', hnextRest, hnextRest'⟩
    simp only [Spot.remaining, hspot, hnext, hplace, hplace', spot.left_eq, next.left_eq,
      place.left_eq, place'.left_eq, hrest, hrest', hnextRest, hnextRest', List.length_append,
      List.length_cons]
    omega

/-- Whether a letter is a character other than `bar`. -/
def Letter.avoids (bar : Char) : Letter → Bool
  | .char c => c ≠ bar
  | .byte _ => false

namespace Expr

/-- Whether an expression consists of characters other than `bar`. -/
def avoids (bar : Char) : Expr → Bool
  | .empty => true
  | .text letters => letters.all (Letter.avoids bar)
  | .char set => !set.contains bar.toNat
  | .byte _ => false
  | .look _ => false
  | .group _ body => body.avoids bar
  | .seq first second => first.avoids bar && second.avoids bar
  | .alt first second => first.avoids bar && second.avoids bar
  | .repeated body _ _ _ => body.avoids bar

variable {spot : Spot text} {spot' : Spot text'}

/-- Letters other than the bar lead to spots abreast. -/
theorem past?_abreast {letters : List Letter} (h : letters.all (Letter.avoids bar) = true)
    (hspot : Abreast bar rest rest' spot spot') :
    Option.Rel (Abreast bar rest rest') (spot.past? letters) (spot'.past? letters) := by
  induction letters generalizing spot spot' with
  | nil => exact .some hspot
  | cons letter letters ih =>
    rw [List.all_cons, Bool.and_eq_true] at h
    cases letter with
    | byte octet => simp [Letter.avoids] at h
    | char c =>
      obtain ⟨hinner, hinner', front, hrest, hrest'⟩ := hspot
      rw [Spot.past?_cons, Spot.past?_cons, Spot.pastLetter?, Spot.pastLetter?]
      cases front with
      | nil =>
        have hne : ¬ bar = c := fun heq => of_decide_eq_true h.1 heq.symm
        simp only [Spot.nextChar?_eq_some hrest hinner, Spot.nextChar?_eq_some hrest' hinner', hne,
          if_false, Option.bind_none]
        exact .none
      | cons d front =>
        simp only [Spot.nextChar?_eq_some hrest hinner, Spot.nextChar?_eq_some hrest' hinner']
        by_cases heq : d = c
        · simp only [heq, if_true, Option.bind_some]
          exact ih h.2 ⟨rfl, rfl, front, rfl, rfl⟩
        · simp only [heq, if_false, Option.bind_none]
          exact .none

/-- The matches from spots abreast end at spots abreast. -/
theorem ends_abreast {expr : Expr} (h : expr.avoids bar = true)
    (hspot : Abreast bar rest rest' spot spot') :
    Forall₂ (Abreast bar rest rest') (expr.ends spot) (expr.ends spot') := by
  induction expr generalizing spot spot' with
  | empty => exact .cons hspot .nil
  | text letters =>
    rw [ends_text, ends_text]
    have hpast := past?_abreast h hspot
    generalize spot.past? letters = after at hpast
    generalize spot'.past? letters = after' at hpast
    cases hpast with
    | none => exact .nil
    | some hpast => exact .cons hpast .nil
  | char set =>
    have hset : set.contains bar.toNat = false := by simpa [avoids] using h
    obtain ⟨hinner, hinner', front, hrest, hrest'⟩ := hspot
    cases front with
    | nil =>
      rw [ends_char_cons set hrest hinner, ends_char_cons set hrest' hinner', hset]
      exact .nil
    | cons c front =>
      rw [ends_char_cons set hrest hinner, ends_char_cons set hrest' hinner']
      split
      · exact .cons ⟨rfl, rfl, front, rfl, rfl⟩ .nil
      · exact .nil
  | byte => simp [avoids] at h
  | look => simp [avoids] at h
  | group number body ih => exact ih h hspot
  | seq first second ih₁ ih₂ =>
    simp only [avoids, Bool.and_eq_true] at h
    rw [ends_seq, ends_seq]
    exact paired_abreast.follow (ih₁ h.1 hspot) fun _ _ => ih₂ h.2
  | alt first second ih₁ ih₂ =>
    simp only [avoids, Bool.and_eq_true] at h
    rw [ends_alt, ends_alt]
    exact paired_abreast.distinct (List.rel_append (ih₁ h.1 hspot) (ih₂ h.2 hspot))
  | repeated body least most greedy ih =>
    have hround : ∀ (place : Spot text) (place' : Spot text'), Abreast bar rest rest' place place' →
        Forall₂ (Abreast bar rest rest') (body.ends place) (body.ends place') :=
      fun _ _ => ih h
    rw [ends, ends]
    split
    · exact paired_abreast.strides (fun place place' hplace => head?_rel (hround place place' hplace))
        hspot
    · exact paired_abreast.rounds hround hspot

end Expr

/-! ## Searches -/

/-- The same forks were passed at spots abreast. -/
def PassedAlike (bar : Char) (rest rest' : List Char) (passed : Passed text)
    (passed' : Passed text') : Prop :=
  ∀ fork spot spot', Abreast bar rest rest' spot spot' →
    passed.contains (fork, spot) = passed'.contains (fork, spot')

/-- Two searches find spots abreast, and pass the same forks. -/
def SearchAlike (bar : Char) (rest rest' : List Char) (search : Search text)
    (search' : Search text') : Prop :=
  ∀ passed passed', PassedAlike bar rest rest' passed passed' →
    Option.Rel (Abreast bar rest rest') (search passed).1 (search' passed').1 ∧
      PassedAlike bar rest rest' (search passed).2 (search' passed').2

namespace SearchAlike

variable {spot : Spot text} {spot' : Spot text'} {first second : Search text}
  {first' second' : Search text'}

theorem nothing : SearchAlike bar rest rest' (Search.nothing : Search text)
    (Search.nothing : Search text') := fun _ _ hpassed => ⟨.none, hpassed⟩

theorem endsAt (hspot : Abreast bar rest rest' spot spot') :
    SearchAlike bar rest rest' (Search.endsAt spot) (Search.endsAt spot') :=
  fun _ _ hpassed => ⟨.some hspot, hpassed⟩

theorem orElse (h : SearchAlike bar rest rest' first first')
    (h' : SearchAlike bar rest rest' second second') :
    SearchAlike bar rest rest' (first.orElse second) (first'.orElse second') := by
  intro passed passed' hpassed
  have hfirst := h passed passed' hpassed
  rw [Search.orElse, Search.orElse]
  generalize first passed = found at hfirst
  generalize first' passed' = found' at hfirst
  obtain ⟨stop, passed⟩ := found
  obtain ⟨stop', passed'⟩ := found'
  obtain ⟨hstop, hpassed⟩ := hfirst
  cases hstop with
  | none => exact h' passed passed' hpassed
  | some hstop => exact ⟨.some hstop, hpassed⟩

theorem passing (fork : Nat) (hspot : Abreast bar rest rest' spot spot')
    (h : SearchAlike bar rest rest' first first') :
    SearchAlike bar rest rest' (Search.passing fork spot first)
      (Search.passing fork spot' first') := by
  intro passed passed' hpassed
  rw [Search.passing, Search.passing, hpassed fork spot spot' hspot]
  split
  · exact ⟨.none, hpassed⟩
  · refine h _ _ fun other place place' hplace => ?_
    have heq : spot = place ↔ spot' = place' :=
      ⟨fun heq => paired_abreast.biUnique.2 (heq ▸ hspot) hplace,
        fun heq => paired_abreast.biUnique.1 (heq ▸ hspot) hplace⟩
    rw [Std.HashSet.contains_insert, Std.HashSet.contains_insert, hpassed other place place' hplace]
    congr 1
    rw [Bool.eq_iff_iff, beq_iff_eq, beq_iff_eq, Prod.mk.injEq, Prod.mk.injEq, heq]

theorem furtherOrStop (greedy : Bool) (h : SearchAlike bar rest rest' first first')
    (h' : SearchAlike bar rest rest' second second') :
    SearchAlike bar rest rest' (Search.furtherOrStop greedy first second)
      (Search.furtherOrStop greedy first' second') := by
  cases greedy with
  | true => exact h.orElse h'
  | false => exact h'.orElse h

end SearchAlike

/-- Two ways to go on from spots are alike. -/
def OnwardAlike (bar : Char) (rest rest' : List Char) (onward : Spot text → Search text)
    (onward' : Spot text' → Search text') : Prop :=
  ∀ spot spot', Abreast bar rest rest' spot spot' →
    SearchAlike bar rest rest' (onward spot) (onward' spot')

/-- Two ways through a part are alike. -/
def ThroughAlike (bar : Char) (rest rest' : List Char) (part : Search.Through text)
    (part' : Search.Through text') : Prop :=
  ∀ fork onward onward', OnwardAlike bar rest rest' onward onward' →
    OnwardAlike bar rest rest' (part fork onward) (part' fork onward')

namespace ThroughAlike

variable {part : Search.Through text} {part' : Search.Through text'}

theorem times (h : ThroughAlike bar rest rest' part part') (width count : Nat) :
    ThroughAlike bar rest rest' (Search.times part width count)
      (Search.times part' width count) := by
  induction count with
  | zero => exact fun _ _ _ honward => honward
  | succ count ih => exact fun fork _ _ honward => h fork _ _ (ih _ _ _ honward)

theorem timesAtMost (h : ThroughAlike bar rest rest' part part') (width : Nat) (greedy : Bool)
    (count : Nat) : ThroughAlike bar rest rest' (Search.timesAtMost part width greedy count)
      (Search.timesAtMost part' width greedy count) := by
  induction count with
  | zero => exact fun _ _ _ honward => honward
  | succ count ih =>
    intro fork onward onward' honward spot spot' hspot
    exact .passing fork hspot
      (.furtherOrStop greedy (h _ _ _ (ih _ _ _ honward) _ _ hspot) (honward _ _ hspot))

theorem timesWithoutEnd (h : ThroughAlike bar rest rest' part part') (inner fork : Nat)
    (greedy : Bool) {onward : Spot text → Search text} {onward' : Spot text' → Search text'}
    (honward : OnwardAlike bar rest rest' onward onward') :
    OnwardAlike bar rest rest' (Search.timesWithoutEnd (part inner) fork greedy onward)
      (Search.timesWithoutEnd (part' inner) fork greedy onward') := by
  intro spot spot' hspot
  induction hsize : spot.remaining using Nat.strongRecOn generalizing spot spot' with
  | _ _ ih =>
    subst hsize
    rw [Search.timesWithoutEnd, Search.timesWithoutEnd]
    refine .passing fork hspot (.furtherOrStop greedy (h _ _ _ ?_ _ _ hspot) (honward _ _ hspot))
    intro next next' hnext
    have hsize := paired_abreast.size_lt hspot hnext
    simp only
    by_cases hless : next.remaining < spot.remaining
    · rw [if_pos hless, if_pos (hsize.1 hless)]
      exact ih _ hless _ _ hnext rfl
    · rw [if_neg hless, if_neg (mt hsize.2 hless)]
      exact .nothing

end ThroughAlike

namespace Expr

/-- The searches from spots abreast are alike. -/
theorem search_abreast {expr : Expr} (h : expr.avoids bar = true) :
    ThroughAlike bar rest rest' (expr.search : Search.Through text)
      (expr.search : Search.Through text') := by
  induction expr with
  | empty => exact fun _ _ _ honward => honward
  | text letters =>
    intro fork onward onward' honward spot spot' hspot
    have hpast := past?_abreast h hspot
    simp only [search]
    generalize spot.past? letters = after at hpast
    generalize spot'.past? letters = after' at hpast
    cases hpast with
    | none => exact .nothing
    | some hpast => exact honward _ _ hpast
  | char set =>
    have hset : set.contains bar.toNat = false := by simpa [avoids] using h
    rintro fork onward onward' honward spot spot' ⟨hinner, hinner', front, hrest, hrest'⟩
    cases front with
    | nil =>
      simp only [search, Spot.nextChar?_eq_some hrest hinner, Spot.nextChar?_eq_some hrest' hinner',
        hset]
      exact .nothing
    | cons c front =>
      simp only [search, Spot.nextChar?_eq_some hrest hinner, Spot.nextChar?_eq_some hrest' hinner']
      split
      · exact honward _ _ ⟨rfl, rfl, front, rfl, rfl⟩
      · exact .nothing
  | byte => simp [avoids] at h
  | look => simp [avoids] at h
  | group number body ih => exact ih h
  | seq first second ih₁ ih₂ =>
    simp only [avoids, Bool.and_eq_true] at h
    exact fun fork _ _ honward => ih₁ h.1 fork _ _ (ih₂ h.2 _ _ _ honward)
  | alt first second ih₁ ih₂ =>
    simp only [avoids, Bool.and_eq_true] at h
    exact fun fork _ _ honward spot spot' hspot => .passing fork hspot
      (.orElse (ih₁ h.1 _ _ _ honward _ _ hspot) (ih₂ h.2 _ _ _ honward _ _ hspot))
  | repeated body least most greedy ih =>
    have hbody := ih h
    intro fork onward onward' honward spot spot' hspot
    cases most with
    | some most =>
      exact hbody.times _ _ _ _ _ (hbody.timesAtMost _ _ _ _ _ _ honward) _ _ hspot
    | none =>
      have hagain := hbody.timesWithoutEnd (fork + 2) fork greedy honward
      cases least with
      | zero =>
        simp only [search]
        split
        · exact .passing _ hspot (.furtherOrStop greedy (hbody _ _ _ hagain _ _ hspot)
            (honward _ _ hspot))
        · exact hagain _ _ hspot
      | succ least => exact hbody.times _ _ _ _ _ (hbody _ _ _ hagain) _ _ hspot

end Expr

end GrammarLang.Regex
