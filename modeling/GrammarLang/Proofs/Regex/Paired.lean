import GrammarLang.Regex.Loop
import Mathlib.Data.List.Forall2

/-! # Loops at places that correspond

Two loops that go through corresponding places, in step with one another, end at corresponding
places, in the same order of preference. What corresponds to what is given by a relation, and
**`Paired`** says what is asked of it. It lets the ends of an expression be computed at other places
than the spots of a text, and be compared between two texts.

* **`Paired.distinct`**, **`Paired.follow`** — lists of places.
* **`Paired.strides`**, **`Paired.rounds`** — loops. -/

namespace GrammarLang.Regex

open List (Forall₂)

/-- Places correspond to one another one by one, and going from one to another makes what is left to
explore less just if it does so on the other side. -/
structure Paired {Place Place' : Type} (rel : Place → Place' → Prop) (size : Place → Nat)
    (size' : Place' → Nat) : Prop where
  /-- No place corresponds to two. -/
  biUnique : Relator.BiUnique rel
  /-- What is left to explore is compared alike. -/
  size_lt : ∀ {place next : Place} {place' next' : Place'}, rel place place' → rel next next' →
    (size next < size place ↔ size' next' < size' place')

namespace Paired

section Strides

variable {Place Place' : Type} {rel : Place → Place' → Prop} {size : Place → Nat}
  {size' : Place' → Nat}

theorem stridesFrom (h : Paired rel size size') {step : Place → Option Place}
    {step' : Place' → Option Place'} {most : Option Nat} {place : Place} {place' : Place'}
    (hstep : ∀ place place', rel place place' → Option.Rel rel (step place) (step' place'))
    (hplace : rel place place') :
    Forall₂ rel (stridesFrom size step most place) (stridesFrom size' step' most place') := by
  -- The loops stop together, as they make the same comparisons.
  induction hsize : size place using Nat.strongRecOn generalizing most place place' with
  | _ _ ih =>
    subst hsize
    rw [Regex.stridesFrom, Regex.stridesFrom]
    split
    · exact .cons hplace .nil
    · have hnext := hstep place place' hplace
      generalize step place = next at hnext
      generalize step' place' = next' at hnext
      cases hnext with
      | none => exact .cons hplace .nil
      | @some next next' hnext =>
        have hsize := h.size_lt hplace hnext
        simp only
        by_cases hless : size next < size place
        · rw [if_pos hless, if_pos (hsize.1 hless)]
          exact .cons hplace (ih _ hless hnext rfl)
        · rw [if_neg hless, if_neg (mt hsize.2 hless)]
          exact .cons hplace .nil

/-- Loops with one way to go on end at corresponding places. -/
theorem strides (h : Paired rel size size') {step : Place → Option Place}
    {step' : Place' → Option Place'} {least : Nat} {most : Option Nat} {greedy : Bool}
    {place : Place} {place' : Place'}
    (hstep : ∀ place place', rel place place' → Option.Rel rel (step place) (step' place'))
    (hplace : rel place place') :
    Forall₂ rel (strides size step least most greedy place)
      (strides size' step' least most greedy place') := by
  have hall : Forall₂ rel (Regex.stridesFrom size step most place) _ := h.stridesFrom hstep hplace
  have hplaces := List.forall₂_drop least hall
  simp only [Regex.strides]
  cases greedy with
  | true => exact List.forall₂_reverse_iff.2 hplaces
  | false => exact hplaces

end Strides

variable {Place Place' : Type} [DecidableEq Place] [Hashable Place] [DecidableEq Place']
  [Hashable Place'] {rel : Place → Place' → Prop} {size : Place → Nat} {size' : Place' → Nat}

theorem add (h : Paired rel size size') {found : Found Place} {found' : Found Place'}
    {place : Place} {place' : Place'} (hfound : Forall₂ rel found.toList found'.toList)
    (hplace : rel place place') :
    Forall₂ rel (found.add place).toList (found'.add place').toList := by
  have hmem : place ∈ found.toList ↔ place' ∈ found'.toList :=
    List.rel_mem h.biUnique hplace hfound
  rw [Found.toList_add, Found.toList_add]
  by_cases hknown : place ∈ found.toList
  · rw [if_pos hknown, if_pos (hmem.1 hknown)]
    exact hfound
  · rw [if_neg hknown, if_neg (mt hmem.2 hknown)]
    exact List.rel_append hfound (.cons hplace .nil)

/-- Corresponding lists keep corresponding places when those that occur earlier are left out. -/
theorem distinct (h : Paired rel size size') {places : List Place} {places' : List Place'}
    (hplaces : Forall₂ rel places places') : Forall₂ rel (distinct places) (distinct places') := by
  have hfold : ∀ {found : Found Place} {found' : Found Place'},
      Forall₂ rel found.toList found'.toList →
        Forall₂ rel (places.foldl Found.add found).toList (places'.foldl Found.add found').toList := by
    intro found found' hfound
    induction hplaces generalizing found found' with
    | nil => exact hfound
    | cons hplace _ ih => exact ih (h.add hfound hplace)
  exact hfold .nil

/-- Going on from corresponding places leads to corresponding places. -/
theorem follow (h : Paired rel size size') {places : List Place} {places' : List Place'}
    {next : Place → List Place} {next' : Place' → List Place'} (hplaces : Forall₂ rel places places')
    (hnext : ∀ place place', rel place place' → Forall₂ rel (next place) (next' place')) :
    Forall₂ rel (follow places next) (follow places' next') := by
  cases hplaces with
  | nil => exact .nil
  | cons hplace hothers =>
    cases hothers with
    | nil => exact hnext _ _ hplace
    | cons hother hothers =>
      exact h.distinct (List.rel_flatMap (.cons hplace (.cons hother hothers)) hnext)

theorem explore (h : Paired rel size size') {round : Place → List Place}
    {round' : Place' → List Place'} {greedy : Bool} {found : Found Place} {found' : Found Place'}
    {place : Place} {place' : Place'}
    (hround : ∀ place place', rel place place' → Forall₂ rel (round place) (round' place'))
    (hfound : Forall₂ rel found.toList found'.toList) (hplace : rel place place') :
    Forall₂ rel (explore size round greedy found place).toList
      (explore size' round' greedy found' place').toList := by
  induction hsize : size place using Nat.strongRecOn generalizing found found' place place' with
  | _ _ ih =>
    subst hsize
    have hfurther : Forall₂ rel ((round place).filter fun next => size next < size place)
        ((round' place').filter fun next => size' next < size' place') :=
      List.rel_filter
        (fun next next' hnext => by simpa using h.size_lt hplace hnext) (hround place place' hplace)
    -- Each further place is nearer to the end, so the induction hypothesis covers the whole fold.
    have hfold : ∀ {further : List Place} {further' : List Place'},
        Forall₂ rel further further' → (∀ next ∈ further, size next < size place) →
        ∀ {found : Found Place} {found' : Found Place'}, Forall₂ rel found.toList found'.toList →
          Forall₂ rel
            (further.foldl (fun found next => Regex.explore size round greedy found next) found).toList
            (further'.foldl
              (fun found next => Regex.explore size' round' greedy found next) found').toList := by
      intro further further' hall
      induction hall with
      | nil => exact fun _ _ _ hfound => hfound
      | @cons next next' _ _ hnext _ ihfold =>
        intro hless found found' hfound
        exact ihfold (fun other hother => hless other (List.mem_cons_of_mem _ hother))
          (ih _ (hless next List.mem_cons_self) hfound hnext rfl)
    have hless : ∀ next ∈ (round place).filter fun next => size next < size place,
        size next < size place := fun next hnext => by simpa using (List.mem_filter.1 hnext).2
    have hmem : found.contains place = found'.contains place' := by
      rw [Bool.eq_iff_iff, Found.contains_iff, Found.contains_iff]
      exact List.rel_mem h.biUnique hplace hfound
    rw [Regex.explore, Regex.explore, hmem]
    split
    · exact hfound
    · simp only [List.foldl_attach (f := fun found next => Regex.explore size round greedy found next),
        List.foldl_attach (f := fun found next => Regex.explore size' round' greedy found next)]
      cases greedy with
      | true => exact h.add (hfold hfurther hless hfound) hplace
      | false => exact hfold hfurther hless (h.add hfound hplace)

theorem exactRounds (h : Paired rel size size') {round : Place → List Place}
    {round' : Place' → List Place'}
    (hround : ∀ place place', rel place place' → Forall₂ rel (round place) (round' place'))
    (count : Nat) {place : Place} {place' : Place'} (hplace : rel place place') :
    Forall₂ rel (exactRounds round count place) (exactRounds round' count place') := by
  induction count generalizing place place' with
  | zero => exact .cons hplace .nil
  | succ count ih => exact h.follow (hround _ _ hplace) fun _ _ => ih

theorem atMostRounds (h : Paired rel size size') {round : Place → List Place}
    {round' : Place' → List Place'} {greedy : Bool}
    (hround : ∀ place place', rel place place' → Forall₂ rel (round place) (round' place'))
    (count : Nat) {place : Place} {place' : Place'} (hplace : rel place place') :
    Forall₂ rel (atMostRounds round greedy count place)
      (atMostRounds round' greedy count place') := by
  induction count generalizing place place' with
  | zero => exact .cons hplace .nil
  | succ count ih =>
    have hfurther := h.follow (hround _ _ hplace) fun _ _ => ih
    cases greedy with
    | true => exact h.distinct (List.rel_append hfurther (.cons hplace .nil))
    | false => exact h.distinct (.cons hplace hfurther)

/-- Loops of any kind end at corresponding places. -/
theorem rounds (h : Paired rel size size') {round : Place → List Place}
    {round' : Place' → List Place'} {least : Nat} {most : Option Nat} {greedy : Bool}
    {place : Place} {place' : Place'}
    (hround : ∀ place place', rel place place' → Forall₂ rel (round place) (round' place'))
    (hplace : rel place place') :
    Forall₂ rel (rounds size round least most greedy place)
      (rounds size' round' least most greedy place') := by
  refine h.follow (h.exactRounds hround least hplace) fun next next' hnext => ?_
  cases most with
  | some most => exact h.atMostRounds hround (most - least) hnext
  | none => exact h.explore hround .nil hnext

end Paired

end GrammarLang.Regex
