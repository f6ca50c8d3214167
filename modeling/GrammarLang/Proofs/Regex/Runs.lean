import GrammarLang.Proofs.Regex.Rests

/-! # The matches of simple loops

Of the ends of an expression the first is the match. Here it is worked out for sequences and
alternatives, and for loops that can go on in one way at most:

* **`Expr.first?_seq`**, **`Expr.first?_alt`** — the match of a sequence and of an alternative.
* **`runs`** — the places that a loop over a set of characters passes, one behind the other.
* **`anyRounds_eq_reverse`** — a greedy loop whose rounds leave no choice tries its places from the
  last to the first. -/

namespace GrammarLang.Regex

section Found

variable {α : Type} [DecidableEq α] [Hashable α]

/-- What is found first among things added one by one. -/
theorem findSome?_foldl_add {β : Type} {find : α → Option β} (things : List α) (found : Found α) :
    (things.foldl Found.add found).toList.findSome? find =
      (found.toList.findSome? find).or (things.findSome? find) := by
  induction things generalizing found with
  | nil => simp
  | cons thing things ih =>
    rw [List.foldl_cons, ih, Found.toList_add, List.findSome?_cons]
    split
    · rename_i hmem
      -- What is known already is found in what is known already.
      cases hthing : find thing with
      | none => rfl
      | some result =>
        have hsome : (found.toList.findSome? find).isSome = true :=
          List.findSome?_isSome_iff.2 ⟨thing, hmem, by rw [hthing]; rfl⟩
        obtain ⟨first, hfirst⟩ := Option.isSome_iff_exists.1 hsome
        rw [hfirst]
        rfl
    · rw [List.findSome?_append, Option.or_assoc]
      cases hthing : find thing <;> simp [hthing]

/-- Leaving out what occurred earlier does not change what is found first. -/
@[simp] theorem findSome?_distinct {β : Type} (find : α → Option β) (things : List α) :
    (distinct things).findSome? find = things.findSome? find := by
  rw [distinct, findSome?_foldl_add]
  rfl

/-- What is found first on going on is found from the first place from which anything is found. -/
theorem findSome?_follow {β : Type} (find : α → Option β) (places : List α) (next : α → List α) :
    (follow places next).findSome? find =
      places.findSome? fun place => (next place).findSome? find := by
  have hflat : (places.flatMap next).findSome? find =
      places.findSome? fun place => (next place).findSome? find := by
    induction places with
    | nil => rfl
    | cons place places ih =>
      rw [List.flatMap_cons, List.findSome?_append, List.findSome?_cons, ih]
      cases (next place).findSome? find <;> rfl
  match places with
  | [] => rfl
  | [place] => simp
  | place :: other :: others =>
    rw [← hflat]
    exact findSome?_distinct find _

/-- The first thing is what is found first when everything is. -/
theorem findSome?_some {β : Type} (things : List β) : things.findSome? some = things.head? := by
  cases things <;> rfl

end Found

/-! ## Loops that leave no choice -/

section Strides

variable {Place : Type} {size : Place → Nat} {step : Place → Option Place}

theorem size_le_of_mem_stridesFrom {place other : Place}
    (h : other ∈ stridesFrom size step none place) : size other ≤ size place := by
  induction hsize : size place using Nat.strongRecOn generalizing place with
  | _ _ ih =>
    subst hsize
    rw [stridesFrom, if_neg (by simp)] at h
    split at h
    · exact Nat.le_of_eq (congrArg size (List.mem_singleton.1 h))
    · split at h
      · rename_i next _ hless
        rcases List.mem_cons.1 h with rfl | hmem
        · exact Nat.le_refl _
        · exact Nat.le_trans (ih _ hless hmem rfl) (Nat.le_of_lt hless)
      · exact Nat.le_of_eq (congrArg size (List.mem_singleton.1 h))

variable [DecidableEq Place] [Hashable Place]

theorem toList_explore {round : Place → List Place}
    (hround : ∀ place, round place = (step place).toList) {found : Found Place} {place : Place}
    (hnew : ∀ other ∈ stridesFrom size step none place, other ∉ found.toList) :
    (explore size round true found place).toList =
      found.toList ++ (stridesFrom size step none place).reverse := by
  induction hsize : size place using Nat.strongRecOn generalizing found place with
  | _ _ ih =>
    subst hsize
    have hunfold := stridesFrom.eq_1 size step none place
    rw [if_neg (by simp)] at hunfold
    have hplace : found.contains place = false := by
      rw [Bool.eq_false_iff, ne_eq, Found.contains_iff]
      refine hnew place ?_
      rw [hunfold]
      split
      · simp
      · split <;> simp
    rw [explore, hplace, hround]
    simp only [Bool.false_eq_true, if_false, if_true,
      List.foldl_attach (f := fun found next => explore size round true found next)]
    have hadd : ∀ {further : Found Place}, place ∉ further.toList →
        (further.add place).toList = further.toList ++ [place] := by
      intro further hfurther
      rw [Found.toList_add, if_neg hfurther]
    have hout : place ∉ found.toList := by
      rw [← Found.contains_iff, hplace]
      exact Bool.false_ne_true
    cases hstep : step place with
    | none =>
      rw [hstep] at hunfold
      simp only at hunfold
      simp [hunfold, hadd hout]
    | some next =>
      rw [hstep] at hunfold
      simp only at hunfold
      by_cases hless : size next < size place
      · rw [if_pos hless, Option.map_none] at hunfold
        rw [hunfold] at hnew ⊢
        have hnextNew : ∀ other ∈ stridesFrom size step none next, other ∉ found.toList :=
          fun other hother => hnew other (List.mem_cons_of_mem _ hother)
        have hnext := ih _ hless hnextNew rfl
        have hbehind : place ∉ (explore size round true found next).toList := by
          rw [hnext, List.mem_append, List.mem_reverse]
          rintro (hmem | hmem)
          · exact hout hmem
          · exact absurd (size_le_of_mem_stridesFrom hmem) (Nat.not_le.2 hless)
        simp only [Option.toList_some, List.filter_cons, hless, decide_true, if_true,
          List.filter_nil, List.foldl_cons, List.foldl_nil]
        rw [hadd hbehind, hnext]
        simp
      · rw [if_neg hless] at hunfold
        simp [hunfold, hless, hadd hout]

/-- A greedy loop whose rounds lead to one place at most ends at the places it passes, the last of
them first. -/
theorem anyRounds_eq_reverse {round : Place → List Place}
    (hround : ∀ place, round place = (step place).toList) (place : Place) :
    anyRounds size round true place = (stridesFrom size step none place).reverse := by
  rw [anyRounds, toList_explore hround (by simp)]
  simp

end Strides

/-! ## Runs of characters -/

/-- A text and what is left of it without one, two and more characters, as long as they are kept. -/
def runs (keep : Char → Bool) : List Char → List (List Char)
  | [] => [[]]
  | c :: cs => (c :: cs) :: if keep c then runs keep cs else []

theorem stridesFrom_eq_runs {keep : Char → Bool} {step : List Char → Option (List Char)}
    (hnil : step [] = none) (hcons : ∀ c cs, step (c :: cs) = if keep c then some cs else none)
    (text : List Char) : stridesFrom List.length step none text = runs keep text := by
  induction text with
  | nil =>
    rw [stridesFrom, if_neg (by simp), hnil]
    rfl
  | cons c cs ih =>
    rw [stridesFrom, if_neg (by simp), hcons, runs]
    cases keep c with
    | true => simpa using ih
    | false => rfl

/-- The last of the texts is what is left behind all characters that are kept. -/
theorem getLast?_runs (keep : Char → Bool) (text : List Char) :
    (runs keep text).getLast? = some (text.dropWhile keep) := by
  induction text with
  | nil => rfl
  | cons c cs ih =>
    rw [runs, List.dropWhile_cons]
    cases hkeep : keep c with
    | true =>
      rw [if_pos rfl, if_pos rfl, List.getLast?_cons, ih]
      rfl
    | false => simp

/-- What is looked for cannot start with a kept character, so it is found behind all of them. -/
theorem findSome?_reverse_runs {α : Type} {keep : Char → Bool} {find : List Char → Option α}
    (h : ∀ c cs, keep c = true → find (c :: cs) = none) (text : List Char) :
    (runs keep text).reverse.findSome? find = find (text.dropWhile keep) := by
  induction text with
  | nil => simp [runs]
  | cons c cs ih =>
    rw [runs, List.dropWhile_cons]
    cases hkeep : keep c with
    | true => simp [ih, h c cs hkeep]
    | false => simp

namespace Expr

variable {set : Unicode.Ranges} {keep : Char → Bool}

theorem first?_text (letters : List Letter) (text : List Char) :
    (Expr.text letters).first? text = Letter.behind? letters text := by
  rw [first?, rests_text, Option.head?_toList]

theorem first?_char_cons (set : Unicode.Ranges) (c : Char) (cs : List Char) :
    (Expr.char set).first? (c :: cs) = if set.contains c.toNat then some cs else none := by
  rw [first?, rests_char_cons]
  split <;> rfl

theorem first?_seq (first second : Expr) (text : List Char) :
    (Expr.seq first second).first? text =
      (first.rests text).findSome? second.first? := by
  rw [first?, rests_seq, ← findSome?_some, findSome?_follow]
  simp only [findSome?_some]
  rfl

/-- Behind a given text there is nothing to choose. -/
theorem first?_text_seq (letters : List Letter) (second : Expr) (text : List Char) :
    (Expr.seq (.text letters) second).first? text =
      (Letter.behind? letters text).bind second.first? := by
  rw [first?_seq, rests_text]
  cases Letter.behind? letters text <;> simp

theorem first?_alt (first second : Expr) (text : List Char) :
    (Expr.alt first second).first? text = (first.first? text).or (second.first? text) := by
  rw [first?, rests_alt, ← findSome?_some, findSome?_distinct, findSome?_some, List.head?_append]
  rfl

/-- A loop over a set of characters ends at the texts behind them. -/
theorem rests_loop (hset : ∀ c : Char, set.contains c.toNat = keep c) (least : Nat)
    (greedy : Bool) (text : List Char) :
    (Expr.repeated (.char set) least none greedy).rests text =
      if greedy then ((runs keep text).drop least).reverse else (runs keep text).drop least := by
  rw [rests_repeated, if_pos (by rfl), strides, stridesFrom_eq_runs rfl]
  intro c cs
  rw [rests_char_cons, hset]
  cases keep c <;> rfl

theorem first?_loop (hset : ∀ c : Char, set.contains c.toNat = keep c) (text : List Char) :
    (Expr.repeated (.char set) 0 none true).first? text = some (text.dropWhile keep) := by
  rw [first?, rests_loop hset, if_pos rfl, List.head?_reverse, List.drop_zero, getLast?_runs]

theorem first?_loop_one (hset : ∀ c : Char, set.contains c.toNat = keep c) (c : Char)
    (cs : List Char) :
    (Expr.repeated (.char set) 1 none true).first? (c :: cs) =
      if keep c then some (cs.dropWhile keep) else none := by
  rw [first?, rests_loop hset, if_pos rfl, List.head?_reverse, runs, List.drop_one, List.tail_cons]
  split
  · rw [getLast?_runs]
  · rfl

end Expr

end GrammarLang.Regex
