import GrammarLang.Proofs.Grammar.Spells

/-! # Brackets among token sets

Token sets read as brackets: some of them open something, some close something, and the others do
neither. Nothing is said of how they nest. It is enough to count how many more are opened than closed
(**`surplus`**), up to each place.

* **`Covered`** — nowhere is more closed than is open.
* **`Matched`** — besides, all that is opened is closed.
* **`Overcloses`** — a token set is the first to close more than is open; there is one such place at
  most (**`Overcloses.unique`**). -/

namespace GrammarLang.Grammar

open GrammarLang.Scan GrammarLang.Text

variable {openings closings : List String} {depth : Int} {set closing closing' : TokenSet}
  {sets further inner inner' behind behind' : List TokenSet}

theorem contains_eq : set.contains = fun rule => decide (rule ∈ set.rules) := by
  funext rule
  rw [TokenSet.contains, TokenSet.find?, Bool.eq_iff_iff, List.find?_isSome, decide_eq_true_eq,
    TokenSet.rules, List.mem_map]
  simp

/-- How many more of some token sets open something than close something. -/
def surplus (openings closings : List String) (sets : List TokenSet) : Int :=
  (sets.countP fun set => openings.any set.contains : Nat) -
    (sets.countP fun set => closings.any set.contains : Nat)

@[simp] theorem surplus_nil : surplus openings closings [] = 0 := rfl

@[simp] theorem surplus_append : surplus openings closings (sets ++ further) =
    surplus openings closings sets + surplus openings closings further := by
  simp only [surplus, List.countP_append]
  omega

theorem surplus_cons (set : TokenSet) (sets : List TokenSet) :
    surplus openings closings (set :: sets) =
      surplus openings closings [set] + surplus openings closings sets := by
  rw [← surplus_append]
  rfl

/-- What one token set opens and closes. -/
theorem surplus_singleton : surplus openings closings [set] =
    (if openings.any set.contains then 1 else 0) - (if closings.any set.contains then 1 else 0) := by
  simp only [surplus, List.countP_singleton]
  split <;> split <;> rfl

/-- What token sets open and close is told by their rules. -/
theorem surplus_congr {sets' : List TokenSet}
    (h : sets.map TokenSet.rules = sets'.map TokenSet.rules) :
    surplus openings closings sets = surplus openings closings sets' := by
  have hcount (names : List String) (sets : List TokenSet) :
      (sets.countP fun set => names.any set.contains) =
        (sets.map TokenSet.rules).countP fun rules => names.any (· ∈ rules) := by
    rw [List.countP_map]
    congr 1
    funext set
    rw [contains_eq]
    rfl
  rw [surplus, surplus, hcount, hcount, h, ← hcount, ← hcount]

/-- Nowhere is more closed than is open, where `depth` is open in front of the token sets. -/
def Covered (openings closings : List String) (depth : Int) (sets : List TokenSet) : Prop :=
  ∀ front, front <+: sets → 0 ≤ depth + surplus openings closings front

@[simp] theorem covered_nil : Covered openings closings depth [] ↔ 0 ≤ depth := by
  simp [Covered]

theorem covered_cons : Covered openings closings depth (set :: sets) ↔
    0 ≤ depth ∧ Covered openings closings (depth + surplus openings closings [set]) sets := by
  simp only [Covered, List.prefix_cons_iff]
  constructor
  · intro h
    refine ⟨by simpa using h [] (.inl rfl), fun front hfront => ?_⟩
    have := h (set :: front) (.inr ⟨front, rfl, hfront⟩)
    rw [surplus_cons] at this
    omega
  · rintro ⟨hdepth, h⟩ front (rfl | ⟨front, rfl, hfront⟩)
    · simpa using hdepth
    · have := h front hfront
      rw [surplus_cons]
      omega

theorem Covered.depth_nonneg (h : Covered openings closings depth sets) : 0 ≤ depth := by
  simpa using h [] List.nil_prefix

theorem covered_append : Covered openings closings depth (sets ++ further) ↔
    Covered openings closings depth sets ∧
      Covered openings closings (depth + surplus openings closings sets) further := by
  induction sets generalizing depth with
  | nil => simpa using fun h => h.depth_nonneg
  | cons set sets ih =>
    rw [List.cons_append, covered_cons, covered_cons, ih, surplus_cons set sets, Int.add_assoc,
      and_assoc]

/-- All that is opened is closed, and not before it is opened. -/
structure Matched (openings closings : List String) (sets : List TokenSet) : Prop where
  /-- Nowhere is more closed than is open. -/
  covered : Covered openings closings 0 sets
  /-- In the end nothing is open. -/
  settled : surplus openings closings sets = 0

theorem Covered.mono {depth' : Int} (h : Covered openings closings depth sets) (hle : depth ≤ depth') :
    Covered openings closings depth' sets := by
  intro front hfront
  have := h front hfront
  omega

theorem Covered.congr {sets' : List TokenSet} (h : Covered openings closings depth sets)
    (hrules : sets.map TokenSet.rules = sets'.map TokenSet.rules) :
    Covered openings closings depth sets' := by
  intro front hfront
  rw [List.prefix_iff_eq_take.1 hfront]
  generalize front.length = count
  have htake : (sets'.take count).map TokenSet.rules = (sets.take count).map TokenSet.rules := by
    rw [List.map_take, List.map_take, hrules]
  rw [surplus_congr htake]
  exact h _ (List.take_prefix count sets)

namespace Matched

theorem congr {sets' : List TokenSet} (h : Matched openings closings sets)
    (hrules : sets.map TokenSet.rules = sets'.map TokenSet.rules) :
    Matched openings closings sets' :=
  ⟨h.covered.congr hrules, surplus_congr hrules ▸ h.settled⟩

theorem nil : Matched openings closings [] := ⟨by simp, rfl⟩

theorem append (h : Matched openings closings sets) (h' : Matched openings closings further) :
    Matched openings closings (sets ++ further) := by
  refine ⟨covered_append.2 ⟨h.covered, ?_⟩, ?_⟩
  · rw [h.settled]
    exact h'.covered
  · rw [surplus_append, h.settled, h'.settled]
    rfl

/-- A token set that opens and closes nothing, or the same. -/
theorem single (h : surplus openings closings [set] = 0) : Matched openings closings [set] := by
  refine ⟨covered_cons.2 ⟨Int.le_refl 0, ?_⟩, h⟩
  rw [h]
  exact nil.covered

/-- What is matched is still matched between a token set that opens and one that closes. -/
theorem between {opening : TokenSet} (hopens : surplus openings closings [opening] = 1)
    (h : Matched openings closings sets) (hcloses : surplus openings closings [closing] = -1) :
    Matched openings closings (opening :: sets ++ [closing]) := by
  have hsettled : surplus openings closings (opening :: sets) = 1 := by
    rw [surplus_cons, hopens, h.settled]
    rfl
  refine ⟨covered_append.2 ⟨covered_cons.2 ⟨Int.le_refl 0, h.covered.mono (by omega)⟩,
    covered_cons.2 ⟨by omega, ?_⟩⟩, ?_⟩
  · rw [hsettled, hcloses]
    exact nil.covered
  · rw [surplus_append, hsettled, hcloses]
    rfl

end Matched

/-- A token set closes more than is open, and none of those in front of it does. -/
structure Overcloses (openings closings : List String) (depth : Int) (inner : List TokenSet)
    (closing : TokenSet) : Prop where
  /-- Up to the token set nowhere is more closed than is open. -/
  covered : Covered openings closings depth inner
  /-- With the token set it is. -/
  surplus_neg : depth + surplus openings closings (inner ++ [closing]) < 0

/-- A token set in front counts as open or closed before. -/
theorem overcloses_cons : Overcloses openings closings depth (set :: inner) closing ↔
    0 ≤ depth ∧
      Overcloses openings closings (depth + surplus openings closings [set]) inner closing := by
  constructor
  · rintro ⟨hcovered, hover⟩
    obtain ⟨hdepth, hinner⟩ := covered_cons.1 hcovered
    rw [List.cons_append, surplus_cons] at hover
    exact ⟨hdepth, hinner, by omega⟩
  · rintro ⟨hdepth, hcovered, hover⟩
    refine ⟨covered_cons.2 ⟨hdepth, hcovered⟩, ?_⟩
    rw [List.cons_append, surplus_cons]
    omega

/-- More is closed for the first time at one place only. -/
theorem Overcloses.unique (h : Overcloses openings closings depth inner closing)
    (h' : Overcloses openings closings depth inner' closing')
    (heq : inner ++ closing :: behind = inner' ++ closing' :: behind') :
    inner = inner' ∧ closing = closing' ∧ behind = behind' := by
  induction inner generalizing inner' depth with
  | nil =>
    cases inner' with
    | nil => exact ⟨rfl, List.cons.inj heq⟩
    | cons set' inner' =>
      -- The first token set alone cannot close too much and be in front of one that does.
      obtain ⟨rfl, -⟩ := List.cons.inj heq
      have hnonneg := (overcloses_cons.1 h').2.covered.depth_nonneg
      have hover := h.surplus_neg
      rw [List.nil_append] at hover
      omega
  | cons set inner ih =>
    cases inner' with
    | nil =>
      obtain ⟨rfl, -⟩ := List.cons.inj heq
      have hnonneg := (overcloses_cons.1 h).2.covered.depth_nonneg
      have hover := h'.surplus_neg
      rw [List.nil_append] at hover
      omega
    | cons set' inner' =>
      obtain ⟨rfl, hrest⟩ := List.cons.inj heq
      obtain ⟨rfl, hclosing⟩ := ih (overcloses_cons.1 h).2 (overcloses_cons.1 h').2 hrest
      exact ⟨rfl, hclosing⟩

end GrammarLang.Grammar
