import Std.Data.HashSet

/-! # Things found one after another

A search may come upon the same thing more than once. **`Found`** keeps each thing once, where it
was found first: **`Found.add`** adds a thing unless it is there, **`Found.toList`** lists the
things in the order they were found. **`distinct`** does so for a list. -/

namespace GrammarLang.Regex

/-- The things found so far, each once. -/
structure Found (α : Type) [DecidableEq α] [Hashable α] where
  /-- The things, the latest first. -/
  latest : List α
  /-- The same things, to look them up. -/
  known : Std.HashSet α
  /-- Both hold the same things. -/
  mem_known : ∀ thing, thing ∈ known ↔ thing ∈ latest

namespace Found

variable {α : Type} [DecidableEq α] [Hashable α]

/-- Nothing found yet. -/
def empty : Found α := ⟨[], ∅, by simp⟩

/-- Whether a thing was found. -/
def contains (found : Found α) (thing : α) : Bool := found.known.contains thing

/-- Adds a thing, unless it was found before. -/
def add (found : Found α) (thing : α) : Found α :=
  if found.contains thing then found
  else
    { latest := thing :: found.latest
      known := found.known.insert thing
      mem_known := by
        intro other
        rw [Std.HashSet.mem_insert, found.mem_known, List.mem_cons, beq_iff_eq, eq_comm] }

/-- The things found, first to last. -/
def toList (found : Found α) : List α := found.latest.reverse

@[simp] theorem contains_iff {found : Found α} {thing : α} :
    found.contains thing = true ↔ thing ∈ found.toList := by
  rw [contains, Std.HashSet.contains_iff_mem, found.mem_known, toList, List.mem_reverse]

@[simp] theorem toList_empty : (empty : Found α).toList = [] := rfl

theorem toList_add (found : Found α) (thing : α) :
    (found.add thing).toList =
      if thing ∈ found.toList then found.toList else found.toList ++ [thing] := by
  by_cases h : thing ∈ found.toList
  · rw [add, if_pos (contains_iff.2 h), if_pos h]
  · rw [add, if_neg (mt contains_iff.1 h), if_neg h]
    simp [toList]

@[simp] theorem mem_toList_add {found : Found α} {thing other : α} :
    other ∈ (found.add thing).toList ↔ other ∈ found.toList ∨ other = thing := by
  rw [toList_add]
  split
  · exact ⟨.inl, fun hor => hor.elim id fun heq => heq ▸ ‹_›⟩
  · simp

end Found

/-- A list without the things that occur earlier in it. -/
def distinct {α : Type} [DecidableEq α] [Hashable α] (things : List α) : List α :=
  (things.foldl Found.add .empty).toList

theorem mem_toList_foldl_add {α : Type} [DecidableEq α] [Hashable α] {things : List α}
    {found : Found α} {thing : α} :
    thing ∈ (things.foldl Found.add found).toList ↔ thing ∈ found.toList ∨ thing ∈ things := by
  induction things generalizing found with
  | nil => simp
  | cons first others ih => simp [ih, or_assoc]

@[simp] theorem mem_distinct {α : Type} [DecidableEq α] [Hashable α] {things : List α}
    {thing : α} : thing ∈ distinct things ↔ thing ∈ things := by
  simp [distinct, mem_toList_foldl_add]

@[simp] theorem distinct_nil {α : Type} [DecidableEq α] [Hashable α] :
    distinct ([] : List α) = [] := rfl

@[simp] theorem distinct_singleton {α : Type} [DecidableEq α] [Hashable α] (thing : α) :
    distinct [thing] = [thing] := by
  simp [distinct, Found.toList_add]

end GrammarLang.Regex
