import GrammarLang.Proofs.Grammar.Parsed
import Mathlib.Data.Set.Card

/-! # Interning

A run of **`Arena.intern`** from an arena without terminals gives each terminal a place. The run is
**`Canonical`**: equal terminals get the same place and different ones do not, the places are numbered
as they are first given, and a place keeps its terminal. That two terminals are **`Terminal.Equal`** is
said by their kinds and values, without the keys that the arena compares.

An arena that looks its terminals up in a hash table is a **`CachedArena`**. Its table is
**`CachedArena.Coherent`** with its terminals at first, and interning keeps it so, which makes the two
arenas give the same places and keep the same terminals. -/

namespace GrammarLang.Grammar

/-! ## Equal terminals -/

namespace Terminal

/-- Two terminals are of the same kind and stand for the same. Sets of texts are compared as they are
written. -/
def Equal : Terminal → Terminal → Prop
  | ident name, ident other => name = other
  | string value, string other => value = other
  | number value, number other => value = other
  | set regexSet, set other => regexSet.source = other.source ∧ regexSet.flags = other.flags
  | _, _ => False

theorem equal_iff_key {left right : Terminal} : left.Equal right ↔ left.key = right.key := by
  cases left <;> cases right <;> simp [Equal, key]

/-- The comparison of the arena finds equal terminals and no others. -/
theorem same_iff_equal {left right : Terminal} : left.same right = true ↔ left.Equal right := by
  rw [equal_iff_key, same, decide_eq_true_eq]

/-- Terminals up to equality. -/
instance equality : Setoid Terminal where
  r := Equal
  iseqv := by
    constructor
    · intro terminal
      exact equal_iff_key.2 rfl
    · intro left right h
      exact equal_iff_key.2 (equal_iff_key.1 h).symm
    · intro left middle right h h'
      exact equal_iff_key.2 ((equal_iff_key.1 h).trans (equal_iff_key.1 h'))

/-- The different terminals among some. -/
def distinct (terminals : List Terminal) : Set (Quotient equality) :=
  {kind | ∃ terminal ∈ terminals, kind = Quotient.mk equality terminal}

end Terminal

/-! ## Runs -/

section Runs

variable {State State' Argument Answer : Type}

/-- Calls a function that changes a state with one argument after another. -/
def callAll (call : State → Argument → Answer × State) (state : State) :
    List Argument → List Answer × State
  | [] => ([], state)
  | first :: others =>
    let (answer, middle) := call state first
    let (answers, last) := callAll call middle others
    (answer :: answers, last)

variable {call : State → Argument → Answer × State} {call' : State' → Argument → Answer × State'}

/-- Calls in two parts are calls in a row. -/
theorem callAll_append (state : State) (earlier later : List Argument) :
    callAll call state (earlier ++ later) =
      ((callAll call state earlier).1 ++ (callAll call (callAll call state earlier).2 later).1,
        (callAll call (callAll call state earlier).2 later).2) := by
  induction earlier generalizing state with
  | nil => rfl
  | cons first others ih => simp only [List.cons_append, callAll, ih]

/-- Functions that answer alike where their states are related, and lead to related states, answer
alike all the way. -/
theorem callAll_related {related : State → State' → Prop}
    (hcall : ∀ state state' argument, related state state' →
      (call state argument).1 = (call' state' argument).1 ∧
        related (call state argument).2 (call' state' argument).2)
    {state : State} {state' : State'} (h : related state state') (arguments : List Argument) :
    (callAll call state arguments).1 = (callAll call' state' arguments).1 ∧
      related (callAll call state arguments).2 (callAll call' state' arguments).2 := by
  induction arguments generalizing state state' with
  | nil => exact ⟨rfl, h⟩
  | cons first others ih =>
    obtain ⟨hanswer, hmiddle⟩ := hcall state state' first h
    obtain ⟨hanswers, hlast⟩ := ih hmiddle
    refine ⟨?_, hlast⟩
    simp only [callAll]
    rw [hanswer, hanswers]

end Runs

/-! ## Interning many terminals -/

namespace Arena

variable {arena other : Arena} {terminal : Terminal} {id : TerminalId}

/-- Interns terminals one after another, and gives their places. -/
def internAll (arena : Arena) (terminals : List Terminal) : List TerminalId × Arena :=
  callAll intern arena terminals

example : (Arena.empty.internAll [.string "x", .ident "x", .number 3, .string "x"]).1 =
    [⟨0⟩, ⟨1⟩, ⟨2⟩, ⟨0⟩] := by decide

/-- At a place the arena has a terminal that equals a given one. -/
def Stores (arena : Arena) (terminal : Terminal) (id : TerminalId) : Prop :=
  ∃ stored, arena.get? id = some stored ∧ stored.Equal terminal

theorem Stores.mono (h : arena.Stores terminal id) (hwithin : arena.Within other) :
    other.Stores terminal id := by
  obtain ⟨stored, hget, hequal⟩ := h
  exact ⟨stored, hwithin.get? hget, hequal⟩

/-- What is interned is stored at the place that is given. -/
theorem stores_intern (arena : Arena) (terminal : Terminal) :
    (arena.intern terminal).2.Stores terminal (arena.intern terminal).1 := by
  unfold intern
  split
  · rename_i index hfound
    obtain ⟨hlt, hsame, -⟩ := List.findIdx?_eq_some_iff_getElem.1 hfound
    refine ⟨arena.terminals[index], List.getElem?_eq_getElem hlt, ?_⟩
    apply Terminal.equality.symm'
    exact Terminal.same_iff_equal.1 hsame
  · refine ⟨terminal, ?_, Terminal.equality.refl' terminal⟩
    simp [get?, size]

/-- Where no terminal is stored twice, terminals stored at the same place are equal, and equal ones are
stored at the same place. -/
theorem Stores.eq_iff {terminal' : Terminal} {id' : TerminalId} (hnodup : arena.keys.Nodup)
    (h : arena.Stores terminal id) (h' : arena.Stores terminal' id') :
    id = id' ↔ terminal.Equal terminal' := by
  obtain ⟨stored, hget, hequal⟩ := h
  obtain ⟨stored', hget', hequal'⟩ := h'
  rw [Terminal.equal_iff_key] at hequal hequal' ⊢
  constructor
  · rintro rfl
    obtain rfl : stored = stored' := Option.some.inj (hget.symm.trans hget')
    exact hequal.symm.trans hequal'
  · intro hkey
    have hkeys : arena.keys[id.index]? = some terminal.key := by
      rw [keys, List.getElem?_map, ← hequal]
      exact congrArg (Option.map Terminal.key) hget
    have hkeys' : arena.keys[id'.index]? = some terminal.key := by
      rw [keys, List.getElem?_map, hkey, ← hequal']
      exact congrArg (Option.map Terminal.key) hget'
    obtain ⟨hlt, hfirst⟩ := List.getElem?_eq_some_iff.1 hkeys
    obtain ⟨hlt', hsecond⟩ := List.getElem?_eq_some_iff.1 hkeys'
    have hindex : id.index = id'.index := (hnodup.getElem_inj_iff).1 (hfirst.trans hsecond.symm)
    cases id
    cases id'
    exact congrArg TerminalId.mk hindex

theorem mem_of_mem_intern {stored : Terminal} (h : stored ∈ (arena.intern terminal).2.terminals) :
    stored ∈ arena.terminals ∨ stored = terminal := by
  rw [intern] at h
  split at h
  · exact .inl h
  · exact (List.mem_append.1 h).imp_right List.mem_singleton.1

variable (arena) (terminals : List Terminal)

theorem within_internAll : arena.Within (arena.internAll terminals).2 := by
  induction terminals generalizing arena with
  | nil => exact .refl arena
  | cons first others ih => exact (within_intern arena first).trans (ih _)

theorem nodup_internAll (h : arena.keys.Nodup) : (arena.internAll terminals).2.keys.Nodup := by
  induction terminals generalizing arena with
  | nil => exact h
  | cons first others ih => exact ih _ (nodup_intern h first)

theorem numbered_internAll :
    Numbered arena.size (arena.internAll terminals).1 (arena.internAll terminals).2.size := by
  induction terminals generalizing arena with
  | nil => exact .nil
  | cons first others ih =>
    have hfirst := numbered_intern arena first
    exact numbered_append.2 ⟨_, hfirst, ih _⟩

/-- Each terminal is stored at its place in the end. -/
theorem stores_internAll :
    List.Forall₂ (arena.internAll terminals).2.Stores terminals (arena.internAll terminals).1 := by
  induction terminals generalizing arena with
  | nil => exact .nil
  | cons first others ih =>
    have hfirst := arena.stores_intern first
    -- What the first call stores is still there behind the others.
    exact .cons (hfirst.mono (within_internAll _ others)) (ih _)

/-- Each place that is given has a terminal in the end. -/
theorem exists_get?_of_mem {id : TerminalId} (h : id ∈ (arena.internAll terminals).1) :
    ∃ terminal, (arena.internAll terminals).2.get? id = some terminal := by
  have hstores := stores_internAll arena terminals
  rw [← List.map_snd_zip hstores.length_eq.ge] at h
  obtain ⟨⟨terminal, _⟩, hmem, rfl⟩ := List.mem_map.1 h
  obtain ⟨stored, hget, -⟩ := List.forall₂_zip hstores hmem
  exact ⟨stored, hget⟩

/-- Each terminal is among those of the arena in the end, up to equality. -/
theorem exists_equal_of_mem {terminal : Terminal} (h : terminal ∈ terminals) :
    ∃ stored ∈ (arena.internAll terminals).2.terminals, stored.Equal terminal := by
  have hstores := stores_internAll arena terminals
  rw [← List.map_fst_zip hstores.length_eq.le] at h
  obtain ⟨⟨_, id⟩, hmem, rfl⟩ := List.mem_map.1 h
  obtain ⟨stored, hget, hequal⟩ := List.forall₂_zip hstores hmem
  exact ⟨stored, List.mem_of_getElem? hget, hequal⟩

/-- A run in two parts gives the places of the first part, which keep their terminals. -/
theorem kept_internAll (earlier later : List Terminal) :
    (arena.internAll earlier).1 <+: (arena.internAll (earlier ++ later)).1 ∧
      (arena.internAll earlier).2.Within (arena.internAll (earlier ++ later)).2 := by
  rw [internAll, internAll, callAll_append]
  exact ⟨List.prefix_append _ _, within_internAll _ later⟩

/-- The arena stores nothing but what was in it and what was interned. -/
theorem subset_internAll : ∀ stored ∈ (arena.internAll terminals).2.terminals,
    stored ∈ arena.terminals ∨ stored ∈ terminals := by
  induction terminals generalizing arena with
  | nil => exact fun stored hmem => .inl hmem
  | cons first others ih =>
    intro stored hmem
    obtain hold | hnew := ih (arena.intern first).2 stored hmem
    · rcases mem_of_mem_intern hold with hold | rfl
      · exact .inl hold
      · exact .inr List.mem_cons_self
    · exact .inr (List.mem_cons_of_mem first hnew)

/-- An arena that stores each of some terminals, and nothing else, has as many terminals as there are
different ones. -/
theorem size_eq_ncard (hnodup : arena.keys.Nodup) (hstored : ∀ stored ∈ arena.terminals, stored ∈ terminals)
    (hall : ∀ terminal ∈ terminals, ∃ stored ∈ arena.terminals, stored.Equal terminal) :
    arena.size = (Terminal.distinct terminals).ncard := by
  classical
  have hkinds : (arena.terminals.map (Quotient.mk Terminal.equality)).Nodup := by
    refine List.Nodup.of_map (Quotient.lift Terminal.key fun _ _ => Terminal.equal_iff_key.1) ?_
    rw [List.map_map]
    exact hnodup
  have hset : Terminal.distinct terminals =
      ((arena.terminals.map (Quotient.mk Terminal.equality)).toFinset : Set _) := by
    ext kind
    simp only [Terminal.distinct, Set.mem_ofPred_eq, List.coe_toFinset, List.mem_map]
    constructor
    · rintro ⟨terminal, hmem, rfl⟩
      obtain ⟨stored, hstored, hequal⟩ := hall terminal hmem
      exact ⟨stored, hstored, Quotient.sound hequal⟩
    · rintro ⟨stored, hmem, rfl⟩
      exact ⟨stored, hstored stored hmem, rfl⟩
  rw [hset, Set.ncard_coe_finset, List.toFinset_card_of_nodup hkinds, List.length_map, size]

end Arena

/-! ## Interning with a hash table -/

deriving instance Hashable for TerminalKey

/-- An arena that keeps a hash table of the places of its terminals. -/
structure CachedArena extends Arena where
  /-- The place of the terminal with a key. -/
  places : Std.HashMap TerminalKey TerminalId

namespace CachedArena

/-- An arena without terminals. -/
def empty : CachedArena := ⟨.empty, ∅⟩

/-- The place of a terminal, and the arena that has it there: a terminal whose key is in the table
keeps its place, any other is added at the end. -/
def intern (arena : CachedArena) (terminal : Terminal) : TerminalId × CachedArena :=
  match arena.places[terminal.key]? with
  | some id => (id, arena)
  | none =>
    (⟨arena.size⟩, ⟨⟨arena.terminals ++ [terminal]⟩, arena.places.insert terminal.key ⟨arena.size⟩⟩)

/-- The table has the keys of the terminals, each with the place of its terminal. -/
def Coherent (arena : CachedArena) : Prop :=
  ∀ (key : TerminalKey) (id : TerminalId),
    arena.places[key]? = some id ↔ arena.keys[id.index]? = some key

/-- The arena is another one with a coherent table. -/
structure Caches (cached : CachedArena) (arena : Arena) : Prop where
  /-- It has the same terminals. -/
  arena_eq : cached.toArena = arena
  /-- Its table is coherent. -/
  coherent : cached.Coherent

theorem caches_empty : empty.Caches .empty := by
  refine ⟨rfl, fun key id => ?_⟩
  simp [empty, Arena.keys, Arena.empty]

/-- A key that is in the table is found where the table says. -/
theorem Coherent.findIdx?_eq_some {cached : CachedArena} (h : cached.Coherent) {key : TerminalKey}
    {id : TerminalId} (hplace : cached.places[key]? = some id) :
    cached.keys.findIdx? (key = ·) = some id.index := by
  obtain ⟨hlt, hkey⟩ := List.getElem?_eq_some_iff.1 ((h key id).1 hplace)
  rw [List.findIdx?_eq_some_iff_getElem]
  refine ⟨hlt, decide_eq_true hkey.symm, ?_⟩
  -- There is no other place with this key, as the table has one for it.
  intro index hindex
  rw [decide_eq_true_eq]
  intro hother
  have hplace' : cached.places[key]? = some ⟨index⟩ :=
    (h key ⟨index⟩).2 (List.getElem?_eq_some_iff.2 ⟨Nat.lt_trans hindex hlt, hother.symm⟩)
  rw [hplace] at hplace'
  have hsame : id.index = index := congrArg TerminalId.index (Option.some.inj hplace')
  omega

/-- A key that is not in the table is not found. -/
theorem Coherent.findIdx?_eq_none {cached : CachedArena} (h : cached.Coherent) {key : TerminalKey}
    (hplace : cached.places[key]? = none) : cached.keys.findIdx? (key = ·) = none := by
  rw [List.findIdx?_eq_none_iff]
  intro other hmem
  rw [decide_eq_false_iff_not]
  rintro rfl
  obtain ⟨index, hindex⟩ := List.mem_iff_getElem?.1 hmem
  rw [(h key ⟨index⟩).2 hindex] at hplace
  contradiction

/-- A key that is not in the table is added behind the others. -/
theorem Coherent.insert {cached : CachedArena} (h : cached.Coherent) {terminal : Terminal}
    (hplace : cached.places[terminal.key]? = none) :
    Coherent ⟨⟨cached.terminals ++ [terminal]⟩,
      cached.places.insert terminal.key ⟨cached.size⟩⟩ := by
  have hsize : cached.keys.length = cached.size := cached.toArena.length_keys
  intro key id
  show (cached.places.insert terminal.key _)[key]? = _ ↔
    ((cached.terminals ++ [terminal]).map Terminal.key)[id.index]? = some key
  rw [Std.HashMap.getElem?_insert, List.map_append, List.map_singleton]
  change _ ↔ (cached.keys ++ [terminal.key])[id.index]? = some key
  by_cases hkey : terminal.key = key
  · subst hkey
    rw [if_pos (beq_self_eq_true _), Option.some.injEq]
    constructor
    · rintro rfl
      rw [← hsize, List.getElem?_concat_length]
    · intro hget
      by_cases hold : id.index < cached.keys.length
      · rw [List.getElem?_append_left hold, ← h] at hget
        rw [hplace] at hget
        contradiction
      · obtain ⟨hlt, -⟩ := List.getElem?_eq_some_iff.1 hget
        rw [List.length_append, List.length_singleton] at hlt
        have hindex : cached.size = id.index := by omega
        rw [hindex]
  · have hne : (terminal.key == key) = false := beq_eq_false_iff_ne.2 hkey
    rw [hne, if_neg Bool.false_ne_true, h key id]
    by_cases hold : id.index < cached.keys.length
    · rw [List.getElem?_append_left hold]
    · rw [List.getElem?_append_right (by omega), List.getElem?_eq_none (by omega)]
      simp [List.getElem?_singleton, hkey]

/-- **One call keeps the table coherent**, and it gives the place that is found without the table. -/
theorem Caches.intern {cached : CachedArena} {arena : Arena} (h : cached.Caches arena)
    (terminal : Terminal) :
    (cached.intern terminal).1 = (arena.intern terminal).1 ∧
      (cached.intern terminal).2.Caches (arena.intern terminal).2 := by
  obtain ⟨rfl, hcoherent⟩ := h
  rw [CachedArena.intern, Arena.intern, Arena.findIdx?_same]
  cases hplace : cached.places[terminal.key]? with
  | some id =>
    rw [hcoherent.findIdx?_eq_some hplace]
    exact ⟨rfl, rfl, hcoherent⟩
  | none =>
    rw [hcoherent.findIdx?_eq_none hplace]
    exact ⟨rfl, rfl, hcoherent.insert hplace⟩

/-- Interns terminals one after another, and gives their places. -/
def internAll (arena : CachedArena) (terminals : List Terminal) : List TerminalId × CachedArena :=
  callAll intern arena terminals

/-- A run with the table gives the places of a run without it. -/
theorem caches_internAll (terminals : List Terminal) :
    (empty.internAll terminals).1 = (Arena.empty.internAll terminals).1 ∧
      (empty.internAll terminals).2.Caches (Arena.empty.internAll terminals).2 := by
  have hcall (cached : CachedArena) (arena : Arena) (terminal : Terminal) (h : cached.Caches arena) :=
    h.intern terminal
  exact callAll_related hcall caches_empty terminals

end CachedArena

/-! ## Canonical runs -/

/-- What a run of interning gives: a place for each of some terminals, and an arena. -/
structure Canonical (terminals : List Terminal) (ids : List TerminalId) (arena : Arena) : Prop where
  /-- There is a place for each terminal. -/
  length_eq : ids.length = terminals.length
  /-- Two calls give the same place if their terminals are equal, and only then. -/
  same_iff : ∀ call ∈ terminals.zip ids, ∀ other ∈ terminals.zip ids,
    call.2 = other.2 ↔ call.1.Equal other.1
  /-- The terminal at a place equals the one that the place was given to. -/
  stored : ∀ call ∈ terminals.zip ids, arena.Stores call.1 call.2
  /-- The places are those from the first to the last one, numbered as they were given first. -/
  numbered : ids.eraseDups = arena.ids
  /-- A place keeps its terminal in all later calls. -/
  kept : ∀ earlier later, terminals = earlier ++ later →
    (Arena.empty.internAll earlier).1 <+: ids ∧
      ∀ id ∈ (Arena.empty.internAll earlier).1, ∃ terminal,
        (Arena.empty.internAll earlier).2.get? id = some terminal ∧ arena.get? id = some terminal
  /-- There are as many terminals as different ones were interned. -/
  size_eq : arena.size = (Terminal.distinct terminals).ncard
  /-- A hash table of the places makes no difference. -/
  cached : (CachedArena.empty.internAll terminals).1 = ids ∧
    (CachedArena.empty.internAll terminals).2.toArena = arena

/-- **Interning is canonical.** Whatever terminals are interned, equal ones are shared and all others
are told apart. -/
theorem canonical_internAll (terminals : List Terminal) :
    Canonical terminals (Arena.empty.internAll terminals).1 (Arena.empty.internAll terminals).2 := by
  have hnodup := Arena.nodup_internAll .empty terminals List.nodup_nil
  have hnumbered := Arena.numbered_internAll .empty terminals
  have hstores := Arena.stores_internAll .empty terminals
  have hsubset := Arena.subset_internAll .empty terminals
  have hcall (call : Terminal × TerminalId)
      (hmem : call ∈ terminals.zip (Arena.empty.internAll terminals).1) :
      (Arena.empty.internAll terminals).2.Stores call.1 call.2 := List.forall₂_zip hstores hmem
  constructor
  case length_eq => exact hstores.length_eq.symm
  case same_iff =>
    intro call hmem other hother
    exact (hcall call hmem).eq_iff hnodup (hcall other hother)
  case stored => exact hcall
  case numbered => exact eraseDups_of_numbered hnumbered
  case kept =>
    rintro earlier later rfl
    obtain ⟨hplaces, hwithin⟩ := Arena.kept_internAll .empty earlier later
    refine ⟨hplaces, fun id hmem => ?_⟩
    obtain ⟨terminal, hget⟩ := Arena.exists_get?_of_mem .empty earlier hmem
    exact ⟨terminal, hget, hwithin.get? hget⟩
  case size_eq =>
    apply Arena.size_eq_ncard _ terminals hnodup
    · intro stored hmem
      exact (hsubset stored hmem).resolve_left List.not_mem_nil
    · exact fun terminal hmem => Arena.exists_equal_of_mem .empty terminals hmem
  case cached =>
    obtain ⟨hids, harena, -⟩ := CachedArena.caches_internAll terminals
    exact ⟨hids, harena⟩

end GrammarLang.Grammar
