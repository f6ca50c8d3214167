import GrammarLang.CommandLine.Options
import Mathlib.Data.List.Perm.Basic

/-! # The division of a command line

What a word of a command line means hangs on the words before it: `on` is a path, unless `--errors`
is in front of it. So the words are divided from left to right, into arguments of one word or two.

* **`Divides`** — words fall into arguments; **`readAll_eq_ok_iff`** — there is one division at most,
  and reading finds it.
* **`Options.Reflects`** — what options have to do with arguments, said argument by argument.
* **`parse_by_division`** — the options are those that reflect the division of the words, and the
  order of the arguments does not matter but for the settings behind `--errors`. -/

namespace GrammarLang.CommandLine

variable {words : List String} {arguments reordered : List Argument} {options : Options}

/-! ## Arguments -/

/-- Words fall, from left to right, into arguments. -/
structure Divides (words : List String) (arguments : List Argument) : Prop where
  /-- The words are those of the arguments. -/
  words_eq : words = arguments.flatMap Argument.words
  /-- No path has two dashes in front. -/
  plain : ∀ path, .path path ∈ arguments → ¬ "--".toList <+: path.toList

/-- One more argument in front. -/
theorem Divides.cons (h : Divides words arguments) (argument : Argument)
    (hplain : ∀ path, argument = .path path → ¬ "--".toList <+: path.toList) :
    Divides (argument.words ++ words) (argument :: arguments) where
  words_eq := by rw [h.words_eq, List.flatMap_cons]
  plain := by
    intro path hmem
    obtain heq | hmem := List.mem_cons.1 hmem
    · exact hplain path heq.symm
    · exact h.plain path hmem

@[simp] theorem hasDashes_iff (word : String) : hasDashes word = true ↔ "--".toList <+: word.toList :=
  List.isPrefixOf_iff_prefix

/-- A word asks for something to be shown just if it is its flag. -/
theorem Showing.ofFlag?_eq_some_iff {word : String} {what : Showing} :
    Showing.ofFlag? word = some what ↔ word = what.flag := by
  constructor
  · intro h
    have hflag := List.find?_some (show List.find? _ _ = some what from h)
    exact (of_decide_eq_true hflag).symm
  · rintro rfl
    cases what <;> decide

/-- All flags have two dashes in front. -/
theorem Showing.dashes_flag (what : Showing) : "--".toList <+: what.flag.toList := by
  cases what <;> decide

namespace Argument

/-- Reading takes the words of an argument off, and goes on behind them. -/
theorem readAll_words_append (argument : Argument) (rest : List String)
    (h : ∀ path, argument = .path path → ¬ "--".toList <+: path.toList) :
    readAll (argument.words ++ rest) = (readAll rest).map (argument :: ·) := by
  cases argument with
  | showing what => cases what <;> rfl
  | errors shown => cases shown <;> rfl
  | path name =>
    have hplain : ¬ "--".toList <+: name.toList := h name rfl
    -- The word is none of those that `--errors` and the flags are told by.
    have herrors : name ≠ "--errors" := by
      rintro rfl
      exact hplain (by decide)
    have hflag : Showing.ofFlag? name = none := by
      rw [Option.eq_none_iff_forall_ne_some]
      intro what hwhat
      exact hplain (Showing.ofFlag?_eq_some_iff.1 hwhat ▸ what.dashes_flag)
    rw [words, List.singleton_append, readAll.eq_6 name rest (fun heq _ => herrors heq)
      (fun _ _ heq _ => herrors heq), hflag]
    simp only [hasDashes_iff, hplain, if_false]

/-- What is read further is put behind what was read first. -/
theorem exists_of_map_cons {first : Argument} {read : Except UsageError (List Argument)}
    {arguments : List Argument} (h : read.map (first :: ·) = .ok arguments) :
    ∃ others, read = .ok others ∧ arguments = first :: others := by
  cases read with
  | error failure => contradiction
  | ok others =>
    cases h
    exact ⟨others, rfl, rfl⟩

/-- **Reading finds the division of the words.** It fails where there is none. -/
theorem readAll_eq_ok_iff : readAll words = .ok arguments ↔ Divides words arguments := by
  constructor
  · intro h
    -- Each step of reading takes the words of one argument off.
    fun_induction readAll words generalizing arguments with
    | case1 =>
      cases h
      exact ⟨rfl, by simp⟩
    | case2 => contradiction
    | case3 rest ih =>
      obtain ⟨others, hrest, rfl⟩ := exists_of_map_cons h
      exact (ih hrest).cons (.errors true) (by simp)
    | case4 rest ih =>
      obtain ⟨others, hrest, rfl⟩ := exists_of_map_cons h
      exact (ih hrest).cons (.errors false) (by simp)
    | case5 setting rest hon hoff => contradiction
    | case6 word rest hlone hpair what hflag ih =>
      obtain ⟨others, hrest, rfl⟩ := exists_of_map_cons h
      obtain rfl := Showing.ofFlag?_eq_some_iff.1 hflag
      exact (ih hrest).cons (.showing what) (by simp)
    | case7 word rest hlone hpair hflag hdashes => contradiction
    | case8 word rest hlone hpair hflag hdashes ih =>
      obtain ⟨others, hrest, rfl⟩ := exists_of_map_cons h
      refine (ih hrest).cons (.path word) ?_
      rintro path ⟨⟩
      exact mt (hasDashes_iff word).2 hdashes
  · rintro ⟨rfl, hplain⟩
    induction arguments with
    | nil => rfl
    | cons argument others ih =>
      have hfirst : ∀ path, argument = .path path → ¬ "--".toList <+: path.toList :=
        fun path heq => hplain path (heq ▸ List.mem_cons_self)
      have hothers : readAll (others.flatMap Argument.words) = .ok others :=
        ih fun path hmem => hplain path (List.mem_cons_of_mem _ hmem)
      rw [List.flatMap_cons, readAll_words_append argument _ hfirst, hothers]
      rfl

end Argument

/-! ## Options -/

/-- Whether options ask for something to be shown. -/
def Options.shows (options : Options) : Showing → Bool
  | .tokens => options.tokens
  | .tree => options.tree
  | .terminals => options.terminals
  | .productions => options.productions

/-- Of some arguments, one is a path, and no other is. -/
def OnlyPath (arguments : List Argument) (path : String) : Prop :=
  ∃ front back, arguments = front ++ .path path :: back ∧ ∀ other, .path other ∉ front ++ back

/-- Problems are shown or not, as the last setting among some arguments says; they are shown if there
is none. -/
def SettledAs (arguments : List Argument) (shown : Bool) : Prop :=
  (∃ front back, arguments = front ++ .errors shown :: back ∧ ∀ other, .errors other ∉ back) ∨
    shown = true ∧ ∀ other, .errors other ∉ arguments

/-- Options say what some arguments say. -/
structure Options.Reflects (options : Options) (arguments : List Argument) : Prop where
  /-- What is to be shown is what the arguments ask for. -/
  shows_iff : ∀ what, options.shows what = true ↔ .showing what ∈ arguments
  /-- The last setting counts. -/
  settled : SettledAs arguments options.errors
  /-- The file is the one that is named. -/
  only : OnlyPath arguments options.path

theorem Argument.path?_eq_some_iff {argument : Argument} {name : String} :
    argument.path? = some name ↔ argument = .path name := by
  cases argument <;> simp [path?]

theorem Argument.path?_eq_none_iff {argument : Argument} :
    argument.path? = none ↔ ∀ name, argument ≠ .path name := by
  cases argument <;> simp [path?]

theorem Argument.errors?_eq_some_iff {argument : Argument} {shown : Bool} :
    argument.errors? = some shown ↔ argument = .errors shown := by
  cases argument <;> simp [errors?]

theorem Argument.errors?_eq_none_iff {argument : Argument} :
    argument.errors? = none ↔ ∀ shown, argument ≠ .errors shown := by
  cases argument <;> simp [errors?]

/-- The only path is the whole list of paths. -/
theorem onlyPath_iff {path : String} :
    OnlyPath arguments path ↔ arguments.filterMap Argument.path? = [path] := by
  simp only [OnlyPath, List.filterMap_eq_cons_iff, List.filterMap_eq_nil_iff,
    Argument.path?_eq_some_iff, Argument.path?_eq_none_iff, List.mem_append, not_or]
  constructor
  · rintro ⟨front, back, rfl, hother⟩
    exact ⟨front, _, back, rfl, fun argument hmem name heq => (hother name).1 (heq ▸ hmem), rfl,
      fun argument hmem name heq => (hother name).2 (heq ▸ hmem)⟩
  · rintro ⟨front, _, back, rfl, hfront, rfl, hback⟩
    exact ⟨front, back, rfl, fun other =>
      ⟨fun hmem => hfront _ hmem other rfl, fun hmem => hback _ hmem other rfl⟩⟩

/-- The last setting is the last of the list of settings. -/
theorem settledAs_iff {shown : Bool} :
    SettledAs arguments shown ↔
      (arguments.filterMap Argument.errors?).getLast?.getD true = shown := by
  constructor
  · rintro (⟨front, back, rfl, hback⟩ | ⟨rfl, hnone⟩)
    · -- No setting is behind this one, so that it ends the list of settings.
      have hsettings : back.filterMap Argument.errors? = [] :=
        List.filterMap_eq_nil_iff.2 fun argument hmem =>
          Argument.errors?_eq_none_iff.2 fun other heq => hback other (heq ▸ hmem)
      have hlast : (Argument.errors shown).errors? = some shown := rfl
      rw [List.filterMap_append, List.filterMap_cons_some hlast, hsettings, List.getLast?_concat]
      rfl
    · have hsettings : arguments.filterMap Argument.errors? = [] :=
        List.filterMap_eq_nil_iff.2 fun argument hmem =>
          Argument.errors?_eq_none_iff.2 fun other heq => hnone other (heq ▸ hmem)
      rw [hsettings]
      rfl
  · intro h
    cases hlast : (arguments.filterMap Argument.errors?).getLast? with
    | none =>
      have hnone := List.filterMap_eq_nil_iff.1 (List.getLast?_eq_none_iff.1 hlast)
      rw [hlast] at h
      exact .inr ⟨h.symm, fun other hmem => Argument.errors?_eq_none_iff.1 (hnone _ hmem) other rfl⟩
    | some last =>
      rw [hlast] at h
      obtain rfl : last = shown := h
      -- The list of settings is split in front of its last entry, and the arguments with it.
      obtain ⟨earlier, hsettings⟩ := List.getLast?_eq_some_iff.1 hlast
      obtain ⟨front, behind, rfl, -, hbehind⟩ := List.filterMap_eq_append_iff.1 hsettings
      obtain ⟨between, _, back, rfl, -, hsetting, hback⟩ := List.filterMap_eq_cons_iff.1 hbehind
      obtain rfl := Argument.errors?_eq_some_iff.1 hsetting
      refine .inl ⟨front ++ between, back, by simp, fun other hmem => ?_⟩
      exact Argument.errors?_eq_none_iff.1 (List.filterMap_eq_nil_iff.1 hback _ hmem) other rfl

/-- The options that are made of arguments say what these say, and no others do. -/
theorem Options.reflects_iff :
    options.Reflects arguments ↔ arguments.filterMap Argument.path? = [options.path] ∧
      options = .ofArguments arguments options.path := by
  constructor
  · rintro ⟨hshows, hsettled, honly⟩
    refine ⟨onlyPath_iff.1 honly, ?_⟩
    obtain ⟨tokens, tree, terminals, productions, errors, path⟩ := options
    have hflag (what : Showing) :
        shows ⟨tokens, tree, terminals, productions, errors, path⟩ what =
          arguments.contains (.showing what) := by
      rw [Bool.eq_iff_iff, hshows, List.contains_iff_mem]
    rw [ofArguments, settledAs_iff.1 hsettled, ← hflag .tokens, ← hflag .tree, ← hflag .terminals,
      ← hflag .productions]
    rfl
  · rintro ⟨honly, heq⟩
    refine ⟨fun what => ?_, ?_, onlyPath_iff.2 honly⟩
    · rw [heq]
      cases what <;> exact List.contains_iff_mem
    · rw [heq]
      exact settledAs_iff.2 rfl

/-- Where the words can be divided, the arguments have the last word: the options are theirs, if one
of them is a path. -/
theorem Options.parse_of_divides (h : Divides words arguments) :
    parse words =
      match arguments.filterMap Argument.path? with
      | [] => .error .noPath
      | [path] => .ok (ofArguments arguments path)
      | _ => .error .manyPaths := by
  rw [parse, Argument.readAll_eq_ok_iff.2 h]
  rfl

/-- **Options are parsed** just if the words can be divided so that the options say what the
arguments say. -/
theorem Options.parse_eq_ok_iff :
    parse words = .ok options ↔ ∃ arguments, Divides words arguments ∧ options.Reflects arguments := by
  constructor
  · intro h
    cases hread : Argument.readAll words with
    | error failure =>
      rw [parse, hread] at h
      contradiction
    | ok arguments =>
      have hdivides := Argument.readAll_eq_ok_iff.1 hread
      rw [parse_of_divides hdivides] at h
      refine ⟨arguments, hdivides, reflects_iff.2 ?_⟩
      split at h
      · contradiction
      · rename_i path hpaths
        cases h
        exact ⟨hpaths, rfl⟩
      · contradiction
  · rintro ⟨arguments, hdivides, hreflects⟩
    obtain ⟨hpaths, heq⟩ := reflects_iff.1 hreflects
    rw [parse_of_divides hdivides, hpaths]
    exact congrArg Except.ok heq.symm

/-! ## The order of arguments -/

/-- Arguments in another order can be told from their words as well. -/
theorem Divides.perm (h : Divides words arguments) (hperm : reordered.Perm arguments) :
    Divides (reordered.flatMap Argument.words) reordered :=
  ⟨rfl, fun path hmem => h.plain path (hperm.mem_iff.1 hmem)⟩

/-- Options do not depend on the order of the arguments, as long as the settings come in the same
order. -/
theorem Options.ofArguments_perm (hperm : reordered.Perm arguments)
    (hsettings : reordered.filterMap Argument.errors? = arguments.filterMap Argument.errors?)
    (path : String) : ofArguments reordered path = ofArguments arguments path := by
  simp only [ofArguments, hperm.contains_eq, hsettings]

/-- Reordered arguments give the same options, or fail alike. -/
theorem Options.parse_perm (h : Divides words arguments) (hperm : reordered.Perm arguments)
    (hsettings : reordered.filterMap Argument.errors? = arguments.filterMap Argument.errors?) :
    parse (reordered.flatMap Argument.words) = parse words := by
  rw [parse_of_divides h, parse_of_divides (h.perm hperm)]
  have hpaths := hperm.filterMap Argument.path?
  -- Two lists of paths in different orders are as long as one another, and the same up to one path.
  generalize reordered.filterMap Argument.path? = paths' at hpaths
  generalize arguments.filterMap Argument.path? = paths at hpaths
  match paths with
  | [] => rw [hpaths.eq_nil]
  | [path] =>
    rw [List.perm_singleton.1 hpaths]
    exact congrArg Except.ok (ofArguments_perm hperm hsettings path)
  | first :: second :: others =>
    obtain ⟨first', second', others', rfl⟩ : ∃ first' second' others',
        paths' = first' :: second' :: others' := by
      have hlength := hpaths.length_eq
      match paths' with
      | [] => simp at hlength
      | [_] => simp at hlength
      | first' :: second' :: others' => exact ⟨first', second', others', rfl⟩
    rfl

/-- **The options of a command line.** The words give options just if they fall, from left to right,
into flags, settings behind `--errors` and paths without two dashes in front, one of these to be
exact. The options then say which flags there are, what the last setting is, and the path. Arguments
in another order give the same options, if the settings keep their order. -/
theorem parse_by_division (words : List String) :
    (∀ options, Options.parse words = .ok options ↔
      ∃ arguments, Divides words arguments ∧ options.Reflects arguments) ∧
    ((∃ options, Options.parse words = .ok options) ↔
      ∃ arguments path, Divides words arguments ∧ OnlyPath arguments path) ∧
    ∀ arguments reordered, Divides words arguments → reordered.Perm arguments →
      reordered.filterMap Argument.errors? = arguments.filterMap Argument.errors? →
      Divides (reordered.flatMap Argument.words) reordered ∧
        Options.parse (reordered.flatMap Argument.words) = Options.parse words := by
  refine ⟨fun options => Options.parse_eq_ok_iff, ⟨?_, ?_⟩, ?_⟩
  · rintro ⟨options, h⟩
    obtain ⟨arguments, hdivides, hreflects⟩ := Options.parse_eq_ok_iff.1 h
    exact ⟨arguments, options.path, hdivides, hreflects.only⟩
  · rintro ⟨arguments, path, hdivides, honly⟩
    refine ⟨.ofArguments arguments path, ?_⟩
    rw [Options.parse_of_divides hdivides, onlyPath_iff.1 honly]
  · intro arguments reordered hdivides hperm hsettings
    exact ⟨hdivides.perm hperm, Options.parse_perm hdivides hperm hsettings⟩

/-- The first `on` is a path, and the flag in front of it does not change that; the second one is a
setting, which the one behind it overrules. -/
theorem parse_by_division_on :
    Divides ["on", "--ast", "--errors", "on", "--errors", "off"]
        [.path "on", .showing .tree, .errors true, .errors false] ∧
      Options.parse ["--ast", "--errors", "on", "on", "--errors", "off"] =
        .ok ⟨false, true, false, false, false, "on"⟩ := by
  have hdivides : Divides ["on", "--ast", "--errors", "on", "--errors", "off"]
      [.path "on", .showing .tree, .errors true, .errors false] :=
    Argument.readAll_eq_ok_iff.1 (by decide)
  have hperm := (parse_by_division _).2.2 _
    [.showing .tree, .errors true, .path "on", .errors false] hdivides (by decide) (by decide)
  refine ⟨hdivides, hperm.2.trans ?_⟩
  decide

end GrammarLang.CommandLine
