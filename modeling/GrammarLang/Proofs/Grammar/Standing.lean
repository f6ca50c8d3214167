import GrammarLang.Proofs.Grammar.Spells
import GrammarLang.Proofs.Grammar.Steps
import GrammarLang.Proofs.Grammar.Table

/-! # Where a parser stands

A parser stands at a text in some modes: **`Parser.Stands`**. Consuming tokens leads it from one text
to another, and it keeps record of the token sets and adds terminals to its arena on the way:
**`Parser.Consumes`**, which is put together from single steps. -/

namespace GrammarLang.Grammar

open GrammarLang.Scan GrammarLang.Text

/-! ## Arenas -/

namespace Arena

/-- Every set of the arena is what its expression and its flags give. -/
def Proper (arena : Arena) : Prop :=
  ∀ set, .set set ∈ arena.terminals → RegexSet.compile set.source set.flags = .ok set

/-- Another arena has all terminals of the arena at the same places. -/
def Within (arena other : Arena) : Prop := arena.terminals <+: other.terminals

@[refl] theorem Within.refl (arena : Arena) : arena.Within arena := List.prefix_rfl

@[trans] theorem Within.trans {first second third : Arena} (h : first.Within second)
    (h' : second.Within third) : first.Within third := List.IsPrefix.trans h h'

/-- A terminal is found at its place in every arena that has those of the first. -/
theorem Within.get? {arena other : Arena} {id : TerminalId} {terminal : Terminal}
    (h : arena.Within other) (hget : arena.get? id = some terminal) :
    other.get? id = some terminal := by
  obtain ⟨further, hfurther⟩ := h
  have hlt : id.index < arena.terminals.length := (List.getElem?_eq_some_iff.1 hget).1
  rw [Arena.get?, ← hfurther, List.getElem?_append_left hlt]
  exact hget

/-- A new terminal is added behind the others, so that none of them moves. -/
theorem within_intern (arena : Arena) (terminal : Terminal) :
    arena.Within (arena.intern terminal).2 := by
  rw [intern]
  split
  · exact .refl arena
  · exact List.prefix_append _ _

end Arena

/-- Sets with the same expression and flags are the same, where both are what these give. -/
theorem RegexSet.eq_of_compile {set other : RegexSet}
    (h : RegexSet.compile set.source set.flags = .ok set)
    (h' : RegexSet.compile other.source other.flags = .ok other) (hsource : set.source = other.source)
    (hflags : set.flags = other.flags) : set = other := by
  rw [hsource, hflags, h'] at h
  exact (Except.ok.inj h).symm

/-- A set is what its own expression and flags give. -/
theorem RegexSet.compile_self {source flags : String} {set : RegexSet}
    (h : RegexSet.compile source flags = .ok set) : set.source = source ∧ set.flags = flags := by
  simp only [compile, bind, Except.bind] at h
  split at h
  · contradiction
  · split at h
    · cases h
      exact ⟨rfl, rfl⟩
    · contradiction

namespace Arena

/-- A terminal is at the place that it is given. -/
theorem get?_intern {arena : Arena} {terminal : Terminal} (hproper : arena.Proper)
    (hset : ∀ set, terminal = .set set → RegexSet.compile set.source set.flags = .ok set) :
    (arena.intern terminal).2.get? (arena.intern terminal).1 = some terminal := by
  rw [intern]
  split
  · rename_i index hfound
    obtain ⟨hlt, hsame, -⟩ := List.findIdx?_eq_some_iff_getElem.1 hfound
    rw [get?, List.getElem?_eq_getElem hlt]
    congr 1
    have hmem : arena.terminals[index] ∈ arena.terminals := List.getElem_mem hlt
    generalize arena.terminals[index] = stored at hmem hsame
    have hkey : terminal.key = stored.key := by simpa [Terminal.same] using hsame
    -- Names, texts and numbers are their own keys, and sets are made from theirs.
    cases terminal <;> cases stored <;> simp only [Terminal.key, TerminalKey.ident.injEq,
      TerminalKey.string.injEq, TerminalKey.number.injEq, TerminalKey.set.injEq,
      reduceCtorEq] at hkey
    · rw [hkey]
    · rw [hkey]
    · rw [hkey]
    · rw [RegexSet.eq_of_compile (hset _ rfl) (hproper _ hmem) hkey.1 hkey.2]
  · simp [get?, size]

theorem proper_empty : Arena.empty.Proper := by simp [Proper, empty]

/-- An arena stays proper when a proper set is added. -/
theorem Proper.intern {arena : Arena} {terminal : Terminal} (h : arena.Proper)
    (hset : ∀ set, terminal = .set set → RegexSet.compile set.source set.flags = .ok set) :
    (arena.intern terminal).2.Proper := by
  rw [Arena.intern]
  split
  · exact h
  · intro set hmem
    rcases List.mem_append.1 hmem with hmem | hmem
    · exact h set hmem
    · exact hset set (List.mem_singleton.1 hmem).symm

end Arena

/-! ## Standing -/

namespace Parser

/-- The parser stands at the first token set of a text. `entered` are the modes entered, innermost
first, in which the token set was scanned and the next one will be. -/
structure Stands (parser : Parser) (entered : List String) (text : List Char) : Prop where
  /-- The rules are those of the notation. -/
  table : Lexicon.table = .ok parser.scanner.table
  /-- The modes entered. -/
  entered_eq : parser.scanner.entered = entered
  /-- The scanner stands at the text. -/
  at_text : parser.scanner.At (entered.head?.getD defaultMode) text

/-- The parser consumes token sets and comes to stand at another text. -/
structure Consumes (parser : Parser) (text : List Char) (sets : List TokenSet)
    (entered : List String) (after : Parser) (text' : List Char) : Prop where
  /-- The parser stands at the text behind the token sets. -/
  stands : after.Stands entered text'
  /-- That text ends the one before. -/
  suffix : text' <:+ text
  /-- The source is still the same. -/
  source_eq : after.scanner.source = parser.scanner.source
  /-- The token sets are recorded. -/
  recorded : ∀ before,
    parser.scanner.recorded = some (parser.scanner.current.toList ++ before.reverse) →
    after.scanner.recorded = some (after.scanner.current.toList ++ (before ++ sets).reverse)
  /-- The terminals met before keep their places. -/
  within : parser.arena.Within after.arena
  /-- The arena stays proper. -/
  proper : parser.arena.Proper → after.arena.Proper

namespace Consumes

variable {parser middle after : Parser} {entered entered' : List String}
  {text text' text'' : List Char} {sets further : List TokenSet}

/-- Nothing is consumed to stay where one is. -/
theorem refl (h : parser.Stands entered text) : parser.Consumes text [] entered parser text :=
  ⟨h, List.suffix_rfl, rfl, fun before hrecorded => by rwa [List.append_nil], .refl _, id⟩

/-- What is consumed in two parts is consumed as a whole. -/
theorem trans (h : parser.Consumes text sets entered middle text')
    (h' : middle.Consumes text' further entered' after text'') :
    parser.Consumes text (sets ++ further) entered' after text'' := by
  refine ⟨h'.stands, h'.suffix.trans h.suffix, h'.source_eq.trans h.source_eq,
    fun before hrecorded => ?_, h.within.trans h'.within, h'.proper ∘ h.proper⟩
  rw [← List.append_assoc]
  exact h'.recorded _ (h.recorded _ hrecorded)

end Consumes

variable {parser after : Parser} {entered : List String} {text : List Char} {set : TokenSet}

/-- Skipping a token set leaves the terminals alone. -/
theorem Skips.arena_eq (hskips : parser.Skips set after) : after.arena = parser.arena := by
  obtain ⟨-, scanner, -, rfl⟩ := hskips
  rfl

/-- Skipping a token set leads to the text behind it, in the mode the scanner is in. -/
theorem Skips.consumes {mode : String} (hskips : parser.Skips set after)
    (htable : Lexicon.table = .ok parser.scanner.table) (hat : parser.scanner.At mode text) :
    parser.Consumes text [set] parser.scanner.entered after parser.scanner.place.rest ∧
      after.arena = parser.arena ∧
      after.scanner.previousEnd = parser.scanner.place.offset := by
  obtain ⟨hcurrent, scanner, hnext, rfl⟩ := hskips
  obtain ⟨hat', htable', hsource, hentered, hprevious, hrecorded⟩ :=
    hat.next (Lexicon.anchored_mode htable _) hcurrent hnext
  refine ⟨⟨⟨htable'.symm ▸ htable, hentered, hat'⟩, ?_, hsource, fun before hbefore => ?_,
    .refl _, id⟩, rfl, hprevious⟩
  · have hfirst := hat.first
    generalize hspot : parser.scanner.spot = spot at hfirst
    rw [hcurrent] at hfirst
    cases hfirst with
    | lexeme passed lexeme read =>
      rw [show parser.scanner.place.rest = _ from (Prod.mk.inj hspot).2, ← List.append_assoc]
      exact List.suffix_append _ _
  · rw [hcurrent] at hbefore
    show scanner.recorded = _
    rw [hrecorded, hbefore]
    simp [withScanner]

/-- The last consumed token ends where the token set skipped ends. -/
theorem Skips.previousEnd_eq (hskips : parser.Skips set after)
    (htable : Lexicon.table = .ok parser.scanner.table) :
    after.scanner.previousEnd = set.first.span.stop := by
  obtain ⟨hcurrent, scanner, hnext, rfl⟩ := hskips
  rw [Scanner.next_eq] at hnext
  have hanchored : Anchored parser.scanner.behindCurrent.rules :=
    Lexicon.anchored_mode htable _
  obtain ⟨-, -, -, -, hprevious, -⟩ := Scanner.advance_first hanchored hnext
  exact hprevious.trans (by simp [Scanner.behindCurrent, hcurrent])

/-- Skipping a token set leads to the text behind it. -/
theorem Stands.skip (h : parser.Stands entered text) (hskips : parser.Skips set after) :
    parser.Consumes text [set] entered after parser.scanner.place.rest := by
  obtain ⟨hconsumes, -⟩ := hskips.consumes h.table h.at_text
  rwa [h.entered_eq] at hconsumes

/-- The parser in other modes. -/
def switched (parser : Parser) (entered : List String) (told : List Entry) : Parser :=
  parser.withScanner { parser.scanner with entered, told }

/-- Entering a mode changes nothing but the modes. -/
theorem enter_eq (parser : Parser) (mode : String) :
    ∃ told, parser.enter mode = parser.switched (mode :: parser.scanner.entered) told := by
  simp only [enter, Scanner.pushMode]
  split
  all_goals exact ⟨_, rfl⟩

/-- Leaving a mode changes nothing but the modes. -/
theorem leave_eq {mode : String} {outer : List String}
    (h : parser.scanner.entered = mode :: outer) :
    ∃ told, parser.leave = parser.switched outer told := by
  simp only [leave, Scanner.popMode, h]
  exact ⟨_, rfl⟩

/-- Where the modes are switched, the token set is still skipped, and the text behind it is read in
the new modes. -/
theorem Stands.skip_switched {entered' : List String} {told : List Entry}
    (h : parser.Stands entered text) (hskips : (parser.switched entered' told).Skips set after) :
    parser.Consumes text [set] entered' after parser.scanner.place.rest := by
  have hat : (parser.switched entered' told).scanner.At (entered.head?.getD defaultMode) text :=
    ⟨h.at_text.first, h.at_text.suffix, h.at_text.offset_eq⟩
  obtain ⟨hconsumes, -⟩ := hskips.consumes h.table hat
  exact ⟨hconsumes.stands, hconsumes.suffix, hconsumes.source_eq, hconsumes.recorded,
    hconsumes.within, hconsumes.proper⟩

/-- Skipping a token set where a mode is entered leads into the mode. -/
theorem Stands.skip_enter {mode : String} (h : parser.Stands entered text)
    (hskips : (parser.enter mode).Skips set after) :
    parser.Consumes text [set] (mode :: entered) after parser.scanner.place.rest := by
  obtain ⟨told, henter⟩ := parser.enter_eq mode
  rw [henter, h.entered_eq] at hskips
  exact h.skip_switched hskips

/-- Skipping a token set where a mode is left leads out of the mode. -/
theorem Stands.skip_leave {mode : String} (h : parser.Stands (mode :: entered) text)
    (hskips : parser.leave.Skips set after) :
    parser.Consumes text [set] entered after parser.scanner.place.rest := by
  obtain ⟨told, hleave⟩ := leave_eq h.entered_eq
  rw [hleave] at hskips
  exact h.skip_switched hskips

/-! ## What is seen -/

/-- The parser sees the rules of the tokens in the current set. -/
theorem sees_iff {rule : String} (hcurrent : parser.scanner.current = some set) :
    parser.sees rule = true ↔ Is set rule := by
  simp only [sees, Scanner.matchesRule, Scanner.matching?, hcurrent, Option.bind_some,
    TokenSet.find?, List.find?_isSome, decide_eq_true_eq, Is]
  exact ⟨fun ⟨token, hmem, hrule⟩ => ⟨token, hmem, hrule⟩,
    fun ⟨token, hmem, hrule⟩ => ⟨token, hmem, hrule⟩⟩

theorem seesAny_iff {rules : List String} (hcurrent : parser.scanner.current = some set) :
    parser.seesAny rules = true ↔ IsOneOf set rules := by
  simp only [seesAny, Scanner.matchesAny, List.any_eq_true]
  exact exists_congr fun rule => and_congr_right fun _ => sees_iff hcurrent

/-- What is taken is offered by the token set that is skipped. -/
theorem Takes.offers {rule : String} {token : Token} (h : parser.Takes [rule] token after) :
    ∃ set, parser.Skips set after ∧ Offers set rule token := by
  obtain ⟨set, hskips, hmem, hrule⟩ := h.skips
  exact ⟨set, hskips, hmem, List.mem_singleton.1 hrule⟩

theorem Takes.isOneOf {rules : List String} {token : Token} (h : parser.Takes rules token after) :
    ∃ set, parser.Skips set after ∧ IsOneOf set rules ∧ Offers set token.rule token := by
  obtain ⟨set, hskips, hmem, hrule⟩ := h.skips
  exact ⟨set, hskips, ⟨token.rule, hrule, token, hmem, rfl⟩, hmem, rfl⟩

/-- The value of a token where a parser stands is decoded as its rule says. -/
theorem Stands.value_eq {token : Token} (h : parser.Stands entered text)
    (hcurrent : parser.scanner.current = some set) (hmem : token ∈ set.toList) :
    match Lexicon.decoderOf token.rule with
    | some decoder => decoder token.text = .ok token.value
    | none => token.value = .text token.text := by
  have hfirst := h.at_text.first
  generalize hspot : parser.scanner.spot = spot at hfirst
  rw [hcurrent] at hfirst
  cases hfirst with
  | lexeme passed lexeme read =>
    obtain ⟨rule, hrule, value, hvalue, rfl⟩ := Reads.of_mem read hmem
    have hmode := (List.mem_filter.1 hrule).1
    rw [Rule.evaluate, Lexicon.decoder_eq h.table (List.mem_filter.1 hmode).1] at hvalue
    simp only
    split
    · rename_i decoder hdecoder
      simpa only [hdecoder] using hvalue
    · rename_i hdecoder
      simp only [hdecoder, Except.ok.injEq] at hvalue
      exact hvalue.symm

/-- A token with a number stands for it. -/
theorem Stands.numberOf_eq {token : Token} (h : parser.Stands entered text)
    (hcurrent : parser.scanner.current = some set) (hoffers : Offers set Lexicon.number token) :
    token.value = .integer (numberOf token) := by
  have hvalue := h.value_eq hcurrent hoffers.mem
  rw [hoffers.rule_eq] at hvalue
  simp only [Lexicon.decoderOf, if_true, numberValue] at hvalue
  split at hvalue
  · rw [numberOf, ← Except.ok.inj hvalue]
    rfl
  · contradiction

/-- A token with a string literal stands for a text. -/
theorem Stands.textOf_eq {token : Token} (h : parser.Stands entered text)
    (hcurrent : parser.scanner.current = some set) (hoffers : Offers set Lexicon.string token) :
    token.value = .text (textOf token) := by
  have hvalue := h.value_eq hcurrent hoffers.mem
  rw [hoffers.rule_eq] at hvalue
  have hne : ¬ Lexicon.string = Lexicon.number := by decide
  simp only [Lexicon.decoderOf, if_neg hne, if_true, stringValue] at hvalue
  split at hvalue
  · rw [textOf, ← Except.ok.inj hvalue]
    rfl
  · contradiction

/-- Where a parser starts, its current token starts. -/
theorem start_eq (hcurrent : parser.scanner.current = some set) :
    parser.start = set.first.span.start := by
  simp only [start, Scanner.currentOffset, hcurrent]

/-- A set of texts that is read is the one that its expression and flags are compiled to. -/
theorem compile_of_gives {regexSet : RegexSet} (hgives : (regexLiteral parser).Gives regexSet after) :
    RegexSet.compile regexSet.source regexSet.flags = .ok regexSet := by
  obtain ⟨_, _, _, _, _, _, _, _, _, _, _, _, _, hcompiled⟩ := regexLiteral_gives.1 hgives
  obtain ⟨hsource, hflags⟩ := RegexSet.compile_self hcompiled
  rwa [hsource, hflags]

/-! ## Text without gaps -/

/-- Rules that do not ignore text pass over none. -/
theorem gap_eq_nil {rules : List Rule} {rest gap : List Char}
    (hkept : ∀ rule ∈ rules, rule.ignored = false) (h : Passed rules rest gap) : gap = [] := by
  cases h with
  | nil => rfl
  | cons longest ignored =>
    obtain ⟨rule, hrule⟩ := List.exists_mem_of_ne_nil _ longest.tied_ne_nil
    have := hkept rule (List.mem_filter.1 hrule).1
    rw [ignored rule hrule] at this
    contradiction

/-- Inside a mode of its own, the token set stands right where the text starts. -/
theorem Stands.ungapped {mode : String} (h : parser.Stands (mode :: entered) text)
    (hmode : mode ≠ defaultMode) (hcurrent : parser.scanner.current = some set) :
    text = set.first.text.toList ++ parser.scanner.place.rest ∧
      set.first.span.start = parser.scanner.previousEnd := by
  have hfirst := h.at_text.first
  generalize hspot : parser.scanner.spot = spot at hfirst
  rw [hcurrent] at hfirst
  cases hfirst with
  | @lexeme _ gap front rest _ passed lexeme read =>
    obtain rfl := gap_eq_nil (fun rule hrule => Lexicon.ignored_eq_false h.table hmode hrule) passed
    obtain ⟨token, tokens⟩ := set
    rw [TokenSet.toList_mk, List.forall₂_cons_right_iff] at read
    obtain ⟨rule, rules', ⟨value, -, rfl⟩, -⟩ := read
    have hrest : parser.scanner.place.rest = rest := (Prod.mk.inj hspot).2
    rw [hrest]
    simp

/-- The text between two places is what is read between them. -/
theorem slice_between {source : Source} {start stop : Nat} {text middle behind : List Char}
    (hsuffix : text <:+ source.chars) (htext : text = middle ++ behind)
    (hstart : start + byteSize text = source.size) (hstop : stop + byteSize behind = source.size) :
    source.slice? ⟨start, stop⟩ = some (String.ofList middle) := by
  obtain ⟨before, hbefore⟩ := hsuffix
  have hsize := source.size_eq
  rw [← hbefore, htext, byteSize_append, byteSize_append] at hsize
  rw [htext, byteSize_append] at hstart
  have hbeforeSize : start = byteSize before := by omega
  have hmiddleSize : stop = byteSize before + byteSize middle := by omega
  rw [Source.slice?, ← hbefore, htext, hbeforeSize, hmiddleSize, slice?_append]
  rfl

end Parser

/-! ## Parsing without compiling -/

theorem result_parse_words (source : Source) : (parse source).result =
    (runWith (.ok Lexicon.words) source id).1.map Prod.fst := by
  rw [result_parse, run_eq, Lexicon.table_eq_words]

theorem result_parseWithTokens_words (source : Source) : (parseWithTokens source).result =
    (runWith (.ok Lexicon.words) source Scanner.record).1.map fun (grammar, scanner) =>
      (grammar, scanner.takeRecorded.1) := by
  rw [result_parseWithTokens, run_eq, Lexicon.table_eq_words]

end GrammarLang.Grammar
