import GrammarLang.Proofs.Grammar.CodeSpelt
import GrammarLang.Proofs.Grammar.Gaps
import GrammarLang.Proofs.Grammar.Twin
import Mathlib.Data.List.Chain
import Mathlib.Data.List.TakeWhile

/-! # Token sets with their modes

A token set is scanned with the rules of some mode; with that mode it is a **`Marked`** set. That a
text is cut into marked sets, each of them the first that the rules of its mode find behind the one
before, is **`Scanned`**; the sets then stand in order, with gaps between them (**`OnlyGaps`**) that
hold blanks and whole comments, and no gap in front of a set of a mode of its own (**`Unbroken`**).

**`Parser.Marks`** says so of what a parser consumes. The inside of code and of regular expressions is
consumed in one mode from its start to its end (**`Parser.SkipsAll.marks`**). -/

namespace GrammarLang.Scan

open GrammarLang.Text

/-- A token set with the mode whose rules it was scanned with. -/
structure Marked where
  /-- The mode. -/
  mode : String
  /-- The token set. -/
  set : TokenSet

/-- Where a marked token set stands. -/
def Marked.span (marked : Marked) : Span := marked.set.first.span

/-- Between two places the text is cut into marked token sets: each is the first one that the rules
of its mode find behind the one before. -/
inductive Scanned (table : RuleTable) :
    Nat × List Char → List Marked → Nat × List Char → Prop
  /-- Nothing is scanned. -/
  | nil {here : Nat × List Char} : Scanned table here [] here
  /-- A token set, and those behind it. -/
  | cons {here middle stop : Nat × List Char} {first : Marked} {others : List Marked}
      (found : First (table.rulesInMode first.mode) here (some first.set) middle)
      (further : Scanned table middle others stop) : Scanned table here (first :: others) stop

theorem Scanned.trans {table : RuleTable} {here middle stop : Nat × List Char}
    {marked further : List Marked} (h : Scanned table here marked middle)
    (h' : Scanned table middle further stop) : Scanned table here (marked ++ further) stop := by
  induction h with
  | nil => exact h'
  | cons found _ ih => exact .cons found (ih h')

/-- Token sets that are all scanned in one mode are cut off by the rules of this mode. -/
theorem Scanned.munch {table : RuleTable} {mode : String} {sets : List TokenSet}
    {here stop : Nat × List Char} (h : Scanned table here (sets.map (Marked.mk mode)) stop) :
    Munch (table.rulesInMode mode) here sets stop := by
  generalize hmarked : sets.map (Marked.mk mode) = marked at h
  induction h generalizing sets with
  | nil =>
    rw [List.map_eq_nil_iff] at hmarked
    subst hmarked
    exact .last .nil
  | cons found _ ih =>
    cases sets with
    | nil => contradiction
    | cons set sets =>
      obtain ⟨rfl, hothers⟩ := List.cons.inj hmarked
      exact found.munch.append (ih hothers)

/-- The first token set of a text is a stretch of it behind a gap; all its tokens are that stretch. -/
theorem First.cut {rules : List Rule} {here stop : Nat × List Char} {set : TokenSet}
    (h : First rules here (some set) stop) :
    ∃ gap front, here.2 = gap ++ (front ++ stop.2) ∧ Passed rules (front ++ stop.2) gap ∧
      IsLexeme rules front stop.2 ∧ stop.1 = here.1 + byteSize gap + byteSize front ∧
      set.first.span = ⟨here.1 + byteSize gap, stop.1⟩ ∧
      ∀ token ∈ set.toList, token.span = set.first.span ∧ token.text = String.ofList front := by
  cases h with
  | @lexeme offset gap front rest _ passed lexeme read =>
    have htoken (token) (hmem : token ∈ set.toList) :
        token.span = ⟨offset + byteSize gap, offset + byteSize gap + byteSize front⟩ ∧
          token.text = String.ofList front := by
      obtain ⟨rule, -, value, -, rfl⟩ := Reads.of_mem read hmem
      exact ⟨rfl, rfl⟩
    have hfirst := htoken set.first (List.mem_cons_self ..)
    exact ⟨gap, front, rfl, passed, lexeme, rfl, hfirst.1, fun token hmem =>
      ⟨(htoken token hmem).1.trans hfirst.1.symm, (htoken token hmem).2⟩⟩

/-- Token sets stand between the places that they are scanned between. -/
theorem Scanned.between {table : RuleTable} {here stop : Nat × List Char} {marked : List Marked}
    (h : Scanned table here marked stop) :
    here.1 ≤ stop.1 ∧ ∀ first ∈ marked, here.1 ≤ first.span.start ∧ first.span.stop ≤ stop.1 := by
  induction h with
  | nil => simp
  | @cons here middle stop first others found further ih =>
    obtain ⟨gap, front, -, -, -, hmiddle, hspan, -⟩ := found.cut
    obtain ⟨hle, hothers⟩ := ih
    have hfirst : first.span = ⟨here.1 + byteSize gap, middle.1⟩ := hspan
    refine ⟨by omega, List.forall_mem_cons.2 ⟨?_, fun other hother => ?_⟩⟩
    · rw [hfirst]
      exact ⟨Nat.le_add_right .., hle⟩
    · obtain ⟨hstart, hstop⟩ := hothers other hother
      exact ⟨by omega, hstop⟩

/-- None of some token sets is empty, and each ends before the next one starts. -/
structure Ordered (marked : List Marked) : Prop where
  /-- None is empty. -/
  nonempty : ∀ first ∈ marked, first.span.start < first.span.stop
  /-- They are disjoint and in order. -/
  disjoint : marked.Pairwise fun left right => left.span.stop ≤ right.span.start

theorem Ordered.append {marked further : List Marked} (h : Ordered (marked ++ further)) :
    Ordered marked ∧ Ordered further ∧
      ∀ left ∈ marked, ∀ right ∈ further, left.span.stop ≤ right.span.start := by
  obtain ⟨hmarked, hfurther, hbetween⟩ := List.pairwise_append.1 h.disjoint
  obtain ⟨hnonempty, hnonempty'⟩ := List.forall_mem_append.1 h.nonempty
  exact ⟨⟨hnonempty, hmarked⟩, ⟨hnonempty', hfurther⟩, hbetween⟩

/-- Token sets that are scanned one behind the other are in order. -/
theorem Scanned.ordered {table : RuleTable} {here stop : Nat × List Char} {marked : List Marked}
    (h : Scanned table here marked stop) : Ordered marked := by
  induction h with
  | nil => exact ⟨by simp, .nil⟩
  | @cons here middle stop first others found further ih =>
    obtain ⟨gap, front, -, -, hlexeme, hmiddle, hspan, -⟩ := found.cut
    have hfirst : first.span = ⟨here.1 + byteSize gap, middle.1⟩ := hspan
    have hfront := byteSize_pos hlexeme.front_ne_nil
    refine ⟨List.forall_mem_cons.2 ⟨?_, ih.nonempty⟩,
      List.pairwise_cons.2 ⟨fun other hother => ?_, ih.disjoint⟩⟩
    · rw [hfirst]
      simp only
      omega
    · rw [hfirst]
      exact (further.between.2 other hother).1

/-- The last token set ends where the rest of the text starts. -/
theorem Scanned.stop_eq {table : RuleTable} {here stop : Nat × List Char} {marked : List Marked}
    (h : Scanned table here marked stop) {last : Marked} (hlast : marked.getLast? = some last) :
    stop.1 = last.span.stop := by
  induction h with
  | nil => contradiction
  | @cons here middle stop first others found further ih =>
    cases further with
    | nil =>
      obtain rfl : first = last := by simpa using hlast
      obtain ⟨gap, front, -, -, -, -, hspan, -⟩ := found.cut
      exact (congrArg Span.stop hspan).symm
    | cons => exact ih (by rwa [List.getLast?_cons_cons] at hlast)

/-- All tokens of a token set stand in the same place. -/
theorem Scanned.together {table : RuleTable} {here stop : Nat × List Char} {marked : List Marked}
    (h : Scanned table here marked stop) {first : Marked} (hfirst : first ∈ marked) {token : Token}
    (htoken : token ∈ first.set.toList) : token.span = first.span := by
  induction h with
  | nil => contradiction
  | cons found _ ih =>
    rcases List.mem_cons.1 hfirst with rfl | hfirst
    · obtain ⟨gap, front, -, -, -, -, -, htokens⟩ := found.cut
      exact (htokens token htoken).1
    · exact ih hfirst

end GrammarLang.Scan

namespace GrammarLang.Grammar

open GrammarLang.Scan GrammarLang.Text

/-! ## Gaps -/

/-- Blanks and whole comments, in front of the text `rest`. -/
inductive Gap (rest : List Char) : List Char → Prop
  /-- Nothing. -/
  | nil : Gap rest []
  /-- A blank. -/
  | blank {c : Char} {cs : List Char} (blank : isBlank c = true) (others : Gap rest cs) :
      Gap rest (c :: cs)
  /-- A comment up to the end of its line. -/
  | lineComment {comment cs : List Char} (line : '\n' ∉ comment)
      (ends : ∀ c ∈ (cs ++ rest).head?, c = '\n') (others : Gap rest cs) :
      Gap rest ('/' :: '/' :: (comment ++ cs))
  /-- A comment up to the sign that ends it. -/
  | blockComment {comment cs : List Char}
      (ends : commentEnd? (comment ++ (cs ++ rest)) = some (cs ++ rest)) (others : Gap rest cs) :
      Gap rest ('/' :: '*' :: (comment ++ cs))

/-- Many blanks. -/
theorem Gap.blanks {rest blanks cs : List Char} (hblanks : ∀ c ∈ blanks, isBlank c = true)
    (h : Gap rest cs) : Gap rest (blanks ++ cs) := by
  induction blanks with
  | nil => exact h
  | cons c blanks ih =>
    obtain ⟨hblank, hblanks⟩ := List.forall_mem_cons.1 hblanks
    exact .blank hblank (ih hblanks)

/-- What stands in front of the first word of a text is a gap. -/
theorem exists_gap (text : List Char) :
    ∃ gap, text = gap ++ behindGap text ∧ Gap (behindGap text) gap := by
  fun_induction behindGap text with
  | case1 => exact ⟨[], rfl, .nil⟩
  | case2 cs ih =>
    obtain ⟨gap, hgap, h⟩ := ih
    refine ⟨'/' :: '/' :: (cs.takeWhile (· ≠ '\n') ++ gap), ?_, .lineComment ?_ ?_ h⟩
    · rw [List.cons_append, List.cons_append, List.append_assoc, ← hgap,
        List.takeWhile_append_dropWhile]
    · intro hmem
      simpa using List.mem_takeWhile_imp hmem
    · rw [← hgap]
      intro c hc
      have hhead := List.head?_dropWhile_not (· ≠ '\n') cs
      rw [hc] at hhead
      simpa using hhead
  | case3 cs rest hend ih =>
    obtain ⟨comment, rfl⟩ := commentEnd?_suffix hend
    obtain ⟨gap, hgap, h⟩ := ih
    refine ⟨'/' :: '*' :: (comment ++ gap), ?_, .blockComment ?_ h⟩
    · simp [← hgap]
    · rw [← hgap, hend]
  | case4 => exact ⟨[], rfl, .nil⟩
  | case5 c cs hline hblock hblank ih =>
    obtain ⟨gap, hgap, h⟩ := ih
    refine ⟨c :: (cs.takeWhile isBlank ++ gap), ?_, .blank hblank (.blanks ?_ h)⟩
    · rw [List.cons_append, List.append_assoc, ← hgap, List.takeWhile_append_dropWhile]
    · exact fun _ hmem => List.mem_takeWhile_imp hmem
  | case6 => exact ⟨[], rfl, .nil⟩

/-- What the scanner passes over in front of a token set is a gap. -/
theorem gap_of_passed {table : RuleTable} (htable : Lexicon.table = .ok table) {mode : String}
    {rest gap : List Char} (hpassed : Passed (table.rulesInMode mode) rest gap)
    (hrest : Unpassable (table.rulesInMode mode) rest) :
    Gap rest gap ∧ (mode ≠ defaultMode → gap = []) := by
  have hnone (hmode : mode ≠ defaultMode) : gap = [] :=
    Parser.gap_eq_nil (fun rule hrule => Lexicon.ignored_eq_false htable hmode hrule) hpassed
  refine ⟨?_, hnone⟩
  by_cases hmode : mode = defaultMode
  · subst hmode
    have hbehind := behindGap_eq htable hpassed hrest
    obtain ⟨gap', hgap', h⟩ := exists_gap (gap ++ rest)
    rw [hbehind] at hgap' h
    rwa [List.append_cancel_right hgap']
  · rw [hnone hmode]
    exact .nil

/-- Between two offsets of a text there is a gap. -/
def IsGap (source : Source) (start stop : Nat) : Prop :=
  ∃ before gap rest, source.chars = before ++ (gap ++ rest) ∧ byteSize before = start ∧
    byteSize before + byteSize gap = stop ∧ Gap rest gap

/-- From an offset to the first of some token sets, from each of them to the next one, and from the
last of them to the end of the text, there are gaps. -/
def OnlyGaps (source : Source) : Nat → List Marked → Prop
  | offset, [] => IsGap source offset source.size
  | offset, first :: others =>
    IsGap source offset first.span.start ∧ OnlyGaps source first.span.stop others

/-- Where a text is cut into token sets, there are gaps between them. -/
theorem onlyGaps_of_scanned {table : RuleTable} (htable : Lexicon.table = .ok table)
    {source : Source} {before : List Char} {here stop : Nat × List Char} {marked : List Marked}
    (h : Scanned table here marked stop) (hlast : Gap [] stop.2)
    (hsource : source.chars = before ++ here.2) (hhere : here.1 = byteSize before) :
    OnlyGaps source here.1 marked := by
  induction h generalizing before with
  | @nil here =>
    refine ⟨before, here.2, [], by simpa using hsource, hhere.symm, ?_, hlast⟩
    rw [source.size_eq, hsource, byteSize_append]
  | @cons here middle stop first others found further ih =>
    obtain ⟨gap, front, htext, hpassed, hlexeme, hmiddle, hspan, -⟩ := found.cut
    have hfirst : first.span = ⟨here.1 + byteSize gap, middle.1⟩ := hspan
    obtain ⟨hgap, -⟩ := gap_of_passed htable hpassed hlexeme.unpassable
    refine ⟨⟨before, gap, front ++ middle.2, by rw [hsource, htext], hhere.symm, ?_, hgap⟩, ?_⟩
    · rw [hfirst, hhere]
    · have hbefore : source.chars = before ++ (gap ++ front) ++ middle.2 := by simp [hsource, htext]
      have hsize : middle.1 = byteSize (before ++ (gap ++ front)) := by
        simp [hmiddle, hhere, Nat.add_assoc]
      rw [hfirst]
      exact ih hlast hbefore hsize

/-- Of neighbours each starts where the one before stops or later, and just there in a mode of its
own. -/
theorem unbroken_of_scanned {table : RuleTable} (htable : Lexicon.table = .ok table)
    {here stop : Nat × List Char} {marked : List Marked} (h : Scanned table here marked stop) :
    (∀ first ∈ marked.head?, first.mode ≠ defaultMode → here.1 = first.span.start) ∧
    marked.IsChain fun left right => left.span.stop ≤ right.span.start ∧
      (right.mode ≠ defaultMode → left.span.stop = right.span.start) := by
  induction h with
  | nil => simp
  | @cons here middle stop first others found further ih =>
    obtain ⟨gap, front, -, hpassed, hlexeme, -, hspan, -⟩ := found.cut
    have hfirst : first.span = ⟨here.1 + byteSize gap, middle.1⟩ := hspan
    refine ⟨?_, List.isChain_cons.2 ⟨fun other hother => ?_, ih.2⟩⟩
    · intro other hother hmode
      obtain rfl : first = other := by simpa using hother
      rw [hfirst, (gap_of_passed htable hpassed hlexeme.unpassable).2 hmode, byteSize_nil,
        Nat.add_zero]
    · rw [hfirst]
      exact ⟨(further.between.2 other (List.mem_of_mem_head? hother)).1, ih.1 other hother⟩

/-! ## What a parser consumes -/

namespace Parser

variable {parser middle after : Parser} {entered entered' : List String}
  {text text' text'' : List Char} {set : TokenSet} {sets : List TokenSet}
  {marked further : List Marked}

/-- The first token of a text starts behind the gap. -/
theorem Stands.start_add_size (h : parser.Stands [] text)
    (hcurrent : parser.scanner.current = some set) :
    parser.start + byteSize (behindGap text) = parser.scanner.source.size := by
  have hoffset := h.at_text.offset_eq
  have hfirst : First (parser.scanner.table.rulesInMode defaultMode) _ _ _ := h.at_text.first
  rw [hcurrent] at hfirst
  obtain ⟨gap, front, htext, hpassed, hlexeme, -, hspan, -⟩ := hfirst.cut
  simp only at htext hspan
  have hgap := behindGap_eq h.table hpassed hlexeme.unpassable
  rw [← htext] at hgap
  rw [hgap, start_eq hcurrent, hspan]
  rw [htext, byteSize_append] at hoffset
  simp only
  omega

/-- A parser consumes marked token sets of a text. -/
structure Marks (parser : Parser) (text : List Char) (marked : List Marked) (entered : List String)
    (after : Parser) (text' : List Char) : Prop where
  /-- The token sets are consumed. -/
  consumes : parser.Consumes text (marked.map Marked.set) entered after text'
  /-- Each was scanned in its mode. -/
  scanned : ∀ table, Lexicon.table = .ok table →
    Scanned table (parser.scanner.previousEnd, text) marked (after.scanner.previousEnd, text')

namespace Marks

/-- A parser that does nothing consumes nothing. -/
theorem refl (h : parser.Stands entered text) : parser.Marks text [] entered parser text :=
  ⟨.refl h, fun _ _ => .nil⟩

/-- Consuming once more. -/
theorem trans (h : parser.Marks text marked entered middle text')
    (h' : middle.Marks text' further entered' after text'') :
    parser.Marks text (marked ++ further) entered' after text'' :=
  ⟨List.map_append ▸ h.consumes.trans h'.consumes,
    fun table htable => (h.scanned table htable).trans (h'.scanned table htable)⟩

end Marks

/-- Where the modes are switched, the token set that is skipped was still scanned in the mode before. -/
theorem Stands.marks_switched {told : List Entry} (h : parser.Stands entered text)
    (hskips : (parser.switched entered' told).Skips set after) :
    parser.Marks text [⟨entered.head?.getD defaultMode, set⟩] entered' after
      parser.scanner.place.rest := by
  refine ⟨h.skip_switched hskips, fun table htable => .cons ?_ .nil⟩
  have hat : (parser.switched entered' told).scanner.At (entered.head?.getD defaultMode) text :=
    ⟨h.at_text.first, h.at_text.suffix, h.at_text.offset_eq⟩
  obtain ⟨-, -, hprevious⟩ := hskips.consumes h.table hat
  have hfirst := h.at_text.first
  have hcurrent : parser.scanner.current = some set := hskips.1
  rw [hcurrent] at hfirst
  rw [hprevious]
  obtain rfl : table = parser.scanner.table := Except.ok.inj (htable.symm.trans h.table)
  exact hfirst

theorem Stands.marks_skip (h : parser.Stands entered text) (hskips : parser.Skips set after) :
    parser.Marks text [⟨entered.head?.getD defaultMode, set⟩] entered after
      parser.scanner.place.rest := by
  have hsame : (parser.switched entered parser.scanner.told).Skips set after := by
    rwa [switched, ← h.entered_eq]
  exact h.marks_switched hsame

/-- The opening of a mode was scanned outside the mode. -/
theorem Stands.marks_enter {mode : String} (h : parser.Stands entered text)
    (hskips : (parser.enter mode).Skips set after) :
    parser.Marks text [⟨entered.head?.getD defaultMode, set⟩] (mode :: entered) after
      parser.scanner.place.rest := by
  obtain ⟨told, henter⟩ := parser.enter_eq mode
  rw [henter, h.entered_eq] at hskips
  exact h.marks_switched hskips

/-- The closing of a mode was scanned in the mode. -/
theorem Stands.marks_leave {mode : String} (h : parser.Stands (mode :: entered) text)
    (hskips : parser.leave.Skips set after) :
    parser.Marks text [⟨mode, set⟩] entered after parser.scanner.place.rest := by
  obtain ⟨told, hleave⟩ := leave_eq h.entered_eq
  rw [hleave] at hskips
  exact h.marks_switched hskips

/-! ## In one mode -/

/-- Token sets are skipped, one after another. -/
inductive SkipsAll (parser : Parser) : List TokenSet → Parser → Prop
  /-- Nothing is skipped. -/
  | nil : parser.SkipsAll [] parser
  /-- One more token set is skipped. -/
  | snoc {sets : List TokenSet} {set : TokenSet} {middle after : Parser}
      (earlier : parser.SkipsAll sets middle) (last : middle.Skips set after) :
      parser.SkipsAll (sets ++ [set]) after

/-- In a mode of its own, a parser that skips token sets consumes them as sets of this mode, and there
are no gaps between them. -/
theorem SkipsAll.marks {mode : String} (h : parser.SkipsAll sets after)
    (hstands : parser.Stands (mode :: entered) text) (hmode : mode ≠ defaultMode) :
    ∃ text', parser.Gathers text sets mode entered after text' ∧
      parser.Marks text (sets.map (Marked.mk mode)) (mode :: entered) after text' := by
  induction h with
  | nil => exact ⟨text, .refl hstands, .refl hstands⟩
  | @snoc sets set middle after earlier last ih =>
    obtain ⟨text', hgathers, hmarks⟩ := ih
    refine ⟨_, hgathers.trans (.skip hgathers.consumes.stands hmode last), ?_⟩
    rw [List.map_append]
    exact hmarks.trans (hgathers.consumes.stands.marks_skip last)

/-- In a mode of its own, a parser that skips token sets cuts them off the text by the rules of this
mode. -/
theorem SkipsAll.munch {mode : String} (h : parser.SkipsAll sets after)
    (hstands : parser.Stands (mode :: entered) text) (hmode : mode ≠ defaultMode) :
    ∃ text', parser.Gathers text sets mode entered after text' ∧
      Munch (parser.scanner.table.rulesInMode mode) (parser.scanner.previousEnd, text) sets
        (after.scanner.previousEnd, text') := by
  obtain ⟨text', hgathers, hmarks⟩ := h.marks hstands hmode
  exact ⟨text', hgathers, (hmarks.scanned _ hstands.table).munch⟩

/-- Skipping some token sets and then others is skipping all of them. -/
theorem SkipsAll.trans {further : List TokenSet} (h : parser.SkipsAll sets middle)
    (h' : middle.SkipsAll further after) : parser.SkipsAll (sets ++ further) after := by
  induction h' with
  | nil => rwa [List.append_nil]
  | snoc _ last ih =>
    rw [← List.append_assoc]
    exact .snoc ih last

theorem SkipsAll.single (hskips : parser.Skips set after) : parser.SkipsAll [set] after :=
  .snoc .nil hskips

theorem SkipsAll.cons (hskips : parser.Skips set middle) (h : middle.SkipsAll sets after) :
    parser.SkipsAll (set :: sets) after := (SkipsAll.single hskips).trans h

/-- A parser is its own twin while it skips token sets from a start on. -/
def skipping (start : Parser) : Twinning where
  beside parser twin := twin = parser ∧ ∃ sets, start.SkipsAll sets parser
  horizon := 0
  lenient := True
  failures _ _ := True
  tokens token token' := token' = token
  spans _ _ := True
  terminals _ _ _ _ := True
  lenient_of_horizon _ := trivial

theorem lawful_skipping (start : Parser) : (skipping start).Lawful where
  current := by
    rintro _ parser ⟨rfl, -⟩
    exact List.forall₂_same.2 fun _ _ => rfl
  same := by
    rintro token _ rfl
    exact ⟨rfl, rfl, rfl⟩
  single _ _ := .inl trivial
  next := by
    rintro _ parser ⟨rfl, sets, hsets⟩ hcurrent
    split
    · rename_i scanner hnext
      refine .inr ⟨scanner, hnext, rfl, ?_⟩
      cases hset : parser.scanner.current with
      | none => simp [Scanner.currentTokens, hset] at hcurrent
      | some set => exact ⟨sets ++ [set], hsets.snoc ⟨hset, scanner, hnext, rfl⟩⟩
    · exact .inl trivial
  unexpected _ _ := .inl trivial

/-- What is beside its twin at the end of a run has been reached by skipping. -/
theorem skipsAll_of_twins {least : Nat} {reply : Reply Unit least parser}
    (h : reply.Twins (skipping parser) anyValues reply) (hgives : reply.Gives () after) :
    ∃ sets, parser.SkipsAll sets after := by
  obtain ⟨used, rfl⟩ := hgives
  obtain hless | ⟨-, -, -, ⟨-, hsets⟩, -⟩ := h
  · exact absurd hless (Nat.not_lt_zero _)
  · exact hsets

/-- Code is read by skipping token sets. -/
theorem codeTokens_skipsAll {depth : Nat} (hgives : (codeTokens depth parser).Gives () after) :
    ∃ sets, parser.SkipsAll sets after :=
  skipsAll_of_twins (codeTokens_twins (lawful_skipping parser) ⟨rfl, [], .nil⟩) hgives

/-- A regular expression is read by skipping token sets. -/
theorem regexDisjunction_skipsAll (hgives : (regexDisjunction parser).Gives () after) :
    ∃ sets, parser.SkipsAll sets after :=
  skipsAll_of_twins (regexDisjunction_twins (lawful_skipping parser) ⟨rfl, [], .nil⟩) hgives

end Parser

end GrammarLang.Grammar
