import GrammarLang.Proofs.Grammar.Endings
import GrammarLang.Proofs.Grammar.Rereads
import GrammarLang.Proofs.Grammar.TwinTree

/-! # Two texts up to a semicolon

A parser in a grammar text is followed side by side with a twin in a text that ends behind a semicolon,
but for the brace that closes its grammar. They see the same words up to the semicolon
(**`Beside.exists_words`**), and so do the functions for trees (**`lawfulTree_local`**). What is found
in the first text beyond the semicolon can only lead the first parser beyond it as well; then it does
not come back to take the semicolon as the end of a production. -/

namespace GrammarLang.Grammar

open GrammarLang.Scan GrammarLang.Text

open Lexicon (ident number)

open Regex (SameFront)

variable {rest : List Char} {parser twin after after' : Parser} {text text' : List Char}

/-- An end of a text that is longer than what is behind a semicolon starts in front of that. -/
theorem exists_of_append {before behind front : List Char}
    (h : before ++ behind = front ++ ';' :: rest) (hlength : rest.length < behind.length) :
    ∃ front', behind = front' ++ ';' :: rest ∧ front = before ++ front' := by
  rcases List.append_eq_append_iff.1 h with ⟨front', hfront, hbehind⟩ | ⟨more, -, hrest⟩
  · exact ⟨front', hbehind, hfront⟩
  · cases more with
    | nil => exact ⟨[], hrest.symm, by simp_all⟩
    | cons c more =>
      rw [List.cons_append, List.cons.injEq] at hrest
      rw [hrest.2, List.length_append] at hlength
      omega

namespace Parser

/-- What is left to a parser in the notation proper is not more than the text behind the gap. -/
theorem Stands.remaining_le (h : parser.Stands [] text) :
    parser.remaining ≤ (behindGap text).length := by
  cases hcurrent : parser.scanner.current with
  | none =>
    have hfirst : First (parser.scanner.table.rulesInMode defaultMode) _ _ _ := h.at_text.first
    generalize hspot : parser.scanner.spot = spot at hfirst
    rw [hcurrent] at hfirst
    cases hfirst with
    | atEnd passed =>
      have hrest : parser.scanner.place.rest = [] := (Prod.mk.inj hspot).2
      simp [remaining, Scanner.remaining, hcurrent, parser.scanner.place.left_eq, hrest]
  | some set =>
    obtain ⟨front, hmeets⟩ := h.exists_meets hcurrent
    have hpos := (hmeets.word _ h.table).longest.bounds.1
    rw [remaining_of_current hcurrent, hmeets.gap_eq, List.length_append]
    omega

/-- A parser that has not passed the semicolon stands at a word in front of it, or at the semicolon
itself. Where the text ends behind the semicolon the same word comes next. -/
theorem Stands.exists_meets_ending {front : List Char} (h : parser.Stands [] text)
    (hgap : behindGap text = front ++ ';' :: rest) (hahead : rest.length < parser.remaining) :
    ∃ names word behind, Meets text names word parser.scanner.place.rest ∧
      (SameFront ';' rest ending parser.scanner.place.rest behind ∨
        names = [";"] ∧ parser.scanner.place.rest = rest) ∧
      ∀ text', behindGap text' = front ++ ';' :: ending → Meets text' names word behind := by
  obtain ⟨set, hcurrent⟩ : ∃ set, parser.scanner.current = some set := by
    cases hcurrent : parser.scanner.current with
    | none => simp [h.behindGap_eq_nil hcurrent] at hgap
    | some set => exact ⟨set, rfl⟩
  obtain ⟨word, hmeets⟩ := h.exists_meets hcurrent
  have hword := hmeets.word _ h.table
  rw [remaining_of_current hcurrent] at hahead
  generalize parser.scanner.place.rest = place at hmeets hahead hword ⊢
  rw [hmeets.gap_eq] at hgap
  -- The word ends in front of the semicolon, or with it.
  rcases Nat.lt_or_eq_of_le (Nat.le_of_lt_succ hahead) with hless | hsame
  · obtain ⟨behind, rfl, rfl⟩ := exists_of_append hgap hless
    refine ⟨set.rules, word, behind ++ ';' :: ending, hmeets, .inl ⟨behind, rfl, rfl⟩,
      fun text' hgap' => ⟨hgap'.trans (List.append_assoc _ _ _), fun table htable => ?_⟩⟩
    cases h.table.symm.trans htable
    exact ⟨hword.toWins.in_front_of_ending h.table, hword.kept, hword.read⟩
  · have hsplit : word ++ place = (front ++ [';']) ++ rest := by
      rw [hgap, List.append_assoc, List.singleton_append]
    obtain ⟨rfl, rfl⟩ := List.append_inj' hsplit hsame.symm
    obtain rfl := hword.eq_nil_of_semicolon h.table
    have hsign : ';' ∈ signChars := by decide
    obtain ⟨hnames, -⟩ := hword.toWins.unique ((Meets.sign hsign place).word _ h.table).toWins rfl
    rw [hnames] at hmeets
    exact ⟨_, _, ending, hmeets, .inr ⟨rfl, rfl⟩,
      fun text' hgap' => ⟨hgap', (Meets.sign hsign ending).word⟩⟩

end Parser

/-! ## Two texts up to a semicolon -/

/-- A parser has not passed the semicolon in front of the rest of its text, and its twin stands at the
same text, which ends behind the semicolon. -/
structure Beside (rest : List Char) (parser twin : Parser) : Prop where
  /-- Behind the gaps they stand at the same text. -/
  texts : ∃ text text' front, parser.Stands [] text ∧ twin.Stands [] text' ∧
    behindGap text = front ++ ';' :: rest ∧ behindGap text' = front ++ ';' :: ending
  /-- The semicolon is still to come. -/
  ahead : rest.length < parser.remaining
  /-- The arena of the parser is proper. -/
  proper : parser.arena.Proper
  /-- The arena of the twin is proper. -/
  proper_twin : twin.arena.Proper

namespace Beside

/-- They stand at the same word, and the same text comes behind it up to the semicolon. -/
theorem exists_words (h : Beside rest parser twin) :
    ∃ names word set set' start start', parser.scanner.current = some set ∧
      twin.scanner.current = some set' ∧ Shows set names word start ∧ Shows set' names word start' ∧
      (SameFront ';' rest ending parser.scanner.place.rest twin.scanner.place.rest ∨
        names = [";"] ∧ parser.scanner.place.rest = rest) := by
  obtain ⟨text, text', front, hstands, hstands', hgap, hgap'⟩ := h.texts
  obtain ⟨names, word, behind, hmeets, hsame, hmeets'⟩ := hstands.exists_meets_ending hgap h.ahead
  obtain ⟨set, start, hcurrent, hshows, -⟩ := hstands.shows hmeets
  obtain ⟨set', start', hcurrent', hshows', hrest', -⟩ := hstands'.shows (hmeets' text' hgap')
  exact ⟨names, word, set, set', start, start', hcurrent, hcurrent', hshows, hshows', hrest' ▸ hsame⟩

/-- They are side by side again where they come to stand at the same text, and there is something to
read for the twin. -/
theorem of_sameFront (hstands : after.Stands [] text)
    (hsame : SameFront ';' rest ending text text') (hahead : rest.length < after.remaining)
    (hproper : after.arena.Proper) :
    Readable text' ∧ ∀ after' : Parser, after'.Stands [] text' → after'.arena.Proper →
      Beside rest after after' := by
  obtain ⟨front, rfl, rfl⟩ := hsame
  obtain ⟨front', hgap, hgap'⟩ | ⟨hbeyond, -⟩ := behindGap_ending rest front
  · obtain ⟨names, word, behind, -, -, hmeets⟩ := hstands.exists_meets_ending hgap hahead
    exact ⟨(hmeets _ hgap').readable, fun after' hstands' hproper' =>
      ⟨⟨_, _, front', hstands, hstands', hgap, hgap'⟩, hahead, hproper, hproper'⟩⟩
  · have hle := hstands.remaining_le
    omega

end Beside

/-- The same terminal under its ids in two arenas. -/
def SameTerminal (arena arena' : Arena) (id id' : TerminalId) : Prop :=
  ∃ terminal, arena.get? id = some terminal ∧ arena'.get? id' = some terminal

/-- A parser is followed up to a semicolon, side by side with one that reads the same text as the last
production of a grammar. -/
def untilSemicolon (rest : List Char) : Twinning where
  beside := Beside rest
  horizon := rest.length + 1
  lenient := True
  failures _ _ := True
  tokens token token' :=
    token'.rule = token.rule ∧ token'.text = token.text ∧ token'.value = token.value
  spans _ _ := True
  terminals := SameTerminal
  lenient_of_horizon _ := trivial

theorem forall₂_of_map_eq {α β : Type} {relation : α → α → Prop} {key : α → β} :
    {left right : List α} → (hkeys : right.map key = left.map key) →
      (himp : ∀ a ∈ left, ∀ b ∈ right, key b = key a → relation a b) →
      List.Forall₂ relation left right
  | [], [], _, _ => .nil
  | a :: left, b :: right, hkeys, himp => by
    obtain ⟨hkey, hkeys⟩ := List.cons.inj hkeys
    exact .cons (himp a List.mem_cons_self b List.mem_cons_self hkey)
      (forall₂_of_map_eq hkeys fun c hc d hd =>
        himp c (List.mem_cons_of_mem _ hc) d (List.mem_cons_of_mem _ hd))

namespace Parser

/-- The twin stands at the same tokens. -/
theorem current_local (h : Beside rest parser twin) :
    List.Forall₂ (untilSemicolon rest).tokens parser.scanner.currentTokens
      twin.scanner.currentTokens := by
  obtain ⟨names, word, set, set', _, _, hcurrent, hcurrent', hshows, hshows', -⟩ := h.exists_words
  obtain ⟨text, text', _, hstands, hstands', -, -⟩ := h.texts
  rw [Scanner.currentTokens, Scanner.currentTokens, hcurrent, hcurrent']
  refine forall₂_of_map_eq (hshows'.rules_eq.trans hshows.rules_eq.symm) ?_
  intro token htoken token' htoken' hrule
  have htext : token'.text = token.text :=
    (hshows'.text_eq _ htoken').trans (hshows.text_eq _ htoken).symm
  have hvalue := hstands.value_eq hcurrent htoken
  have hvalue' := hstands'.value_eq hcurrent' htoken'
  rw [hrule, htext] at hvalue'
  refine ⟨hrule, htext, ?_⟩
  split at hvalue
  · rename_i heq
    rw [heq] at hvalue'
    exact Except.ok.inj (hvalue'.symm.trans hvalue)
  · rename_i heq
    rw [heq] at hvalue'
    exact hvalue'.trans hvalue.symm

/-- A step of the parser is one of the twin, or it leads beyond the semicolon. -/
theorem next_local (h : Beside rest parser twin) {scanner : Scanner}
    (hnext : parser.scanner.next = .ok () scanner) :
    (parser.withScanner scanner).remaining < rest.length + 1 ∨
      ∃ scanner', twin.scanner.next = .ok () scanner' ∧
        Beside rest (parser.withScanner scanner) (twin.withScanner scanner') := by
  obtain ⟨names, word, set, set', _, _, hcurrent, hcurrent', -, -, hsame⟩ := h.exists_words
  obtain ⟨text, text', _, hstands, hstands', -, -⟩ := h.texts
  have hskips : parser.Skips set (parser.withScanner scanner) := ⟨hcurrent, scanner, hnext, rfl⟩
  have hafter := (hstands.skip hskips).stands
  have hle := hafter.remaining_le
  rw [Nat.lt_succ_iff, or_iff_not_imp_left, Nat.not_le]
  intro hahead
  obtain hsame | ⟨-, hrest⟩ := hsame
  · obtain ⟨hreadable, hbeside⟩ := Beside.of_sameFront hafter hsame hahead h.proper
    obtain ⟨current, stop, hfirst⟩ := hreadable.first hstands'.table twin.scanner.place.offset
    have hmode : twin.scanner.mode = defaultMode := by
      rw [Scanner.mode, hstands'.entered_eq]
      rfl
    rw [← hmode] at hfirst
    obtain ⟨scanner', hnext'⟩ := exists_next hstands'.table hfirst
    exact ⟨scanner', hnext', hbeside _
      (hstands'.skip ⟨hcurrent', scanner', hnext', rfl⟩).stands h.proper_twin⟩
  · have hshort := (behindGap_suffix parser.scanner.place.rest).length_le
    rw [hrest] at hshort hle
    omega

theorem lawful_local (rest : List Char) : (untilSemicolon rest).Lawful where
  current := current_local
  same := id
  single _ _ := .inl trivial
  next {parser twin} h _ := by
    cases hnext : parser.scanner.next with
    | ok value scanner => exact next_local h hnext
    | failed error scanner => exact .inl trivial
  unexpected _ _ := .inl trivial

/-- The twin sees the same ahead. The parser may see more where the gap behind its token goes beyond
the semicolon; there it is led away if it takes the token. -/
theorem foresees_local {first second : String} {told : Char → Bool} (h : Beside rest parser twin)
    (htold : ToldBy second told) (hmatches : MatchesAll second told) (hslash : told '/' = false)
    (hfirst : first ≠ ";") :
    (parser.seesSequence [first, second]).Twins (untilSemicolon rest) (fun _ _ => Eq)
        (twin.seesSequence [first, second]) ∨
      parser.Foresees [first, second] true ∧ (untilSemicolon rest).Departs parser := by
  obtain ⟨names, word, set, set', _, _, hcurrent, -, hshows, -, hsame⟩ := h.exists_words
  obtain ⟨text, text', _, hstands, hstands', -, -⟩ := h.texts
  have hsees : twin.sees first = parser.sees first := sees_twins (lawful_local rest) h first
  have htwins (hfound : (twin.sees first && (lead twin.scanner.place.rest).any told) =
      (parser.sees first && (lead parser.scanner.place.rest).any told)) :
      (parser.seesSequence [first, second]).Twins (untilSemicolon rest) (fun _ _ => Eq)
        (twin.seesSequence [first, second]) := by
    have hforesees : parser.Foresees [first, second] _ :=
      (hstands.foresees_iff htold hmatches).2 rfl
    have hforesees' : twin.Foresees [first, second] _ :=
      (hstands'.foresees_iff htold hmatches).2 rfl
    obtain ⟨used, hgives⟩ := gives_seesSequence.2 ⟨hforesees, rfl⟩
    rw [hgives]
    exact .inr ⟨_, twin, gives_seesSequence.2 ⟨hforesees', rfl⟩, h, hfound.symm⟩
  cases hseen : parser.sees first with
  | false => exact .inl (htwins (by rw [hsees, hseen, Bool.false_and, Bool.false_and]))
  | true =>
    obtain ⟨front, hplace, hplace'⟩ | ⟨rfl, -⟩ := hsame
    · obtain ⟨front', hgap, hgap'⟩ | ⟨hbeyond, hlead⟩ := behindGap_ending rest front
      · refine .inl (htwins ?_)
        rw [hsees, hplace, hplace', lead, lead, hgap, hgap']
        cases front' <;> rfl
      · have hnone : (lead twin.scanner.place.rest).any told = false := by
          rw [hplace', Bool.eq_false_iff, ne_eq, Option.any_eq_true]
          rintro ⟨c, hc, htrue⟩
          rw [hlead c hc, hslash] at htrue
          contradiction
        cases hfound : (lead parser.scanner.place.rest).any told with
        | false => exact .inl (htwins (by rw [hnone, hfound, Bool.and_false, Bool.and_false]))
        | true =>
          refine .inr ⟨(hstands.foresees_iff htold hmatches).2 (by rw [hseen, hfound]; rfl),
            trivial, fun set after hskips => ?_⟩
          have hle := (hstands.skip hskips).stands.remaining_le
          rw [hplace] at hle
          exact Nat.lt_succ_of_le (hle.trans hbeyond)
    · -- The parser sees the semicolon and nothing else.
      rw [sees_iff_of_shows hshows hcurrent] at hseen
      exact absurd hseen.symm hfirst

/-- The twin keeps the same terminal. -/
theorem intern_local (h : Beside rest parser twin) {terminal : Terminal}
    (hset : ∀ set, terminal = .set set → RegexSet.compile set.source set.flags = .ok set) :
    (parser.intern terminal).Twins (untilSemicolon rest)
      (Grows parser.arena twin.arena SameTerminal) (twin.intern terminal) := by
  obtain ⟨text, text', front, hstands, hstands', hgap, hgap'⟩ := h.texts
  refine .ok ⟨⟨text, text', front, ⟨hstands.table, hstands.entered_eq, hstands.at_text⟩,
    ⟨hstands'.table, hstands'.entered_eq, hstands'.at_text⟩, hgap, hgap'⟩, h.ahead,
    h.proper.intern hset, h.proper_twin.intern hset⟩ ⟨parser.arena.within_intern terminal,
      twin.arena.within_intern terminal, fun arena arena' hwithin hwithin' => ?_⟩
  exact ⟨terminal, hwithin.get? (Arena.get?_intern h.proper hset),
    hwithin'.get? (Arena.get?_intern h.proper_twin hset)⟩

/-- The twin reads the same code, or the code goes beyond the semicolon. -/
theorem codeSegment_local (h : Beside rest parser twin) (hsees : parser.sees "\x7b" = true) :
    (codeSegment parser).Twins (untilSemicolon rest)
      (Grows parser.arena twin.arena fun _ _ left right =>
        (untilSemicolon rest).spans left.span right.span ∧ left.text = right.text)
      (codeSegment twin) := by
  obtain ⟨text, text', front, hstands, hstands', hgap, hgap'⟩ := h.texts
  obtain ⟨inner, rfl⟩ : ∃ inner, front = '\x7b' :: inner := by
    have hsign : '\x7b' ∈ signChars := by decide
    obtain ⟨behind, hbrace⟩ := hstands.behindGap_of_sign hsign hsees
    rw [hgap] at hbrace
    cases front with
    | nil => exact absurd (List.cons.inj hbrace).1 (by decide)
    | cons c inner => exact ⟨inner, by rw [(List.cons.inj hbrace).1]⟩
  refine .of_gives trivial fun code after hgives hahead => ?_
  obtain ⟨behind, htext, hend, hafter, harena⟩ := hstands.of_codeSegment hgap hgives
  have hlength : rest.length < behind.length :=
    hahead.trans (hafter.remaining_le.trans (behindGap_suffix behind).length_le)
  obtain ⟨front', rfl, hend'⟩ := codeEnd_ending 0 inner hend hlength
  obtain ⟨hreadable, hbeside⟩ :=
    Beside.of_sameFront hafter ⟨front', rfl, rfl⟩ hahead (harena ▸ h.proper)
  obtain ⟨code', after', hgives'⟩ := hstands'.exists_codeSegment hgap' hend' hreadable
  obtain ⟨behind', htext', hend'', hafter', harena'⟩ := hstands'.of_codeSegment hgap' hgives'
  obtain rfl := Option.some.inj (hend'.symm.trans hend'')
  have hsplit {more : List Char} {segment : CodeSegment}
      (h : inner ++ ';' :: more = segment.text.toList ++ '\x7d' :: (front' ++ ';' :: more)) :
      inner = segment.text.toList ++ '\x7d' :: front' := by
    rw [← List.cons_append, ← List.append_assoc] at h
    exact List.append_cancel_right h
  have hsame := (hsplit htext).symm.trans (hsplit htext')
  exact ⟨code', after', hgives', hbeside after' hafter' (harena' ▸ h.proper_twin),
    harena ▸ .refl _, harena' ▸ .refl _,
    fun _ _ _ _ => ⟨trivial, String.toList_inj.1 (List.append_cancel_right hsame)⟩⟩

/-- The twin reads the same regular expression, or that goes beyond the semicolon. -/
theorem regexLiteral_local (hbrace : '\x7d' ∈ rest) (h : Beside rest parser twin)
    (hsees : parser.sees "/" = true) :
    (regexLiteral parser).Twins (untilSemicolon rest) (Grows parser.arena twin.arena fun _ _ => Eq)
      (regexLiteral twin) := by
  obtain ⟨text, text', front, hstands, hstands', hgap, hgap'⟩ := h.texts
  refine .of_gives trivial fun set after hgives hahead => ?_
  obtain ⟨behind, hafter, harena, htext, hends, hliteral⟩ := hstands.of_regexLiteral hsees hgives
  have hlength : rest.length < behind.length :=
    hahead.trans (hafter.remaining_le.trans (behindGap_suffix behind).length_le)
  have hsplit : '/' :: (set.source.toList ++ '/' :: set.flags.toList) ++ behind =
      front ++ ';' :: rest := by
    rw [← hgap, htext]
    simp
  obtain ⟨front', rfl, rfl⟩ := exists_of_append hsplit hlength
  obtain ⟨hreadable, hbeside⟩ :=
    Beside.of_sameFront hafter ⟨front', rfl, rfl⟩ hahead (harena ▸ h.proper)
  have hgap' : behindGap text' =
      '/' :: (set.source.toList ++ '/' :: (set.flags.toList ++ (front' ++ ';' :: ending))) := by
    rw [hgap']
    simp
  have hends' : FlagsEnd set.flags (front' ++ ';' :: ending) := by
    have hhead : (front' ++ ';' :: ending).head? = (front' ++ ';' :: rest).head? := by
      cases front' <;> rfl
    rw [FlagsEnd, Apart] at hends ⊢
    rwa [hhead]
  have hset := hliteral (List.mem_append_right _ (List.mem_cons_of_mem _ hbrace))
  obtain ⟨set', after', hgives', hsource, hflags, hafter', harena'⟩ :=
    hset.exists_regexLiteral hstands' hgap' hends' hreadable
  have hsame : set = set' := RegexSet.eq_of_compile (compile_of_gives hgives)
    (compile_of_gives hgives') hsource.symm hflags.symm
  exact ⟨set', after', hgives', hbeside after' hafter' (harena' ▸ h.proper_twin),
    harena ▸ .refl _, harena' ▸ .refl _, fun _ _ _ _ => hsame⟩

/-- The functions for trees do the same up to the semicolon. -/
theorem lawfulTree_local (hbrace : '\x7d' ∈ rest) : (untilSemicolon rest).LawfulTree where
  toLawful := lawful_local rest
  foresees h hrules := by
    rcases hrules with rfl | rfl
    · exact foresees_local h .number .number (by decide) (by decide)
    · exact foresees_local h .equals .equals (by decide) (by decide)
  intern h _ hset := intern_local h hset
  tell h detail message := by
    obtain ⟨text, text', front, hstands, hstands', hgap, hgap'⟩ := h.texts
    exact ⟨⟨text, text', front, (hstands.tell detail message).stands,
      (hstands'.tell detail message).stands, hgap, hgap'⟩, h.ahead, h.proper, h.proper_twin⟩
  span _ _ := trivial
  range _ _ _ _ := .inl trivial
  code := codeSegment_local
  regex := regexLiteral_local hbrace

end Parser

end GrammarLang.Grammar
