import GrammarLang.Proofs.Grammar.Standing

/-! # Parsed code is spelt by its token sets

**`codeSegment_spells`**: the token sets that the parser consumes for a piece of code spell it. -/

namespace GrammarLang.Grammar

open GrammarLang.Scan GrammarLang.Text

/-- Token sets up to a brace that closes code, where `depth` more braces are opened than closed
before them. -/
inductive Closing : Nat → List TokenSet → Prop
  /-- All braces are closed. -/
  | nil : Closing 0 []
  /-- One more brace is opened. -/
  | opening {depth : Nat} {set : TokenSet} {sets : List TokenSet} (opens : Is set "\x7b")
      (others : Closing (depth + 1) sets) : Closing depth (set :: sets)
  /-- A brace is closed. -/
  | closing {depth : Nat} {set : TokenSet} {sets : List TokenSet} (closes : Is set "\x7d")
      (others : Closing depth sets) : Closing (depth + 1) (set :: sets)
  /-- A token is no brace. -/
  | code {depth : Nat} {set : TokenSet} {sets : List TokenSet} (opens : ¬ Is set "\x7b")
      (closes : ¬ Is set "\x7d") (others : Closing depth sets) : Closing depth (set :: sets)

/-- Up to the brace that closes the innermost open brace, the braces are balanced. -/
theorem Closing.balanced {depth : Nat} {sets : List TokenSet} (h : Closing depth sets) :
    match depth with
    | 0 => Balanced sets
    | outer + 1 => ∃ inner closing further, sets = inner ++ closing :: further ∧
        Balanced inner ∧ Is closing "\x7d" ∧ Closing outer further := by
  -- A brace opened here is closed by the induction hypothesis, and the sets behind it are fewer.
  induction hlength : sets.length using Nat.strongRecOn generalizing depth sets with
  | _ length ih =>
    subst hlength
    cases h with
    | nil => exact .nil
    | @opening _ set sets opens others =>
      obtain ⟨inner, closing, further, rfl, hinner, hcloses, hfurther⟩ :=
        ih _ (by simp) others rfl
      have hrest := ih _ (by simp; omega) hfurther rfl
      cases depth with
      | zero => exact .braces opens hinner hcloses hrest
      | succ outer =>
        obtain ⟨inner', closing', further', rfl, hinner', hcloses', hfurther'⟩ := hrest
        refine ⟨set :: inner ++ closing :: inner', closing', further', by simp, ?_, hcloses',
          hfurther'⟩
        exact .braces opens hinner hcloses hinner'
    | @closing outer set sets closes others =>
      exact ⟨[], set, sets, rfl, .nil, closes, others⟩
    | @code _ set sets opens closes others =>
      have hrest := ih _ (by simp) others rfl
      cases depth with
      | zero => exact .code opens closes hrest
      | succ outer =>
        obtain ⟨inner, closing, further, rfl, hinner, hcloses, hfurther⟩ := hrest
        exact ⟨set :: inner, closing, further, rfl, .code opens closes hinner, hcloses, hfurther⟩

namespace Parser

theorem codeMode_ne : Lexicon.codeMode ≠ defaultMode := by decide

theorem regexMode_ne : Lexicon.regexMode ≠ defaultMode := by decide

@[simp] theorem textOfSets_nil : textOfSets [] = [] := rfl

@[simp] theorem textOfSets_cons (set : TokenSet) (sets : List TokenSet) :
    textOfSets (set :: sets) = set.first.text.toList ++ textOfSets sets := rfl

@[simp] theorem textOfSets_append (sets further : List TokenSet) :
    textOfSets (sets ++ further) = textOfSets sets ++ textOfSets further := by
  simp [textOfSets]

/-- Inside a mode of its own, token sets are consumed whose texts make up the text passed. -/
structure Gathers (parser : Parser) (text : List Char) (sets : List TokenSet) (mode : String)
    (entered : List String) (after : Parser) (text' : List Char) : Prop where
  /-- The token sets are consumed. -/
  consumes : parser.Consumes text sets (mode :: entered) after text'
  /-- There are no gaps between them. -/
  text_eq : text = textOfSets sets ++ text'
  /-- There are no terminals inside. -/
  arena_eq : after.arena = parser.arena

namespace Gathers

variable {parser middle after : Parser} {mode : String} {entered : List String}
  {text text' text'' : List Char} {sets further : List TokenSet} {set : TokenSet}

theorem refl (h : parser.Stands (mode :: entered) text) :
    parser.Gathers text [] mode entered parser text := ⟨.refl h, rfl, rfl⟩

theorem trans (h : parser.Gathers text sets mode entered middle text')
    (h' : middle.Gathers text' further mode entered after text'') :
    parser.Gathers text (sets ++ further) mode entered after text'' :=
  ⟨h.consumes.trans h'.consumes, by
    rw [h.text_eq, h'.text_eq, textOfSets_append, List.append_assoc],
    h'.arena_eq.trans h.arena_eq⟩

/-- Skipping a token set gathers its text. -/
theorem skip (h : parser.Stands (mode :: entered) text) (hmode : mode ≠ defaultMode)
    (hskips : parser.Skips set after) :
    parser.Gathers text [set] mode entered after parser.scanner.place.rest :=
  ⟨h.skip hskips, by simpa using (h.ungapped hmode hskips.1).1, hskips.arena_eq⟩

/-- The text gathered is that between the start of the first token set and the end of the last. -/
theorem slice_eq (h : parser.Gathers text sets mode entered after text')
    (hparser : parser.Stands (mode :: entered) text) (hmode : mode ≠ defaultMode)
    (hcurrent : after.scanner.current = some set) :
    parser.scanner.source.slice? ⟨parser.scanner.previousEnd, after.start⟩ =
      some (String.ofList (textOfSets sets)) := by
  have hstart : after.start = after.scanner.previousEnd := by
    rw [start, Scanner.currentOffset, hcurrent]
    exact (h.consumes.stands.ungapped hmode hcurrent).2
  have hstop := h.consumes.stands.at_text.offset_eq
  rw [h.consumes.source_eq, ← hstart] at hstop
  exact slice_between hparser.at_text.suffix h.text_eq hparser.at_text.offset_eq hstop

end Gathers

variable {parser after : Parser} {entered : List String} {text : List Char}

/-- A parser that sees a rule stands at a token set. -/
theorem current_of_sees {rule : String} (h : parser.sees rule = true) :
    ∃ set, parser.scanner.current = some set ∧ Is set rule := by
  cases hcurrent : parser.scanner.current with
  | none => simp [sees, Scanner.matchesRule, Scanner.matching?, hcurrent] at h
  | some set => exact ⟨set, rfl, (sees_iff hcurrent).1 h⟩

/-- The token sets consumed inside code lead up to the brace that closes it. -/
theorem codeTokens_spells {depth : Nat} {parser after : Parser} {entered : List String}
    {text : List Char} (h : parser.Stands (Lexicon.codeMode :: entered) text)
    (hgives : (codeTokens depth parser).Gives () after) :
    ∃ sets text', parser.Gathers text sets Lexicon.codeMode entered after text' ∧
      Closing depth sets ∧ after.sees "\x7d" = true := by
  rcases codeTokens_gives.1 hgives with ⟨hopens, set, middle, hskips, hmore⟩ |
    ⟨-, hcloses, ⟨rfl, rfl⟩ | ⟨outer, rfl, set, middle, hskips, hmore⟩⟩ |
    ⟨hopens, hcloses, set, middle, hskips, hmore⟩
  · have hstep := Gathers.skip h codeMode_ne hskips
    obtain ⟨sets, text', hgathers, hclosing, hend⟩ := codeTokens_spells hstep.consumes.stands hmore
    exact ⟨_, text', hstep.trans hgathers, .opening ((sees_iff hskips.1).1 hopens) hclosing, hend⟩
  · exact ⟨[], text, .refl h, .nil, hcloses⟩
  · have hstep := Gathers.skip h codeMode_ne hskips
    obtain ⟨sets, text', hgathers, hclosing, hend⟩ := codeTokens_spells hstep.consumes.stands hmore
    exact ⟨_, text', hstep.trans hgathers, .closing ((sees_iff hskips.1).1 hcloses) hclosing, hend⟩
  · have hstep := Gathers.skip h codeMode_ne hskips
    obtain ⟨sets, text', hgathers, hclosing, hend⟩ := codeTokens_spells hstep.consumes.stands hmore
    refine ⟨_, text', hstep.trans hgathers, .code ?_ ?_ hclosing, hend⟩
    · exact fun his => by simp [(sees_iff hskips.1).2 his] at hopens
    · exact fun his => by simp [(sees_iff hskips.1).2 his] at hcloses
termination_by parser.remaining
decreasing_by
  all_goals
    have hless := hskips.remaining_le
    omega

/-- The token sets that are consumed for a piece of code spell it. -/
theorem codeSegment_spells {code : CodeSegment} (h : parser.Stands entered text)
    (hgives : (codeSegment parser).Gives code after) :
    ∃ sets text', parser.Consumes text sets entered after text' ∧ CodeSpells code sets := by
  obtain ⟨opening, inside, hopening, behind, htokens, closing, hclosing, hslice, -⟩ :=
    codeSegment_gives.1 hgives
  obtain ⟨openingSet, hskipsOpening, hopens⟩ := hopening.offers
  obtain ⟨closingSet, hskipsClosing, hcloses⟩ := hclosing.offers
  have hinside := h.skip_enter hskipsOpening
  obtain ⟨inner, text', hgathers, hbalanced, hend⟩ := codeTokens_spells hinside.stands htokens
  have hafter := hgathers.consumes.stands.skip_leave hskipsClosing
  obtain ⟨set, hcurrent, -⟩ := current_of_sees hend
  have htext := hgathers.slice_eq hinside.stands codeMode_ne hcurrent
  rw [hafter.source_eq, hgathers.consumes.source_eq, htext] at hslice
  have htext : code.text.toList = textOfSets inner := by
    rw [← Option.some.inj hslice, String.toList_ofList]
  exact ⟨openingSet :: inner ++ [closingSet], _, (hinside.trans hgathers.consumes).trans hafter,
    .braces ⟨opening, hopens⟩ hbalanced.balanced ⟨closing, hcloses⟩ htext⟩

end Parser

end GrammarLang.Grammar
