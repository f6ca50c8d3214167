import GrammarLang.Proofs.Grammar.Ahead
import GrammarLang.Proofs.Grammar.CodeClosed
import GrammarLang.Proofs.Grammar.Openings

/-! # Written words are read again

In front of text that goes on, the parser reads a written terminal as a terminal with the same key
(**`Parser.Faces.exists_terminal`**), a label as the label (**`Parser.Faces.exists_label`**), suffixes
as the same suffixes (**`Parser.Faces.exists_suffixes`**), and code that is closed as the same code
(**`Parser.Faces.exists_codeInFront`**, **`Parser.Faces.exists_codeBehind`**). -/

namespace GrammarLang.Grammar

open GrammarLang.Scan GrammarLang.Text

open Lexicon (ident number string)

/-- A word that the text starts with is met wherever the parser stands in the gap. -/
theorem Meets.of_gap {text text' front rest : List Char} {names : List String}
    (hmeets : Meets text names front rest) (hgap : behindGap text' = behindGap text) :
    Meets text' names front rest := ⟨hgap.trans hmeets.gap_eq, hmeets.word⟩

namespace Parser

variable {parser after : Parser} {text front rest : List Char} {names : List String}

/-! ## Facing a text -/

/-- The parser stands at the text, but for the gap in front of it. -/
def Faces (parser : Parser) (text : List Char) : Prop :=
  ∃ text', parser.Stands [] text' ∧ behindGap text' = behindGap text

theorem Stands.faces (h : parser.Stands [] text) : parser.Faces text := ⟨text, h, rfl⟩

namespace Faces

theorem space (h : parser.Faces (' ' :: text)) : parser.Faces text := by
  obtain ⟨text', hstands, hgap⟩ := h
  exact ⟨text', hstands, hgap.trans (behindGap_space text)⟩

theorem newline (h : parser.Faces ('\n' :: text)) : parser.Faces text := by
  obtain ⟨text', hstands, hgap⟩ := h
  exact ⟨text', hstands, hgap.trans (behindGap_newline text)⟩

theorem sees_eq {rule : String} {told : Char → Bool} (h : parser.Faces text)
    (htold : ToldBy rule told) : parser.sees rule = (lead text).any told := by
  obtain ⟨text', hstands, hgap⟩ := h
  rw [hstands.sees_eq htold, lead, hgap, lead]

theorem sees_ident_eq (h : parser.Faces text) : parser.sees ident = (lead text).any isNameStart := by
  obtain ⟨text', hstands, hgap⟩ := h
  rw [hstands.sees_ident_eq, lead, hgap, lead]

theorem foresees_iff {first second : String} {told : Char → Bool} {found : Bool}
    (h : parser.Faces text) (htold : ToldBy second told) (hmatches : MatchesAll second told) :
    parser.Foresees [first, second] found ↔
      found = (parser.sees first && (lead parser.scanner.place.rest).any told) := by
  obtain ⟨text', hstands, -⟩ := h
  exact hstands.foresees_iff htold hmatches

/-- Behind the word that the text starts with, what is left of the text comes next. -/
theorem rest_eq (h : parser.Faces text) (hmeets : Meets text names front rest) :
    parser.scanner.place.rest = rest := by
  obtain ⟨text', hstands, hgap⟩ := h
  obtain ⟨-, -, -, -, hrest, -⟩ := hstands.shows (hmeets.of_gap hgap)
  exact hrest

/-! ## Single words -/

/-- A word of the right rules is taken, and the parser comes to stand behind it. -/
theorem exists_word {rules : List String} {rule : String} (h : parser.Faces text)
    (hmeets : Meets text names front rest) (hcount : names.count rule = 1)
    (hrules : rules.filter (· ∈ names) = [rule]) (hreadable : Readable rest) :
    ∃ token after, parser.Takes rules token after ∧ token.rule = rule ∧
      token.text = String.ofList front ∧ after.Stands [] rest ∧ after.arena = parser.arena := by
  obtain ⟨text', hstands, hgap⟩ := h
  have hmeets := hmeets.of_gap hgap
  obtain ⟨token, after, htakes, hrule⟩ := hstands.exists_takes hmeets hcount hrules hreadable
  obtain ⟨hafter, harena, htext, -⟩ := hstands.of_takes hmeets htakes
  exact ⟨token, after, htakes, hrule, htext, hafter, harena⟩

/-- A word of a single rule is taken. -/
theorem exists_only {rule : String} (h : parser.Faces text)
    (hmeets : Meets text [rule] front rest) (hreadable : Readable rest) :
    ∃ token after, parser.Takes [rule] token after ∧ token.rule = rule ∧
      token.text = String.ofList front ∧ after.Stands [] rest ∧ after.arena = parser.arena := by
  have hcount : [rule].count rule = 1 := by simp
  have hrules : [rule].filter (· ∈ [rule]) = [rule] := by simp
  exact h.exists_word hmeets hcount hrules hreadable

/-- A sign of one character is taken. -/
theorem exists_sign {c : Char} (h : parser.Faces (c :: rest)) (hc : c ∈ signChars)
    (hreadable : Readable rest) :
    ∃ token after, parser.Takes [String.singleton c] token after ∧ after.Stands [] rest ∧
      after.arena = parser.arena := by
  obtain ⟨token, after, htakes, -, -, hafter⟩ := h.exists_only (Meets.sign hc rest) hreadable
  exact ⟨token, after, htakes, hafter⟩

/-- A name is taken. -/
theorem exists_name {name : String} (h : parser.Faces text)
    (hmeets : Meets text (namesOfName name.toList) name.toList rest) (hreadable : Readable rest) :
    ∃ token after, parser.Takes [ident] token after ∧ token.text = name ∧ after.Stands [] rest ∧
      after.arena = parser.arena := by
  obtain ⟨text', hstands, hgap⟩ := h
  have hmeets := hmeets.of_gap hgap
  obtain ⟨token, after, htakes⟩ := hstands.exists_takes_name hmeets hreadable
  obtain ⟨hafter, harena, htext, -⟩ := hstands.of_takes hmeets htakes
  rw [String.ofList_toList] at htext
  exact ⟨token, after, htakes, htext, hafter, harena⟩

/-- A number is taken. -/
theorem exists_number {value : UInt64}
    (h : parser.Faces ((toString value.toNat).toList ++ rest)) (hapart : Apart rest)
    (hreadable : Readable rest) :
    ∃ token after, parser.Takes [number] token after ∧ numberOf token = value ∧
      after.Stands [] rest ∧ after.arena = parser.arena := by
  have hmeets := Meets.toString value hapart
  obtain ⟨token, after, htakes, hrule, htext, hafter⟩ :=
    h.exists_only hmeets hreadable
  obtain ⟨set, hskips, hoffers⟩ := htakes.offers
  obtain ⟨text', hstands, -⟩ := h
  have hvalue := hstands.value_eq hskips.1 hoffers.mem
  rw [hrule, htext, String.ofList_toList] at hvalue
  have hdecoder : Lexicon.decoderOf number = some numberValue := rfl
  rw [hdecoder] at hvalue
  simp only [numberValue_toString, Except.ok.injEq] at hvalue
  rw [hstands.numberOf_eq hskips.1 hoffers] at hvalue
  exact ⟨token, after, htakes, by cases hvalue; rfl, hafter⟩

/-- A text between quotes is taken. -/
theorem exists_string {value : String}
    (h : parser.Faces (quote value.toList ++ rest)) (hreadable : Readable rest) :
    ∃ token after, parser.Takes [string] token after ∧ textOf token = value ∧
      after.Stands [] rest ∧ after.arena = parser.arena := by
  have hmeets := Meets.quote value rest
  obtain ⟨token, after, htakes, hrule, htext, hafter⟩ :=
    h.exists_only hmeets hreadable
  obtain ⟨set, hskips, hoffers⟩ := htakes.offers
  obtain ⟨text', hstands, -⟩ := h
  have hvalue := hstands.value_eq hskips.1 hoffers.mem
  rw [hrule, htext] at hvalue
  have hdecoder : Lexicon.decoderOf string = some stringValue := rfl
  rw [hdecoder] at hvalue
  simp only [stringValue_quote, Except.ok.injEq] at hvalue
  rw [hstands.textOf_eq hskips.1 hoffers] at hvalue
  exact ⟨token, after, htakes, by cases hvalue; rfl, hafter⟩

/-! ## What is not there -/

/-- What is seen may start with the character that leads the text. -/
theorem mayStart_of_sees {rule : String} (h : parser.Faces text)
    (hsees : parser.sees rule = true) :
    ∃ c, lead text = some c ∧ (Lexicon.bodyOf rule).mayStart c = true := by
  obtain ⟨text', hstands, hgap'⟩ := h
  obtain ⟨set, hcurrent, -⟩ := current_of_sees hsees
  obtain ⟨front, hgap, hlexeme, hrules⟩ := hstands.isLexeme hcurrent
  obtain ⟨c, cs, rfl⟩ := List.exists_cons_of_ne_nil hlexeme.front_ne_nil
  obtain ⟨rule, hrule, rfl⟩ := (sees_iff_tied hcurrent hrules).1 hsees
  obtain ⟨hmem, hcount⟩ := List.mem_filter.1 hrule
  refine ⟨c, by rw [lead, ← hgap', hgap]; rfl, ?_⟩
  exact Lexicon.mayStart_of_matchLength? hstands.table (List.mem_filter.1 hmem).1
    (of_decide_eq_true hcount)

/-- There is nothing to be taken of rules that start with none of the characters. -/
theorem lacks_of_ledBy {leads : Char → Bool} {rules : List String} (h : parser.Faces text)
    (hled : LedBy leads text)
    (hnone : ∀ c, leads c = true → ∀ rule ∈ rules, (Lexicon.bodyOf rule).mayStart c = false) :
    parser.Lacks rules := by
  rw [lacks_iff_sees]
  intro rule hrule
  rw [Bool.eq_false_iff]
  intro hsees
  obtain ⟨c, hlead, hstart⟩ := h.mayStart_of_sees hsees
  obtain ⟨d, hlead', hd⟩ := hled.exists_lead
  obtain rfl : c = d := Option.some.inj (hlead.symm.trans hlead')
  rw [hnone c hd rule hrule] at hstart
  contradiction

/-! ## Terminals -/

/-- All characters that a terminal may start with are among the first 128. -/
theorem lt_of_leads {value : Terminal} {c : Char} (hc : value.leads c = true) : c.toNat < 128 := by
  cases value with
  | ident | number => exact Unicode.Ranges.lt_of_contains (by decide) hc
  | string | set =>
    rw [of_decide_eq_true hc]
    decide

/-- There is nothing to be taken of rules that start with no character that leads a terminal. -/
theorem lacks_of_leads {value : Terminal} {rules : List String}
    (h : parser.Faces (value.render.toList ++ rest)) (hvalue : value.Writable) (hapart : Apart rest)
    (hnone : ∀ n < 128, value.leads (Char.ofNat n) = true →
      ∀ rule ∈ rules, (Lexicon.bodyOf rule).mayStart (Char.ofNat n) = false) :
    parser.Lacks rules := by
  refine h.lacks_of_ledBy (hvalue.ledBy hapart) fun c hc => ?_
  exact Lexicon.of_ascii (P := fun c => value.leads c = true →
    ∀ rule ∈ rules, (Lexicon.bodyOf rule).mayStart c = false) hnone (lt_of_leads hc) hc

/-- A written terminal opens neither a negation nor a group. -/
theorem lacks_openings {value : Terminal} (h : parser.Faces (value.render.toList ++ rest))
    (hvalue : value.Writable) (hapart : Apart rest) :
    parser.Lacks ["~"] ∧ parser.Lacks ["(", "(?=", "(?!"] := by
  cases value <;> exact ⟨h.lacks_of_leads hvalue hapart (by rw [Terminal.leads]; decide),
    h.lacks_of_leads hvalue hapart (by rw [Terminal.leads]; decide)⟩

/-- A terminal with the same key is read where a terminal is written. -/
theorem exists_terminal {value : Terminal}
    (h : parser.Faces (value.render.toList ++ rest)) (hvalue : value.Writable)
    (hapart : Apart rest) (hreadable : Readable rest) :
    ∃ (other : Terminal) (middle : Parser), other.key = value.key ∧ middle.Stands [] rest ∧
      middle.arena = parser.arena ∧
      ∀ id after, (middle.intern other).Gives id after → (terminal parser).Gives id after := by
  cases value with
  | ident name =>
    obtain ⟨token, middle, htakes, htext, hmiddle, harena⟩ :=
      h.exists_name (Meets.name hvalue hapart) hreadable
    refine ⟨.ident token.text, middle, by rw [htext, Terminal.render], hmiddle, harena,
      fun id after hgives => ?_⟩
    exact terminal_gives.2 (.inl ⟨token, middle, htakes, hgives⟩)
  | number value =>
    obtain ⟨token, middle, htakes, htoken, hmiddle, harena⟩ := h.exists_number hapart hreadable
    have hident : parser.Lacks [ident] :=
      h.lacks_of_leads hvalue hapart (by rw [Terminal.leads]; decide)
    refine ⟨.number (numberOf token), middle, by rw [htoken], hmiddle, harena,
      fun id after hgives => ?_⟩
    exact terminal_gives.2 (.inr ⟨hident, .inl ⟨token, middle, htakes, hgives⟩⟩)
  | string value =>
    have hident : parser.Lacks [ident] :=
      h.lacks_of_leads hvalue hapart (by rw [Terminal.leads]; decide)
    have hnumber : parser.Lacks [number] :=
      h.lacks_of_leads hvalue hapart (by rw [Terminal.leads]; decide)
    rw [Terminal.render, String.toList_ofList] at h
    obtain ⟨token, middle, htakes, htoken, hmiddle, harena⟩ := h.exists_string hreadable
    refine ⟨.string (textOf token), middle, by rw [htoken], hmiddle, harena,
      fun id after hgives => ?_⟩
    exact terminal_gives.2 (.inr ⟨hident, .inr ⟨hnumber, .inl ⟨token, middle, htakes, hgives⟩⟩⟩)
  | set set =>
    have hident : parser.Lacks [ident] :=
      h.lacks_of_leads hvalue hapart (by rw [Terminal.leads]; decide)
    have hnumber : parser.Lacks [number] :=
      h.lacks_of_leads hvalue hapart (by rw [Terminal.leads]; decide)
    have hstring : parser.Lacks [string] :=
      h.lacks_of_leads hvalue hapart (by rw [Terminal.leads]; decide)
    have hsees : parser.sees "/" = true := by
      obtain ⟨c, hlead, hc⟩ := (hvalue.ledBy hapart).exists_lead
      rw [h.sees_eq .slash, hlead]
      exact hc
    have hliteral := hvalue.setLiteral
    obtain ⟨c, cs, hsource, hline, hblock⟩ := hliteral.opens
    have htext : (Terminal.set set).render.toList ++ rest =
        '/' :: (set.source.toList ++ '/' :: (set.flags.toList ++ rest)) := by
      simp [Terminal.render_set]
    have hgap : behindGap ((Terminal.set set).render.toList ++ rest) =
        '/' :: (set.source.toList ++ '/' :: (set.flags.toList ++ rest)) := by
      rw [htext, hsource]
      exact behindGap_slash hline hblock _
    obtain ⟨text', hstands, hgap'⟩ := h
    obtain ⟨other, middle, hother, hotherSource, hotherFlags, hmiddle, harena⟩ :=
      hliteral.exists_regexLiteral hstands (hgap'.trans hgap)
        (flagsEnd_of_apart hliteral.flags_name hapart) hreadable
    refine ⟨.set other, middle, by rw [Terminal.key, Terminal.key, hotherSource, hotherFlags],
      hmiddle, harena, fun id after hgives => ?_⟩
    exact terminal_gives.2 (.inr ⟨hident, .inr ⟨hnumber, .inr ⟨hstring, hsees, other, middle, hother,
      hgives⟩⟩⟩)

/-! ## Labels -/

/-- A name with a sign of equality behind it is read as a label. -/
theorem exists_labelName {name : String}
    (h : parser.Faces (name.toList ++ '=' :: rest)) (hname : IsName name.toList)
    (hreadable : Readable rest) :
    ∃ after, (labelName parser).Gives (some name) after ∧ after.Stands [] rest ∧
      after.arena = parser.arena := by
  have hapart : Apart ('=' :: rest) := apart_cons (by decide) rest
  have hequals : '=' ∈ signChars := by decide
  have hmeets := Meets.name hname hapart
  have hsign := Meets.sign hequals rest
  obtain ⟨token, middle, htakes, htext, hmiddle, harena⟩ := h.exists_name hmeets hsign.readable
  obtain ⟨sign, after, hsignTakes, hafter, harena'⟩ := hmiddle.faces.exists_sign hequals hreadable
  refine ⟨after, labelName_gives.2 (.inl ⟨?_, token, middle, htakes, sign, hsignTakes, by rw [htext]⟩),
    hafter, harena'.trans harena⟩
  -- The sign is foreseen behind the name.
  rw [h.foresees_iff .equals .equals]
  have hrest := h.rest_eq hmeets
  obtain ⟨c, cs, hcons, hc, -⟩ := hname
  rw [hcons] at hmeets
  rw [h.sees_ident_eq, hrest, hsign.lead_eq, hcons, hmeets.lead_eq]
  simp [hc]

/-- An element is not read as a label, as no sign of equality stands behind it. -/
theorem labelName_none {arena : Arena} {element : Element}
    (h : parser.Faces ((element.render arena).toList ++ rest)) (helement : element.Writable arena)
    (hapart : Apart rest) (hequals : (lead rest).any (· = '=') = false) :
    (labelName parser).Gives none parser := by
  refine labelName_gives.2 (.inr ⟨?_, rfl, rfl⟩)
  rw [h.foresees_iff .equals .equals, eq_comm, Bool.and_eq_false_iff]
  have hnone {leads : Char → Bool}
      (hled : LedBy leads ((element.render arena).toList ++ rest))
      (hnot : ∀ c, leads c = true → isNameStart c = false) : parser.sees ident = false := by
    rw [h.sees_ident_eq]
    exact hled.lead_any_eq_false hnot
  cases element with
  | terminal id =>
    obtain ⟨terminal, hget, hterminal⟩ := helement
    rw [Element.render, Arena.renderAt, hget] at h hnone
    cases terminal with
    | ident name =>
      exact .inr (by rw [h.rest_eq (Meets.name hterminal hapart), hequals])
    | string | number | set =>
      refine .inl (hnone (hterminal.ledBy hapart) fun c hc => ?_)
      exact Lexicon.of_ascii (P := fun c => Terminal.leads _ c = true → isNameStart c = false)
        (by rw [Terminal.leads]; decide) (lt_of_leads hc) hc
  | group kind branches =>
    refine .inl (hnone (ledBy_group arena kind branches rest) fun c hc => ?_)
    rw [of_decide_eq_true hc]
    decide
  | negation inner =>
    refine .inl (hnone (ledBy_negation arena inner rest) fun c hc => ?_)
    rw [of_decide_eq_true hc]
    decide

/-- A label, or nothing, is read in front of an element as it is written. -/
theorem exists_label {arena : Arena} {label : Option String} {element : Element}
    {suffixes : List Suffix}
    (h : parser.Faces (labelText label ++ ((element.render arena).toList ++
      ((renderSuffixes suffixes).toList ++ rest))))
    (hlabel : ∀ name ∈ label, IsName name.toList) (helement : element.Writable arena)
    (hrest : GoesOn rest) :
    ∃ after, (labelName parser).Gives label after ∧ after.Faces ((element.render arena).toList ++
      ((renderSuffixes suffixes).toList ++ rest)) ∧ after.arena = parser.arena := by
  have hapart := apart_suffixes suffixes hrest.apart
  cases label with
  | none =>
    have hequals : (lead ((renderSuffixes suffixes).toList ++ rest)).any (· = '=') = false := by
      refine (ledBy_suffixes suffixes hrest).lead_any_eq_false fun c hc => decide_eq_false ?_
      rintro rfl
      revert hc
      decide
    exact ⟨parser, h.labelName_none helement hapart hequals, h, rfl⟩
  | some name =>
    rw [labelText, Option.elim_some, List.append_assoc, List.singleton_append] at h
    obtain ⟨after, hgives, hafter, harena⟩ :=
      h.exists_labelName (hlabel name rfl) (helement.ledBy hapart).readable
    exact ⟨after, hgives, hafter.faces, harena⟩

/-! ## Suffixes -/

/-- A sign that does not come next is not seen. -/
theorem sees_sign_eq_false {leads : Char → Bool} {c : Char} (h : parser.Faces text)
    (hc : c ∈ signChars) (hled : LedBy leads text) (hnot : leads c = false) :
    parser.sees (String.singleton c) = false := by
  rw [h.sees_eq (.sign hc)]
  refine hled.lead_any_eq_false fun d hd => decide_eq_false fun heq => ?_
  rw [heq, hnot] at hd
  contradiction

/-- There is no code where an opening brace does not come next. -/
theorem not_sees_brace {leads : Char → Bool} (h : parser.Faces text) (hled : LedBy leads text)
    (hnot : leads '\x7b' = false) : parser.sees "\x7b" = false :=
  have hsign : '\x7b' ∈ signChars := by decide
  h.sees_sign_eq_false hsign hled hnot

theorem ledBy_upperText (lower : UInt64) (upper : Option UInt64) (rest : List Char) :
    LedBy (fun c => c = ',' || c = '\x7d') (upperText lower upper ++ '\x7d' :: rest) := by
  have hcomma (cs : List Char) : LedBy (fun c => c = ',' || c = '\x7d') (',' :: cs) :=
    ledBy_sign (by decide) (by decide) cs
  cases upper with
  | none => exact hcomma _
  | some upper =>
    rw [upperText]
    split
    · exact ledBy_sign (by decide) (by decide) rest
    · exact hcomma _

theorem apart_upperText (lower : UInt64) (upper : Option UInt64) (rest : List Char) :
    Apart (upperText lower upper ++ '\x7d' :: rest) := by
  cases upper with
  | none => exact apart_cons (by decide) _
  | some upper =>
    rw [upperText]
    split
    all_goals exact apart_cons (by decide) _

/-- The part of a range from the comma on is read, or there is none. -/
theorem exists_upper {lower : UInt64} {upper : Option UInt64}
    (h : parser.Faces (upperText lower upper ++ '\x7d' :: rest)) :
    ∃ after, parser.TakesUpper lower upper after ∧ after.Faces ('\x7d' :: rest) ∧
      after.arena = parser.arena := by
  have hclosing : '\x7d' ∈ signChars := by decide
  have hend := Meets.sign hclosing rest
  cases upper with
  | none =>
    rw [upperText, List.singleton_append] at h
    obtain ⟨comma, middle, hcomma, hmiddle, harena⟩ := h.exists_sign (by decide) hend.readable
    refine ⟨middle, .inl ⟨comma, middle, hcomma, upperBound_gives.2 (.inr ⟨?_, rfl, rfl⟩)⟩, hmiddle.faces,
      harena⟩
    rw [lacks_iff_sees]
    intro rule hrule
    rw [List.mem_singleton.1 hrule, hmiddle.faces.sees_eq .number, hend.lead_eq]
    decide
  | some upper =>
    rw [upperText] at h
    split at h
    · rename_i heq
      have hled : LedBy (· = '\x7d') ('\x7d' :: rest) := ledBy_sign hclosing rfl rest
      have hcomma : ',' ∈ signChars := by decide
      refine ⟨parser, .inr ⟨?_, by rw [heq], rfl⟩, h, rfl⟩
      rw [lacks_iff_sees]
      intro rule hrule
      rw [List.mem_singleton.1 hrule]
      exact h.sees_sign_eq_false hcomma hled (by decide)
    · have hapart : Apart ('\x7d' :: rest) := apart_cons (by decide) rest
      obtain ⟨comma, middle, hcomma, hmiddle, harena⟩ :=
        h.exists_sign (by decide) (Meets.toString upper hapart).readable
      obtain ⟨token, after, htakes, hvalue, hafter, hsame⟩ :=
        hmiddle.faces.exists_number hapart hend.readable
      exact ⟨after, .inl ⟨comma, middle, hcomma, upperBound_gives.2 (.inl ⟨token, htakes,
        by rw [hvalue]⟩)⟩, hafter.faces, hsame.trans harena⟩

/-- A range is read as it is written. -/
theorem exists_rangeSuffix {lower : UInt64} {upper : Option UInt64}
    (h : parser.Faces ((Suffix.range lower upper).render.toList ++ rest))
    (hle : ∀ bound ∈ upper, lower ≤ bound) (hreadable : Readable rest) :
    parser.Foresees ["\x7b", number] true ∧
    ∃ after, (rangeSuffix parser).Gives (.ofBounds lower upper) after ∧ after.Stands [] rest ∧
      after.arena = parser.arena := by
  rw [Suffix.toList_render_range, List.cons_append, List.append_assoc, List.append_assoc,
    List.singleton_append] at h
  have hopening : '\x7b' ∈ signChars := by decide
  have hapart := apart_upperText lower upper rest
  have hlower := Meets.toString lower hapart
  have hbrace := Meets.sign hopening
    ((toString lower.toNat).toList ++ (upperText lower upper ++ '\x7d' :: rest))
  refine ⟨?_, ?_⟩
  · rw [h.foresees_iff .number .number]
    have hrest := h.rest_eq hbrace
    obtain ⟨c, cs, hdigits, hall⟩ := exists_digits lower
    have htold : ToldBy "\x7b" (· = '\x7b') := ToldBy.sign hopening
    have hsees : parser.sees "\x7b" = true := by
      rw [h.sees_eq htold, hbrace.lead_eq]
      rfl
    rw [hdigits] at hlower hrest
    rw [hrest, hlower.lead_eq, Option.any_some, hall c List.mem_cons_self]
    simp [hsees]
  · obtain ⟨opening, inside, hopens, hinside, hinsideArena⟩ := h.exists_sign hopening hlower.readable
    obtain ⟨lowest, atUpper, hlowest, hvalue, hatUpper, hatUpperArena⟩ :=
      hinside.faces.exists_number hapart (ledBy_upperText lower upper rest).readable
    obtain ⟨atEnd, hupper, hatEnd, hatEndArena⟩ := hatUpper.faces.exists_upper
    obtain ⟨closing, after, hcloses, hafter, hafterArena⟩ := hatEnd.exists_sign (by decide) hreadable
    refine ⟨after, rangeSuffix_gives.2 ⟨opening, inside, hopens, lowest, atUpper, hlowest,
      upper, atEnd, by rwa [hvalue], closing, hcloses, by rwa [hvalue], by rw [hvalue]⟩, hafter, ?_⟩
    rw [hafterArena, hatEndArena, hatUpperArena, hinsideArena]

/-- The signs of suffixes with one character. -/
theorem exists_suffixSign {rule : String} (hrule : rule ∈ ["*", "+", "?"]) :
    ∃ c, rule = String.singleton c ∧ c ∈ ['*', '+', '?'] := by
  simp only [List.mem_cons, List.not_mem_nil, or_false] at hrule
  obtain rfl | rfl | rfl := hrule
  exacts [⟨'*', rfl, by decide⟩, ⟨'+', rfl, by decide⟩, ⟨'?', rfl, by decide⟩]

/-- There is no suffix of one character where something else comes next. -/
theorem lacks_suffixSigns {leads : Char → Bool} (h : parser.Faces text)
    (hled : LedBy leads text) (hnot : ∀ c ∈ ['*', '+', '?'], leads c = false) :
    parser.Lacks ["*", "+", "?"] := by
  rw [lacks_iff_sees]
  intro rule hrule
  obtain ⟨c, rfl, hc⟩ := exists_suffixSign hrule
  have hsigns : ∀ c ∈ ['*', '+', '?'], c ∈ signChars := List.all_iff_forall_prop.1 (by decide)
  exact h.sees_sign_eq_false (hsigns c hc) hled (hnot c hc)

/-- A brace opens a range only if a number stands behind it. -/
theorem not_foresees_range (h : parser.Faces text)
    (hbrace : ∀ cs, behindGap text = '\x7b' :: cs → (lead cs).any isDigit = false) :
    parser.Foresees ["\x7b", number] false := by
  have hopening : '\x7b' ∈ signChars := by decide
  have htold : ToldBy "\x7b" (· = '\x7b') := ToldBy.sign hopening
  rw [h.foresees_iff .number .number, eq_comm, Bool.and_eq_false_iff]
  cases hsees : parser.sees "\x7b" with
  | false => exact .inl rfl
  | true =>
    rw [h.sees_eq htold, lead, Option.any_eq_true] at hsees
    obtain ⟨c, hc, heq⟩ := hsees
    obtain ⟨cs, hgap⟩ := List.head?_eq_some_iff.1 hc
    rw [of_decide_eq_true heq] at hgap
    have hmeets : Meets text ["\x7b"] ['\x7b'] cs := ⟨hgap, fun _ h => word_sign h hopening cs⟩
    exact .inr (by rw [h.rest_eq hmeets, hbrace cs hgap])

/-- Suffixes are read as they are written, in front of what is no range. -/
theorem exists_suffixes {suffixes : List Suffix} {parser : Parser}
    (hcanonical : ∀ suffix ∈ suffixes, suffix.Canonical)
    (h : parser.Faces ((renderSuffixes suffixes).toList ++ rest)) (hrest : GoesOn rest)
    (hbrace : ∀ cs, behindGap rest = '\x7b' :: cs → (lead cs).any isDigit = false) :
    ∃ after, (parser.suffixes).Gives suffixes after ∧ after.Faces rest ∧
      after.arena = parser.arena := by
  induction suffixes generalizing parser with
  | nil =>
    have hlacks := h.lacks_suffixSigns hrest.led (List.all_iff_forall_prop.1 (by decide))
    exact ⟨parser, suffixes_gives.2 (.inr ⟨hlacks, .inr ⟨h.not_foresees_range hbrace, rfl, rfl⟩⟩),
      h, rfl⟩
  | cons first others ih =>
    rw [toList_renderSuffixes_cons, List.append_assoc] at h
    have hothers {parser : Parser} (h : parser.Faces ((renderSuffixes others).toList ++ rest)) :=
      ih (fun suffix hsuffix => hcanonical suffix (List.mem_cons_of_mem _ hsuffix)) h
    have hreadable := (ledBy_suffixes others hrest).readable
    -- A suffix of one character is told by its sign.
    have hsign {c : Char} (hc : c ∈ signChars)
        (hrules : ["*", "+", "?"].filter (· ∈ [String.singleton c]) = [String.singleton c])
        (hrender : first.render.toList = [c]) (hfirst : Suffix.ofSign (String.singleton c) = first) :
        ∃ after, (parser.suffixes).Gives (first :: others) after ∧ after.Faces rest ∧
          after.arena = parser.arena := by
      rw [hrender] at h
      obtain ⟨token, middle, htakes, hrule, -, hmiddle, harena⟩ :=
        h.exists_word (Meets.sign hc _) (by simp) hrules hreadable
      obtain ⟨after, hgives, hafter, harena'⟩ := hothers hmiddle.faces
      exact ⟨after, suffixes_gives.2 (.inl ⟨token, middle, htakes, others, hgives,
        by rw [hrule, hfirst]⟩), hafter, harena'.trans harena⟩
    cases first with
    | zeroOrMore => exact hsign (c := '*') (by decide) (by decide) rfl rfl
    | oneOrMore => exact hsign (c := '+') (by decide) (by decide) rfl rfl
    | optional => exact hsign (c := '?') (by decide) (by decide) rfl rfl
    | range lower upper =>
      have hcanon := hcanonical _ List.mem_cons_self
      have hbrace : LedBy (· = '\x7b') ((Suffix.range lower upper).render.toList ++
          ((renderSuffixes others).toList ++ rest)) := by
        rw [Suffix.toList_render_range]
        exact ledBy_sign (by decide) rfl _
      have hlacks := h.lacks_suffixSigns hbrace (List.all_iff_forall_prop.1 (by decide))
      obtain ⟨hforesees, middle, hrange, hmiddle, harena⟩ := h.exists_rangeSuffix hcanon.le hreadable
      obtain ⟨after, hgives, hafter, harena'⟩ := hothers hmiddle.faces
      exact ⟨after, suffixes_gives.2 (.inr ⟨hlacks, .inl ⟨hforesees, _, middle, hrange, others,
        hgives, congrArg (· :: others) hcanon.usual⟩⟩), hafter, harena'.trans harena⟩

/-! ## Code -/

/-- A brace is seen where it comes next. -/
theorem sees_brace (h : parser.Faces ('\x7b' :: rest)) : parser.sees "\x7b" = true := by
  have hopening : '\x7b' ∈ signChars := by decide
  have htold : ToldBy "\x7b" (· = '\x7b') := ToldBy.sign hopening
  rw [h.sees_eq htold, (Meets.sign hopening rest).lead_eq]
  rfl

/-- Code that is closed is read as it is written. -/
theorem exists_codeSegment {code : CodeSegment}
    (h : parser.Faces ('\x7b' :: (code.text.toList ++ '\x7d' :: rest))) (hcode : code.Closed)
    (hreadable : Readable rest) :
    ∃ other after, (codeSegment parser).Gives other after ∧ code.text = other.text ∧
      after.Stands [] rest ∧ after.arena = parser.arena := by
  obtain ⟨text', hstands, hgap⟩ := h
  have hopening : '\x7b' ∈ signChars := by decide
  have hbrace := hgap.trans (Meets.sign hopening (code.text.toList ++ '\x7d' :: rest)).gap_eq
  obtain ⟨other, after, hgives⟩ := hstands.exists_codeSegment hbrace (hcode rest) hreadable
  obtain ⟨rest', htext, hend, hafter, harena⟩ := hstands.of_codeSegment hbrace hgives
  obtain rfl : rest = rest' := Option.some.inj ((hcode rest).symm.trans hend)
  exact ⟨other, after, hgives, String.toList_injective (List.append_cancel_right htext), hafter,
    harena⟩

/-- Code in front of an element is read as it is written: a predicate, code, both or none. -/
theorem exists_codeInFront {predicate codeBefore : Option CodeSegment}
    (h : parser.Faces (frontText predicate ['?'] ++ (frontText codeBefore [] ++ text)))
    (hpredicate : ∀ code ∈ predicate, code.Closed) (hbefore : ∀ code ∈ codeBefore, code.Closed)
    (hled : LedBy startsElement text) :
    ∃ predicate' codeBefore' after, (codeInFront parser).Gives (predicate', codeBefore') after ∧
      sameCode predicate predicate' = true ∧ sameCode codeBefore codeBefore' = true ∧
      after.Faces text ∧ after.arena = parser.arena := by
  -- Behind the predicate, or where there is none, code may come.
  have hcode {parser : Parser} {code : CodeSegment} (hclosed : code.Closed)
      (h : parser.Faces (frontText (some code) [] ++ text)) : parser.sees "\x7b" = true ∧
        ∃ other after, (codeSegment parser).Gives other after ∧ code.text = other.text ∧
          after.Faces text ∧ after.arena = parser.arena := by
    have h : parser.Faces ('\x7b' :: (code.text.toList ++ '\x7d' :: ' ' :: text)) := by
      simpa [frontText] using h
    obtain ⟨other, after, hgives, hsame, hafter, harena⟩ :=
      h.exists_codeSegment hclosed hled.space.readable
    exact ⟨h.sees_brace, other, after, hgives, hsame, hafter.faces.space, harena⟩
  have hnone {parser : Parser} (h : parser.Faces (frontText none [] ++ text)) :
      parser.sees "\x7b" = false := h.not_sees_brace hled (by decide)
  cases predicate with
  | none =>
    cases codeBefore with
    | none =>
      exact ⟨none, none, parser, codeInFront_gives.2 (.inr ⟨hnone h, rfl, rfl, rfl⟩), rfl, rfl, h,
        rfl⟩
    | some code =>
      obtain ⟨hsees, other, after, hgives, hsame, hafter, harena⟩ := hcode (hbefore code rfl) h
      have hlacks : after.Lacks ["?"] := by
        have hmark : '?' ∈ signChars := by decide
        rw [lacks_iff_sees]
        intro rule hrule
        rw [List.mem_singleton.1 hrule]
        exact hafter.sees_sign_eq_false hmark hled (by decide)
      exact ⟨none, some other, after, codeInFront_gives.2 (.inl ⟨hsees, other, after, hgives,
        .inr ⟨hlacks, rfl, rfl, rfl⟩⟩), rfl, by simp [sameCode, hsame], hafter, harena⟩
  | some code =>
    have hmark : '?' ∈ signChars := by decide
    have h : parser.Faces ('\x7b' :: (code.text.toList ++ '\x7d' :: '?' :: ' ' ::
        (frontText codeBefore [] ++ text))) := by
      simpa [frontText] using h
    obtain ⟨first, atMark, hfirst, hsame, hatMark, harena⟩ :=
      h.exists_codeSegment (hpredicate code rfl) (Meets.sign hmark _).readable
    have hreadable : Readable (' ' :: (frontText codeBefore [] ++ text)) :=
      (opens_front codeBefore [] (hled.mono fun c hc => by
        rw [startsComponent, hc, Bool.or_true])).space.readable
    obtain ⟨mark, behind, htakes, hbehind, harena'⟩ := hatMark.faces.exists_sign hmark hreadable
    have hbehind := hbehind.faces.space
    have hpredicateSame : sameCode (some code) (some first) = true := by simp [sameCode, hsame]
    cases codeBefore with
    | none =>
      exact ⟨some first, none, behind, codeInFront_gives.2 (.inl ⟨h.sees_brace, first, atMark, hfirst,
        .inl ⟨mark, behind, htakes, rfl, .inr ⟨hnone hbehind, rfl, rfl⟩⟩⟩), hpredicateSame, rfl,
        hbehind, harena'.trans harena⟩
    | some code =>
      obtain ⟨hsees, other, after, hgives, hsame', hafter, harena''⟩ :=
        hcode (hbefore code rfl) hbehind
      exact ⟨some first, some other, after, codeInFront_gives.2 (.inl ⟨h.sees_brace, first, atMark,
        hfirst, .inl ⟨mark, behind, htakes, rfl, .inl ⟨hsees, other, hgives, rfl⟩⟩⟩), hpredicateSame,
        by simp [sameCode, hsame'], hafter, (harena''.trans harena').trans harena⟩

/-- Code behind an element is read as it is written. -/
theorem exists_codeBehind {codeAfter : Option CodeSegment}
    (h : parser.Faces (behindText codeAfter ++ rest)) (hclosed : ∀ code ∈ codeAfter, code.Closed)
    (hrest : GoesOn rest) (hbare : codeAfter = none → (lead rest).any (· = '\x7b') = false) :
    ∃ codeAfter' after, (codeBehind parser).Gives codeAfter' after ∧
      sameCode codeAfter codeAfter' = true ∧ after.Faces rest ∧ after.arena = parser.arena := by
  cases codeAfter with
  | none =>
    have hsign : '\x7b' ∈ signChars := by decide
    have htold : ToldBy "\x7b" (· = '\x7b') := ToldBy.sign hsign
    have hsees : parser.sees "\x7b" = false := (h.sees_eq htold).trans (hbare rfl)
    exact ⟨none, parser, codeBehind_gives.2 (.inr ⟨hsees, rfl, rfl⟩), rfl, h, rfl⟩
  | some code =>
    have h : parser.Faces ('\x7b' :: (code.text.toList ++ '\x7d' :: rest)) := by
      have htext : behindText (some code) ++ rest =
          ' ' :: '\x7b' :: (code.text.toList ++ '\x7d' :: rest) := by simp [behindText]
      rw [htext] at h
      exact h.space
    obtain ⟨other, after, hgives, hsame, hafter, harena⟩ :=
      h.exists_codeSegment (hclosed code rfl) hrest.led.readable
    exact ⟨some other, after, codeBehind_gives.2 (.inl ⟨h.sees_brace, other, hgives, rfl⟩),
      by simp [sameCode, hsame], hafter.faces, harena⟩

end Faces

end Parser

end GrammarLang.Grammar
