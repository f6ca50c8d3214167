import GrammarLang.Proofs.Grammar.Ahead
import GrammarLang.Proofs.Grammar.Course
import Mathlib.Data.List.Forall2

/-! # Two runs abreast

Two texts are compared whose token sets have the same words and stand at different places. Token sets
are **`Alike`** if their words are the same and the same of them are flags, which only their places
tell. Two parsers, each on the course of its own run, are **`Parser.Level`** if what is still to come
for the one is like what is still to come for the other, and **`Parser.Abreast`** if they are in the
same modes, too, and have met the same terminals.

Both then see the same rules and take the same tokens (**`Parser.Abreast.takes`**). Code and regular
expressions end for both at the same token set, since each of the two could be followed by the other
up to the end that comes first (**`Parser.Abreast.of_skipping`**). -/

namespace GrammarLang.Grammar

open GrammarLang.Scan GrammarLang.Text

open Lexicon (ident)

/-! ## Token sets that are alike -/

/-- The rules and texts of a token set: all of it but its place. -/
def wordsOf (set : TokenSet) : List (String × String) :=
  set.toList.map fun token => (token.rule, token.text)

/-- Whether a token set is a name that touches the slash in front of it. The slash then closes a
regular expression, as no name stands right behind one that opens it. -/
def flagged (slash name : TokenSet) : Bool :=
  slash.contains "/" && name.contains ident && slash.first.span.stop = name.first.span.start

/-- For each token set but the first, whether it is a name that touches the slash in front of it. -/
def flaggings : List TokenSet → List Bool
  | slash :: name :: others => flagged slash name :: flaggings (name :: others)
  | _ => []

/-- Token sets have the same words and the same flags, wherever they stand. -/
structure Alike (sets sets' : List TokenSet) : Prop where
  /-- Their words are the same. -/
  words : sets.map wordsOf = sets'.map wordsOf
  /-- The same of them are flags. -/
  flaggings : flaggings sets = flaggings sets'

namespace Alike

variable {sets sets' further further' : List TokenSet} {set set' : TokenSet}

theorem symm (h : Alike sets sets') : Alike sets' sets := ⟨h.words.symm, h.flaggings.symm⟩

theorem length_eq (h : Alike sets sets') : sets.length = sets'.length := by
  simpa using congrArg List.length h.words

theorem tail (h : Alike (set :: sets) (set' :: sets')) : Alike sets sets' := by
  obtain ⟨hwords, hflaggings⟩ := h
  refine ⟨(List.cons.inj hwords).2, ?_⟩
  -- Where one of them has another token set, so has the other.
  have hlength := congrArg List.length hwords
  cases sets with
  | nil =>
    cases sets' with
    | nil => rfl
    | cons => simp at hlength
  | cons =>
    cases sets' with
    | nil => simp at hlength
    | cons => exact (List.cons.inj hflaggings).2

/-- What stands behind equally many token sets is alike. -/
theorem append_right (hlength : sets.length = sets'.length)
    (h : Alike (sets ++ further) (sets' ++ further')) : Alike further further' := by
  induction sets generalizing sets' with
  | nil =>
    obtain rfl := List.eq_nil_of_length_eq_zero hlength.symm
    exact h
  | cons set sets ih =>
    obtain ⟨set', sets', rfl⟩ := List.exists_cons_of_length_eq_add_one hlength.symm
    exact ih (Nat.succ.inj hlength) h.tail

/-- The words in front are the same. -/
theorem words_left (hlength : sets.length = sets'.length)
    (h : Alike (sets ++ further) (sets' ++ further')) : sets.map wordsOf = sets'.map wordsOf := by
  have hwords := h.words
  rw [List.map_append, List.map_append] at hwords
  exact List.append_inj_left hwords (by simpa using hlength)

end Alike

/-- Token sets with the same words make up the same text. -/
theorem textOfSets_eq_of_words {sets sets' : List TokenSet}
    (h : sets.map wordsOf = sets'.map wordsOf) : textOfSets sets = textOfSets sets' := by
  have htexts (sets : List TokenSet) : textOfSets sets =
      (sets.map wordsOf).flatMap fun words => (words.head?.elim "" Prod.snd).toList := by
    rw [List.flatMap_map]
    rfl
  rw [htexts, htexts, h]

/-- Two tokens are the same but for their place. -/
structure SameToken (token token' : Token) : Prop where
  /-- They are of the same rule. -/
  rule_eq : token'.rule = token.rule
  /-- They have the same text. -/
  text_eq : token'.text = token.text
  /-- They stand for the same. -/
  value_eq : token'.value = token.value

/-- The value of a token is what its rule makes of its text. -/
def Decoded (token : Token) : Prop :=
  match Lexicon.decoderOf token.rule with
  | some decoder => decoder token.text = .ok token.value
  | none => token.value = .text token.text

/-- So a token is known by its rule and its text. -/
theorem Decoded.sameToken {token token' : Token} (h : Decoded token) (h' : Decoded token')
    (hword : (token.rule, token.text) = (token'.rule, token'.text)) : SameToken token token' := by
  obtain ⟨hrule, htext⟩ := Prod.mk.inj hword
  refine ⟨hrule.symm, htext.symm, ?_⟩
  rw [Decoded, hrule, htext] at h
  rw [Decoded] at h'
  cases hdecoder : Lexicon.decoderOf token'.rule with
  | none =>
    rw [hdecoder] at h h'
    exact h'.trans h.symm
  | some decoder =>
    rw [hdecoder] at h h'
    exact Except.ok.inj (h'.symm.trans h)

namespace Parser

variable {all all' rest rest' sets sets' : List TokenSet} {entered entered' : List String}
  {parser twin middle middle' after after' : Parser} {set set' : TokenSet}

/-! ## Parsers that are level -/

/-- What is still to come is alike for both parsers, each on the course of its own run. -/
def Level (all all' : List TokenSet) (parser twin : Parser) : Prop :=
  ∃ rest rest', parser.Awaits all rest ∧ twin.Awaits all' rest' ∧ Alike rest rest'

namespace Level

theorem symm (h : Level all all' parser twin) : Level all' all twin parser := by
  obtain ⟨rest, rest', hrest, hrest', halike⟩ := h
  exact ⟨rest', rest, hrest', hrest, halike.symm⟩

/-- Behind equally many token sets the parsers are level again, and these have the same words. -/
theorem along (h : Level all all' parser twin) (hpasses : parser.Passes sets after)
    (hpasses' : twin.Passes sets' after') (hlength : sets.length = sets'.length)
    (hafter : ∃ rest, after.Awaits all rest) (hafter' : ∃ rest', after'.Awaits all' rest') :
    Level all all' after after' ∧ sets.map wordsOf = sets'.map wordsOf := by
  obtain ⟨rest, rest', hrest, hrest', halike⟩ := h
  obtain ⟨further, hfurther⟩ := hafter
  obtain ⟨further', hfurther'⟩ := hafter'
  obtain rfl := hrest.eq_append hpasses hfurther
  obtain rfl := hrest'.eq_append hpasses' hfurther'
  exact ⟨⟨further, further', hfurther, hfurther', halike.append_right hlength⟩,
    halike.words_left hlength⟩

/-- Between two places where they are level, the parsers pass equally many token sets. -/
theorem length_eq (h : Level all all' parser twin) (hafter : Level all all' after after')
    (hpasses : parser.Passes sets after) (hpasses' : twin.Passes sets' after') :
    sets.length = sets'.length := by
  obtain ⟨rest, rest', hrest, hrest', halike⟩ := h
  obtain ⟨further, further', hfurther, hfurther', hfurtherAlike⟩ := hafter
  have hlength := halike.length_eq
  rw [hrest.eq_append hpasses hfurther, hrest'.eq_append hpasses' hfurther', List.length_append,
    List.length_append, hfurtherAlike.length_eq] at hlength
  exact Nat.add_right_cancel hlength

/-- The parsers stand at the same words. -/
theorem words_current (h : Level all all' parser twin) :
    (parser.scanner.currentTokens.map fun token => (token.rule, token.text)) =
      twin.scanner.currentTokens.map fun token => (token.rule, token.text) := by
  obtain ⟨rest, rest', hrest, hrest', halike⟩ := h
  rw [Scanner.currentTokens, Scanner.currentTokens, hrest.current, hrest'.current]
  cases rest with
  | nil =>
    obtain rfl := List.eq_nil_of_length_eq_zero halike.length_eq.symm
    rfl
  | cons set rest =>
    obtain ⟨set', rest', rfl⟩ := List.exists_cons_of_length_eq_add_one halike.length_eq.symm
    exact (List.cons.inj halike.words).1

/-- They see the same rules. -/
theorem sees_eq (h : Level all all' parser twin) (rule : String) :
    twin.sees rule = parser.sees rule := by
  have hany (tokens : List Token) : (tokens.any fun token => token.rule = rule) =
      (tokens.map fun token => (token.rule, token.text)).any fun word => word.1 = rule := by
    rw [List.any_map]
    rfl
  rw [sees_eq_any, sees_eq_any, hany, hany, h.words_current]

theorem seesAny_eq (h : Level all all' parser twin) (rules : List String) :
    twin.seesAny rules = parser.seesAny rules := by
  have hsees : twin.scanner.matchesRule = parser.scanner.matchesRule := funext h.sees_eq
  rw [seesAny, Scanner.matchesAny, hsees]
  rfl

/-- Where there is something to take for one of them, there is for the other. -/
theorem lacks_iff (h : Level all all' parser twin) {rules : List String} :
    twin.Lacks rules ↔ parser.Lacks rules := by
  rw [lacks_iff_sees, lacks_iff_sees]
  exact forall₂_congr fun rule _ => by rw [h.sees_eq]

/-- If the one takes a token, the other does not do without. -/
theorem of_takes {rules : List String} {token : Token} {taken absent : Prop}
    (h : Level all all' parser twin) (htakes : parser.Takes rules token after)
    (hcases : taken ∨ twin.Lacks rules ∧ absent) : taken := by
  refine hcases.resolve_right fun ⟨hlacks, _⟩ => ?_
  have hnone : parser.scanner.alternatives rules = [] := h.lacks_iff.1 hlacks
  exact absurd (htakes.1.symm.trans hnone) (List.cons_ne_nil _ _)

/-- If the one has nothing to take, neither has the other. -/
theorem not_takes {rules : List String} {token : Token} (h : Level all all' parser twin)
    (hlacks : parser.Lacks rules) : ¬ twin.Takes rules token after' := by
  intro htakes
  have hnone : twin.scanner.alternatives rules = [] := h.lacks_iff.2 hlacks
  exact absurd (htakes.1.symm.trans hnone) (List.cons_ne_nil _ _)

theorem of_lacks {rules : List String} {taken : Token → Parser → Prop} {absent : Prop}
    (h : Level all all' parser twin) (hlacks : parser.Lacks rules)
    (hcases : (∃ token after, twin.Takes rules token after ∧ taken token after) ∨
      twin.Lacks rules ∧ absent) : absent :=
  (hcases.resolve_left fun ⟨_, _, htakes, _⟩ => h.not_takes hlacks htakes).2

/-- Names behind slashes that are passed are flags for both or for neither. -/
theorem flagged_eq {slash slash' name name' : TokenSet} (h : Level all all' parser twin)
    (hpasses : parser.Passes [slash] after) (hpasses' : twin.Passes [slash'] after')
    (hafter : ∃ rest, after.Awaits all rest) (hafter' : ∃ rest', after'.Awaits all' rest')
    (hname : after.scanner.current = some name) (hname' : after'.scanner.current = some name') :
    flagged slash name = flagged slash' name' := by
  obtain ⟨rest, rest', hrest, hrest', halike⟩ := h
  obtain ⟨further, hfurther⟩ := hafter
  obtain ⟨further', hfurther'⟩ := hafter'
  obtain rfl := hrest.eq_append hpasses hfurther
  obtain rfl := hrest'.eq_append hpasses' hfurther'
  obtain ⟨others, rfl⟩ := List.head?_eq_some_iff.1 (hfurther.current.symm.trans hname)
  obtain ⟨others', rfl⟩ := List.head?_eq_some_iff.1 (hfurther'.current.symm.trans hname')
  exact (List.cons.inj halike.flaggings).1

end Level

/-! ## Parsers that are abreast -/

/-- Both parsers are level, in the same modes, and have met the same terminals. -/
structure Abreast (all all' : List TokenSet) (entered : List String) (parser twin : Parser) :
    Prop where
  /-- The parser stands somewhere in its text. -/
  left : ∃ text, parser.Stands entered text
  /-- The twin stands somewhere in its own. -/
  right : ∃ text, twin.Stands entered text
  /-- What is still to come is alike. -/
  level : Level all all' parser twin
  /-- They have met the same terminals. -/
  arena_eq : twin.arena = parser.arena

namespace Abreast

theorem symm (h : Abreast all all' entered parser twin) : Abreast all' all entered twin parser :=
  ⟨h.right, h.left, h.level.symm, h.arena_eq.symm⟩

theorem courseLeft (h : Abreast all all' [] parser twin) : parser.OnCourse all := by
  obtain ⟨rest, -, hrest, -⟩ := h.level
  exact ⟨h.left, rest, hrest⟩

theorem courseRight (h : Abreast all all' [] parser twin) : twin.OnCourse all' := by
  obtain ⟨-, rest', -, hrest', -⟩ := h.level
  exact ⟨h.right, rest', hrest'⟩

/-- The current tokens are the same but for their places. -/
theorem forall₂_current (h : Abreast all all' entered parser twin) :
    List.Forall₂ SameToken parser.scanner.currentTokens twin.scanner.currentTokens := by
  have hdecoded {one : Parser} (hone : ∃ text, one.Stands entered text) :
      ∀ token ∈ one.scanner.currentTokens, Decoded token := by
    obtain ⟨text, hstands⟩ := hone
    intro token hmem
    cases hcurrent : one.scanner.current with
    | none => simp [Scanner.currentTokens, hcurrent] at hmem
    | some set =>
      rw [Scanner.currentTokens, hcurrent] at hmem
      exact hstands.value_eq hcurrent hmem
  have hleft := hdecoded h.left
  have hright := hdecoded h.right
  -- By induction on the tokens, whose words are the same one by one.
  have hwords := h.level.words_current
  generalize parser.scanner.currentTokens = tokens at hleft hwords
  generalize twin.scanner.currentTokens = tokens' at hright hwords
  induction tokens generalizing tokens' with
  | nil =>
    obtain rfl := List.map_eq_nil_iff.1 hwords.symm
    exact .nil
  | cons token tokens ih =>
    obtain ⟨token', others', rfl, hword, hothers⟩ := List.map_eq_cons_iff.1 hwords.symm
    obtain ⟨htoken, htokens⟩ := List.forall_mem_cons.1 hleft
    obtain ⟨htoken', htokens'⟩ := List.forall_mem_cons.1 hright
    exact .cons (htoken.sameToken htoken' hword.symm) (ih htokens _ htokens' hothers.symm)

/-- Behind a token set each, the parsers are abreast again if they are in the same modes. -/
theorem along (h : Abreast all all' entered parser twin) (hpasses : parser.Passes [set] after)
    (hpasses' : twin.Passes [set'] after') (harena : after.arena = parser.arena)
    (harena' : after'.arena = twin.arena) (hstands : ∃ text, after.Stands entered' text)
    (hstands' : ∃ text, after'.Stands entered' text) (hafter : ∃ rest, after.Awaits all rest)
    (hafter' : ∃ rest', after'.Awaits all' rest') : Abreast all all' entered' after after' :=
  ⟨hstands, hstands', (h.level.along hpasses hpasses' rfl hafter hafter').1,
    (harena'.trans h.arena_eq).trans harena.symm⟩

/-- Both take the same token. -/
theorem takes {rules : List String} {token token' : Token} (h : Abreast all all' [] parser twin)
    (htakes : parser.Takes rules token after) (htakes' : twin.Takes rules token' after')
    (hafter : after.OnCourse all) (hafter' : after'.OnCourse all') :
    Abreast all all' [] after after' ∧ SameToken token token' := by
  obtain ⟨text, hparser⟩ := h.left
  obtain ⟨text', htwin⟩ := h.right
  obtain ⟨set, hskips, -⟩ := htakes.skips
  obtain ⟨set', hskips', -⟩ := htakes'.skips
  refine ⟨h.along (hparser.passes_skip hskips) (htwin.passes_skip hskips') hskips.arena_eq
    hskips'.arena_eq hafter.stands hafter'.stands hafter.awaits hafter'.awaits, ?_⟩
  -- There is one token to choose from for each of them, and these two are the same.
  have hsame : List.Forall₂ SameToken (parser.scanner.alternatives rules)
      (twin.scanner.alternatives rules) := by
    rw [Scanner.alternatives, Scanner.alternatives]
    refine List.rel_flatMap (List.forall₂_same.2 fun _ _ => rfl) ?_
    rintro rule _ rfl
    exact forall₂_filter_rule SameToken.rule_eq h.forall₂_current rule
  rw [htakes.1, htakes'.1] at hsame
  cases hsame with
  | cons htoken _ => exact htoken

/-- Adding the same terminal keeps the parsers abreast, and gives it the same place. -/
theorem intern {terminal : Terminal} {id id' : TerminalId} (h : Abreast all all' [] middle middle')
    (hintern : (middle.intern terminal).Gives id after)
    (hintern' : (middle'.intern terminal).Gives id' after') :
    Abreast all all' [] after after' ∧ id = id' := by
  obtain ⟨rfl, rfl⟩ := gives_intern.1 hintern
  obtain ⟨rfl, rfl⟩ := gives_intern.1 hintern'
  obtain ⟨⟨text, hleft⟩, ⟨text', hright⟩, ⟨rest, rest', hrest, hrest', halike⟩, harena⟩ := h
  rw [harena]
  exact ⟨⟨⟨text, hleft.table, hleft.entered_eq, hleft.at_text⟩,
    ⟨text', hright.table, hright.entered_eq, hright.at_text⟩,
    ⟨rest, rest', ⟨hrest.current, hrest.recorded⟩, ⟨hrest'.current, hrest'.recorded⟩, halike⟩, rfl⟩,
    rfl⟩

end Abreast

/-! ## Where code and regular expressions end -/

/-- Where no token set is skipped, the parser stays where it is. -/
theorem SkipsAll.eq_of_nil (h : parser.SkipsAll [] after) : parser = after := by
  generalize hsets : ([] : List TokenSet) = sets at h
  cases h with
  | nil => rfl
  | snoc => exact absurd hsets.symm (List.append_ne_nil_of_right_ne_nil _ (List.cons_ne_nil _ _))

/-- Of several token sets the first is skipped first. -/
theorem SkipsAll.exists_first (h : parser.SkipsAll (set :: sets) after) :
    ∃ middle, parser.Skips set middle ∧ middle.SkipsAll sets after := by
  generalize hall : set :: sets = whole at h
  induction h generalizing set sets with
  | nil => contradiction
  | @snoc earlierSets lastSet last after earlier hlast ih =>
    cases earlierSets with
    | nil =>
      obtain ⟨rfl, rfl⟩ := List.cons.inj hall
      obtain rfl := earlier.eq_of_nil
      exact ⟨after, hlast, .nil⟩
    | cons first others =>
      obtain ⟨rfl, rfl⟩ := List.cons.inj hall
      obtain ⟨middle, hfirst, hothers⟩ := ih rfl
      exact ⟨middle, hfirst, hothers.snoc hlast⟩

/-- Two parsers are abreast on the way to two states, and the first comes to its own no later than the
second one. It is followed up to there. -/
def tandem (all all' : List TokenSet) (entered : List String) (last last' : Parser) : Twinning where
  beside parser twin := Abreast all all' entered parser twin ∧ ∃ sets sets',
    parser.SkipsAll sets last ∧ twin.SkipsAll sets' last' ∧ sets.length ≤ sets'.length
  horizon := last.remaining
  lenient := True
  failures _ _ := True
  tokens := SameToken
  spans _ _ := True
  terminals _ _ _ _ := True
  lenient_of_horizon _ := trivial

theorem lawful_tandem {last last' : Parser} (hlast : ∃ rest, last.Awaits all rest)
    (hlast' : ∃ rest', last'.Awaits all' rest') : (tandem all all' entered last last').Lawful where
  current h := h.1.forall₂_current
  same h := ⟨h.rule_eq, h.text_eq, h.value_eq⟩
  single _ _ := .inl trivial
  next := by
    rintro parser twin ⟨habreast, sets, sets', hsets, hsets', hle⟩ hcurrent
    split
    · rename_i scanner hnext
      have hskips (set) (hset : parser.scanner.current = some set) :
          parser.Skips set (parser.withScanner scanner) := ⟨hset, scanner, hnext, rfl⟩
      cases sets with
      | nil =>
        -- The parser is at its end already, and goes beyond.
        obtain rfl := hsets.eq_of_nil
        cases hset : parser.scanner.current with
        | none => simp [Scanner.currentTokens, hset] at hcurrent
        | some set => exact .inl (hskips set hset).remaining_le
      | cons set sets =>
        -- Both skip the first of the token sets that lead to their ends.
        obtain ⟨set', sets', rfl⟩ := List.exists_cons_of_length_pos (Nat.lt_of_lt_of_le
          (Nat.zero_lt_succ _) hle)
        obtain ⟨middle, hfirst, hothers⟩ := hsets.exists_first
        obtain ⟨middle', ⟨hset', scanner', hnext', rfl⟩, hothers'⟩ := hsets'.exists_first
        obtain rfl : parser.withScanner scanner = middle := by
          obtain ⟨-, _, hnext'', rfl⟩ := hfirst
          cases hnext.symm.trans hnext''
          rfl
        refine .inr ⟨scanner', hnext', ?_, sets, sets', hothers, hothers', Nat.le_of_succ_le_succ hle⟩
        obtain ⟨text, hparser⟩ := habreast.left
        obtain ⟨text', htwin⟩ := habreast.right
        have hfirst' : twin.Skips set' (twin.withScanner scanner') := ⟨hset', scanner', hnext', rfl⟩
        have hmiddle := (hparser.skip hfirst).stands
        have hmiddle' := (htwin.skip hfirst').stands
        have hpasses := hparser.passes_skip hfirst
        have hpasses' := htwin.passes_skip hfirst'
        obtain ⟨rest, rest', hrest, hrest', -⟩ := habreast.level
        obtain ⟨further, hfurther⟩ := hlast
        obtain ⟨further', hfurther'⟩ := hlast'
        exact habreast.along hpasses hpasses' hfirst.arena_eq hfirst'.arena_eq ⟨_, hmiddle⟩
          ⟨_, hmiddle'⟩ ⟨_, (hrest.between hpasses (hothers.passes hmiddle).1 hfurther).2⟩
          ⟨_, (hrest'.between hpasses' (hothers'.passes hmiddle').1 hfurther').2⟩
    · exact .inl trivial
  unexpected _ _ := .inl trivial

/-- What is read by skipping token sets ends abreast where it starts abreast: up to the first of the two
ends, the one run does what the other one does, and there it ends as well. -/
theorem Abreast.of_skipping {read : (parser : Parser) → Reply Unit 0 parser}
    (hread : ∀ {twinning : Twinning}, twinning.Lawful → ∀ {parser twin : Parser},
      twinning.beside parser twin → (read parser).Twins twinning anyValues (read twin))
    (h : Abreast all all' entered parser twin) (hgives : (read parser).Gives () after)
    (hgives' : (read twin).Gives () after') (hsets : parser.SkipsAll sets after)
    (hsets' : twin.SkipsAll sets' after') (hafter : ∃ rest, after.Awaits all rest)
    (hafter' : ∃ rest', after'.Awaits all' rest') : Abreast all all' entered after after' := by
  -- The run that comes to its end first is the one to be followed.
  rcases Nat.le_total sets.length sets'.length with hle | hle
  · obtain ⟨_, last, hlast, ⟨habreast, -⟩, -⟩ := (hread (lawful_tandem hafter hafter')
      ⟨h, sets, sets', hsets, hsets', hle⟩).exists_gives hgives (Nat.le_refl _)
    rwa [(hlast.unique hgives').2] at habreast
  · obtain ⟨_, last, hlast, ⟨habreast, -⟩, -⟩ := (hread (lawful_tandem hafter' hafter)
      ⟨h.symm, sets', sets, hsets', hsets, hle⟩).exists_gives hgives' (Nat.le_refl _)
    rw [(hlast.unique hgives).2] at habreast
    exact habreast.symm

end Parser

end GrammarLang.Grammar
