import GrammarLang.Proofs.Grammar.Calls
import GrammarLang.Proofs.Grammar.Course

/-! # The mode of each call

The parser enters a mode for a regular expression and for a piece of code and leaves it behind them.
So each of its functions is called in the same modes at all times (**`Routine.entered`**), and a run
calls it where the scanner stands at the first token set of a text in these modes
(**`Call.stands_of_reflTransGen`**). Code is read only where there is an opening brace
(**`Call.Makes.opens`**). -/

namespace GrammarLang.Grammar

open GrammarLang.Scan GrammarLang.Text Relation

/-- The modes entered where a function of the parser is called. -/
def Routine.entered : Routine → List String
  | codeTokens => [Lexicon.codeMode]
  | regexDisjunction | regexAlternative | regexTerm | regexAtom | regexClass | regexMembers =>
    [Lexicon.regexMode]
  | _ => []

namespace Parser

variable {parser after : Parser} {entered : List String} {text : List Char} {least : Nat}

/-- What is read by skipping token sets leaves the modes alone. -/
theorem Stands.behind_twins {reply : Reply Unit least parser} (h : parser.Stands entered text)
    (htwins : reply.Twins (skipping parser) anyValues reply) (hgives : reply.Gives () after) :
    ∃ text', after.Stands entered text' := by
  obtain ⟨sets, hskips⟩ := skipsAll_of_twins htwins hgives
  exact (hskips.passes h).2

theorem Stands.behind_takes {rules : List String} {token : Token} (h : parser.Stands entered text)
    (htakes : parser.Takes rules token after) : ∃ text', after.Stands entered text' := by
  obtain ⟨set, hskips, -⟩ := htakes.skips
  exact ⟨_, (h.skip hskips).stands⟩

theorem Stands.inside_takes {mode : String} {rules : List String} {token : Token}
    (h : parser.Stands entered text) (htakes : (parser.enter mode).Takes rules token after) :
    ∃ text', after.Stands (mode :: entered) text' := by
  obtain ⟨set, hskips, -⟩ := htakes.skips
  exact ⟨_, (h.skip_enter hskips).stands⟩

end Parser

namespace Call

variable {outer inner start : Call}

/-- The call is made in the modes of its function. -/
def Stands (call : Call) : Prop := ∃ text, call.parser.Stands call.routine.entered text

theorem MakesInCode.stands (h : outer.MakesInCode inner) (houter : outer.Stands) :
    inner.Stands := by
  obtain ⟨text, houter⟩ := houter
  cases h with
  | segment opens => exact houter.inside_takes opens
  | opened _ skips => exact ⟨_, (houter.skip skips).stands⟩
  | passed _ _ skips => exact ⟨_, (houter.skip skips).stands⟩

section Regex

open GrammarLang.Grammar.Parser (lawful_skipping regexAlternative_twins regexTerm_twins
  regexClass_twins)

theorem MakesInRegex.stands (h : outer.MakesInRegex inner) (houter : outer.Stands) :
    inner.Stands := by
  obtain ⟨text, houter⟩ := houter
  cases h with
  | literal opens => exact houter.inside_takes opens
  | alternative => exact ⟨text, houter⟩
  | alternatives first bar =>
    obtain ⟨text', hmiddle⟩ := houter.behind_twins
      (regexAlternative_twins (lawful_skipping _) ⟨rfl, [], .nil⟩) first
    exact hmiddle.behind_takes bar
  | term => exact ⟨text, houter⟩
  | terms _ first =>
    exact houter.behind_twins (regexTerm_twins (lawful_skipping _) ⟨rfl, [], .nil⟩) first
  | lookaround _ opens => exact houter.behind_takes opens
  | atom => exact ⟨text, houter⟩
  | classAtom => exact ⟨text, houter⟩
  | group _ _ opens => exact houter.behind_takes opens
  | members opens => exact houter.behind_takes opens
  | membersBehind opens first =>
    obtain ⟨text', hinside⟩ := houter.behind_takes opens
    exact hinside.behind_takes first
  | innerClass => exact ⟨text, houter⟩
  | behindClass _ _ _ first =>
    exact houter.behind_twins (regexClass_twins (lawful_skipping _) ⟨rfl, [], .nil⟩) first
  | behindMember _ _ _ first => exact ⟨_, (houter.skip first).stands⟩

end Regex

section Tree

open GrammarLang.Grammar.Parser (stepwise_follows)

theorem MakesInComponent.stands (h : outer.MakesInComponent inner) (houter : outer.Stands) :
    inner.Stands := by
  obtain ⟨text, houter⟩ := houter
  have hstep := stepwise_follows
  cases h with
  | codeInFront => exact ⟨text, houter⟩
  | element front named =>
    exact ((hstep.codeInFront front).trans (hstep.labelName named) text houter).1
  | suffixes front named read =>
    exact (((hstep.codeInFront front).trans (hstep.labelName named)).trans (hstep.element read)
      text houter).1
  | codeBehind front named read counted =>
    exact ((((hstep.codeInFront front).trans (hstep.labelName named)).trans
      (hstep.element read)).trans (hstep.suffixes counted) text houter).1
  | firstCode => exact ⟨text, houter⟩
  | secondCode _ first mark => exact ((hstep.code first).trans (hstep.takes mark) text houter).1
  | lastCode => exact ⟨text, houter⟩
  | behindSign sign => exact houter.behind_takes sign
  | behindRange _ _ first => exact (hstep.rangeSuffix first text houter).1
  | regex => exact ⟨text, houter⟩

theorem MakesInTree.stands (h : outer.MakesInTree inner) (houter : outer.Stands) :
    inner.Stands := by
  obtain ⟨text, houter⟩ := houter
  have hstep := stepwise_follows
  cases h with
  | productions started named opens =>
    exact ((started.follows.trans named.follows).trans opens.follows text houter).1
  | production => exact ⟨text, houter⟩
  | moreProductions _ first => exact (hstep.production first text houter).1
  | branches named starts => exact (named.follows.trans starts.follows text houter).1
  | branch => exact ⟨text, houter⟩
  | moreBranches first bar =>
    have hcomponents := hstep.components (Parser.branch_gives.1 first).1
    exact (hcomponents.trans bar.follows text houter).1
  | components => exact ⟨text, houter⟩
  | component => exact ⟨text, houter⟩
  | moreComponents _ first => exact (hstep.component first text houter).1
  | negated sign => exact houter.behind_takes sign
  | grouped _ opens => exact houter.behind_takes opens
  | terminal => exact ⟨text, houter⟩

end Tree

/-- Calls that are made in their modes make calls in theirs. -/
theorem Makes.stands (h : outer.Makes inner) (houter : outer.Stands) : inner.Stands := by
  cases h with
  | code made => exact made.stands houter
  | regex made => exact made.stands houter
  | component made => exact made.stands houter
  | tree made => exact made.stands houter

/-- Every call that comes of one in its modes is made in its own. -/
theorem stands_of_reflTransGen (h : ReflTransGen Makes start inner) (hstart : start.Stands) :
    inner.Stands := by
  induction h with
  | refl => exact hstart
  | tail _ made ih => exact made.stands ih

/-- Code is read only where it is opened. -/
theorem Makes.opens (h : outer.Makes inner) (hcode : inner.routine = .codeSegment) :
    inner.parser.sees "\x7b" = true := by
  cases h with
  | code made => cases made <;> contradiction
  | regex made => cases made <;> contradiction
  | tree made => cases made <;> contradiction
  | component made =>
    cases made with
    | firstCode opens => exact opens
    | secondCode _ _ _ opensAgain => exact opensAgain
    | lastCode opens => exact opens
    | _ => contradiction

end Call

/-- Wherever a run reads code, it stands at an opening brace outside of code and of regular
expressions. -/
theorem stands_of_codeSegment {start parser : Parser} {text : List Char}
    (hstart : start.Stands [] text)
    (h : ReflTransGen Call.Makes (.on .wholeGrammar start) (.on .codeSegment parser)) :
    (∃ text', parser.Stands [] text') ∧ parser.sees "\x7b" = true := by
  refine ⟨Call.stands_of_reflTransGen h ⟨text, hstart⟩, ?_⟩
  obtain hsame | ⟨outer, -, hlast⟩ := h.cases_tail
  · cases hsame
  · exact hlast.opens rfl

end GrammarLang.Grammar
