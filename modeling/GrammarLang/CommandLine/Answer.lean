import GrammarLang.Check.Compiled
import GrammarLang.CommandLine.Options
import GrammarLang.Grammar.Parse
import GrammarLang.Grammar.Render

/-! # Answers to a command line

**`answer`** says what the program writes for a command line, and whether it succeeds, given what
can be read from each path. Problems with a grammar are told before anything is shown of it; a
grammar that cannot be read at all shows nothing. -/

namespace GrammarLang.CommandLine

open GrammarLang.Check GrammarLang.Grammar GrammarLang.Scan GrammarLang.Text

/-- Why no text can be read from a path. -/
inductive ReadError
  /-- There is nothing. -/
  | missing
  /-- There is a directory. -/
  | directory
  /-- There are bytes that are no text. -/
  | notText
  /-- Some other reason of the system. -/
  | system (reason : String)
  deriving DecidableEq, Repr, Inhabited

/-- The failure in words. -/
def ReadError.message : ReadError → String
  | .missing => "No such file or directory (os error 2)"
  | .directory => "Is a directory (os error 21)"
  | .notText => "stream did not contain valid UTF-8"
  | .system reason => reason

/-- What the program does. -/
structure Answer where
  /-- What it writes as output. -/
  output : String
  /-- What it writes about problems. -/
  problems : String
  /-- Whether it succeeds. -/
  success : Bool
  deriving DecidableEq, Repr, Inhabited

/-- The code that tells the system whether the program succeeded. -/
def Answer.exitCode (answer : Answer) : Nat := if answer.success then 0 else 1

/-- The answer that there is a problem, and nothing else. -/
def refusal (problem : String) : Answer := ⟨"", problem ++ "\n", false⟩

/-- A token set on a line of its own: where it stands, the rules, and the text. -/
def renderTokens (source : Source) (set : TokenSet) : String :=
  (source.position set.first.span.start).render ++ " " ++ "|".intercalate set.rules ++ " " ++
    quotedString set.first.text ++ "\n"

/-- A terminal of an inventory on a line of its own. -/
def renderTerminal (entry : TerminalId × Terminal) : String :=
  s!"{entry.1.render} {entry.2.kindName} {entry.2.render}\n"

/-- What is shown of a grammar that was read from some tokens. -/
def display (options : Options) (source : Source) (tokens : List TokenSet) (compiled : Compiled) :
    String :=
  (if options.tokens then String.join (tokens.map (renderTokens source)) else "") ++
  (if options.tree then compiled.grammar.render ++ "\n" else "") ++
  (if options.terminals then
    String.join ((compiled.inventory.terminalsIn compiled.grammar.arena).map renderTerminal)
  else "") ++
  (if options.productions then
    String.join (compiled.inventory.productions.toList.map fun name => name ++ "\n")
  else "")

/-- A failure to parse the text under a path, on a line of its own. -/
def renderFailure (path : String) (error : ParseError) : String :=
  match error.position? with
  | some position => s!"{path}:{position.render} {error.message}\n"
  | none => s!"{path}: {error.message}\n"

/-- The answer for a text that was read. -/
def answerText (options : Options) (text : String) : Answer :=
  let source := Source.ofString text
  match (parseWithTokens source).result with
  | .error error =>
    { output := ""
      problems := if options.errors then renderFailure options.path error else ""
      success := false }
  | .ok (grammar, tokens) =>
    let compiled := Compiled.ofGrammar grammar
    { output := display options source tokens compiled
      problems :=
        if options.errors then compiled.diagnostics.render options.path source else ""
      success := !compiled.diagnostics.hasErrors }

/-- The answer to the words of a command line, where `read` says what is found under a path. -/
def answer {m : Type → Type} [Monad m] (read : String → m (Except ReadError String))
    (words : List String) : m Answer := do
  match Options.parse words with
  | .error error => return refusal error.message
  | .ok options =>
    match ← read options.path with
    | .error error => return refusal s!"Failed to read `{options.path}`: {error.message}"
    | .ok text => return answerText options text

end GrammarLang.CommandLine
