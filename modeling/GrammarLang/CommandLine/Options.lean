/-! # Options of the command line

The arguments of the program fall, from left to right, into words that ask for something to be
shown, the word `--errors` with a setting behind it, and paths. **`Argument.readAll`** divides them
up, **`Options.parse`** makes **`Options`** of them; there has to be exactly one path. -/

namespace GrammarLang.CommandLine

/-- What can be shown of a grammar. -/
inductive Showing
  /-- The tokens it was read from. -/
  | tokens
  /-- The grammar as it is written. -/
  | tree
  /-- Its terminals. -/
  | terminals
  /-- The names of its productions. -/
  | productions
  deriving DecidableEq, Repr, Inhabited

/-- One argument, together with the setting that belongs to it. -/
inductive Argument
  /-- Asks for something to be shown. -/
  | showing (what : Showing)
  /-- Says whether problems are shown. -/
  | errors (shown : Bool)
  /-- Names a file. -/
  | path (path : String)
  deriving DecidableEq, Repr, Inhabited

/-- Why arguments make no sense. -/
inductive UsageError
  /-- The setting behind `--errors` is unknown. -/
  | unknownSetting (setting : String)
  /-- There is no setting behind `--errors`. -/
  | missingSetting
  /-- An argument with two dashes in front is unknown. -/
  | unknownFlag (flag : String)
  /-- No file is named. -/
  | noPath
  /-- More than one file is named. -/
  | manyPaths
  deriving DecidableEq, Repr, Inhabited

/-- The failure in words. -/
def UsageError.message : UsageError → String
  | .unknownSetting setting => s!"Unexpected argument to --errors: '{setting}'"
  | .missingSetting => "Expected 'on' or 'off' after --errors"
  | .unknownFlag flag => s!"Unknown flag '{flag}'"
  | .noPath => "No file provided"
  | .manyPaths => "Only one file may be provided"

/-- The word that asks for something to be shown. -/
def Showing.flag : Showing → String
  | .tokens => "--tokens"
  | .tree => "--ast"
  | .terminals => "--terminals"
  | .productions => "--productions"

/-- What a word asks to be shown, if it does. -/
def Showing.ofFlag? (word : String) : Option Showing :=
  [tokens, tree, terminals, productions].find? fun what => what.flag = word

/-- Whether a word has two dashes in front. -/
def hasDashes (word : String) : Bool := ['-', '-'].isPrefixOf word.toList

namespace Argument

/-- The words of an argument. -/
def words : Argument → List String
  | showing what => [what.flag]
  | errors true => ["--errors", "on"]
  | errors false => ["--errors", "off"]
  | path name => [name]

/-- Divides words into arguments; the first word that fits nowhere decides the failure. -/
def readAll : List String → Except UsageError (List Argument)
  | [] => .ok []
  | ["--errors"] => .error .missingSetting
  | "--errors" :: setting :: rest =>
    match setting with
    | "on" => (readAll rest).map (errors true :: ·)
    | "off" => (readAll rest).map (errors false :: ·)
    | _ => .error (.unknownSetting setting)
  | word :: rest =>
    match Showing.ofFlag? word with
    | some what => (readAll rest).map (showing what :: ·)
    | none =>
      if hasDashes word then .error (.unknownFlag word)
      else (readAll rest).map (path word :: ·)

/-- The path of an argument that is one. -/
def path? : Argument → Option String
  | path name => some name
  | _ => none

/-- The setting of an argument that says whether problems are shown. -/
def errors? : Argument → Option Bool
  | errors shown => some shown
  | _ => none

end Argument

/-- What the program is asked to do. -/
structure Options where
  /-- Whether the tokens are shown. -/
  tokens : Bool
  /-- Whether the grammar is shown. -/
  tree : Bool
  /-- Whether the terminals are shown. -/
  terminals : Bool
  /-- Whether the names of the productions are shown. -/
  productions : Bool
  /-- Whether problems are shown. -/
  errors : Bool
  /-- The file with the grammar. -/
  path : String
  deriving DecidableEq, Repr, Inhabited

namespace Options

/-- The options that some arguments give for a path. Of several settings the last one counts. -/
def ofArguments (arguments : List Argument) (path : String) : Options where
  tokens := arguments.contains (.showing .tokens)
  tree := arguments.contains (.showing .tree)
  terminals := arguments.contains (.showing .terminals)
  productions := arguments.contains (.showing .productions)
  errors := (arguments.filterMap Argument.errors?).getLast?.getD true
  path := path

/-- The options that the words of a command line give. -/
def parse (words : List String) : Except UsageError Options := do
  let arguments ← Argument.readAll words
  match arguments.filterMap Argument.path? with
  | [] => .error .noPath
  | [path] => .ok (ofArguments arguments path)
  | _ => .error .manyPaths

end Options

end GrammarLang.CommandLine
