import GrammarLang.Check.Compiled
import GrammarLang.Check.Diagnostic
import GrammarLang.Check.Inventory
import GrammarLang.Check.Names
import GrammarLang.CommandLine.Answer
import GrammarLang.CommandLine.Options
import GrammarLang.Grammar.Lexicon
import GrammarLang.Grammar.Literal
import GrammarLang.Grammar.Parse
import GrammarLang.Grammar.ParseError
import GrammarLang.Grammar.RegexSet
import GrammarLang.Grammar.Render
import GrammarLang.Grammar.Reply
import GrammarLang.Grammar.Suffix
import GrammarLang.Grammar.Terminal
import GrammarLang.Grammar.Tree
import GrammarLang.Grammar.Visitor
import GrammarLang.Journal
import GrammarLang.Main
import GrammarLang.Proofs.Grammar.Ahead
import GrammarLang.Proofs.Grammar.CodeClosed
import GrammarLang.Proofs.Grammar.CodeEnd
import GrammarLang.Proofs.Grammar.CodeSpelt
import GrammarLang.Proofs.Grammar.CodeWords
import GrammarLang.Proofs.Grammar.Gaps
import GrammarLang.Proofs.Grammar.Gives
import GrammarLang.Proofs.Grammar.Leads
import GrammarLang.Proofs.Grammar.Literals
import GrammarLang.Proofs.Grammar.Meets
import GrammarLang.Proofs.Grammar.Readers
import GrammarLang.Proofs.Grammar.ReadsBack
import GrammarLang.Proofs.Grammar.RegexSpelt
import GrammarLang.Proofs.Grammar.Sound
import GrammarLang.Proofs.Grammar.Spells
import GrammarLang.Proofs.Grammar.Standing
import GrammarLang.Proofs.Grammar.Steps
import GrammarLang.Proofs.Grammar.Table
import GrammarLang.Proofs.Grammar.Words
import GrammarLang.Proofs.Regex.Paired
import GrammarLang.Proofs.Regex.Rests
import GrammarLang.Proofs.Regex.Runs
import GrammarLang.Proofs.Scan.Advance
import GrammarLang.Proofs.Scan.Found
import GrammarLang.Proofs.Scan.LookAhead
import GrammarLang.Proofs.Scan.Munch
import GrammarLang.Proofs.Scan.Run
import GrammarLang.Proofs.Scan.Standing
import GrammarLang.Proofs.Scan.Tokenize
import GrammarLang.Regex.Compose
import GrammarLang.Regex.Escape
import GrammarLang.Regex.Expr
import GrammarLang.Regex.Found
import GrammarLang.Regex.Letter
import GrammarLang.Regex.Loop
import GrammarLang.Regex.Match
import GrammarLang.Regex.Meaning
import GrammarLang.Regex.Pattern
import GrammarLang.Regex.PatternText
import GrammarLang.Regex.Reader
import GrammarLang.Regex.Search
import GrammarLang.Regex.Spot
import GrammarLang.Scan.Error
import GrammarLang.Scan.Longest
import GrammarLang.Scan.RuleTable
import GrammarLang.Scan.Scanner
import GrammarLang.Scan.Token
import GrammarLang.Text.Cursor
import GrammarLang.Text.Digits
import GrammarLang.Text.Quoted
import GrammarLang.Text.Source
import GrammarLang.Text.Span
import GrammarLang.Text.Utf8
import GrammarLang.Unicode.AgeTable
import GrammarLang.Unicode.Blank
import GrammarLang.Unicode.Break
import GrammarLang.Unicode.CaseFold
import GrammarLang.Unicode.Category
import GrammarLang.Unicode.CategoryTable
import GrammarLang.Unicode.CodeSet
import GrammarLang.Unicode.Property
import GrammarLang.Unicode.PropertyName
import GrammarLang.Unicode.PropertyTable
import GrammarLang.Unicode.Ranges
import GrammarLang.Unicode.Recent
import GrammarLang.Unicode.ScriptTable
import GrammarLang.Proofs.Regex.Barred
import GrammarLang.Proofs.Scan.Invariant
import GrammarLang.Proofs.Grammar.RegexWords
import GrammarLang.Proofs.Grammar.RegexAgain
import GrammarLang.Proofs.Grammar.RegexLiteral
import GrammarLang.Proofs.Grammar.Openings
import GrammarLang.Proofs.Grammar.Rereads
import GrammarLang.Proofs.Regex.Steady
import GrammarLang.Proofs.Grammar.CodeGaps
import GrammarLang.Proofs.Grammar.Safe
import GrammarLang.Proofs.Grammar.Layout
import GrammarLang.Proofs.Grammar.Local
import GrammarLang.Proofs.Grammar.Occurrences
import GrammarLang.Proofs.Scan.Reordered
import GrammarLang.Proofs.Grammar.ByWords
import GrammarLang.Proofs.Grammar.Progress
import GrammarLang.Proofs.Grammar.Nodes
import GrammarLang.Proofs.Grammar.SpanTree
import GrammarLang.Proofs.Grammar.Shape
import GrammarLang.Proofs.Grammar.Sites
import GrammarLang.Proofs.Check.Reports
import GrammarLang.Proofs.Grammar.Interning
import GrammarLang.Proofs.Scan.Choosing
import GrammarLang.Proofs.Scan.Retry
import GrammarLang.Proofs.Scan.InSequence
import GrammarLang.Proofs.Scan.PreviousEnd
import GrammarLang.Proofs.Scan.Kept
import GrammarLang.Proofs.Text.Positions
import GrammarLang.Proofs.Scan.Pulling
import GrammarLang.Proofs.Grammar.CodeBraces
import GrammarLang.Proofs.Grammar.Modes
import GrammarLang.Proofs.Grammar.RegexSlash
import GrammarLang.Proofs.Grammar.StringLanguage
import GrammarLang.Proofs.Grammar.QuotedWords
import GrammarLang.Proofs.Grammar.StringEnds
import GrammarLang.Proofs.Grammar.Visits
import GrammarLang.Proofs.Grammar.ExactNumbers
import GrammarLang.Proofs.Regex.Verbatim
import GrammarLang.Proofs.Scan.Declarations
import GrammarLang.Proofs.Scan.Verbatim
import GrammarLang.Proofs.CommandLine.Division
import GrammarLang.Proofs.Regex.Onward
import GrammarLang.Proofs.Text.Boundaries
import GrammarLang.Proofs.Text.Limits
import GrammarLang.Proofs.Scan.WholeCharacters
