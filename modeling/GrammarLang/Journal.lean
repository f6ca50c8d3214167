/-! # Journals

A **`Journal`** is what a run has to tell beside its result: lines of text, each with the level of
detail that it belongs to. -/

namespace GrammarLang

/-- How much detail a line of a journal gives; the first levels matter most. -/
inductive Detail
  /-- What went wrong. -/
  | error
  /-- What may be wrong. -/
  | warn
  /-- What happens. -/
  | info
  /-- How it happens. -/
  | debug
  /-- Each single step. -/
  | trace
  deriving DecidableEq, Repr

namespace Detail

/-- The place of a level in the order of detail. -/
def rank : Detail → Nat
  | .error => 1
  | .warn => 2
  | .info => 3
  | .debug => 4
  | .trace => 5

/-- The name of a level, in capitals. -/
def name : Detail → String
  | .error => "ERROR"
  | .warn => "WARN"
  | .info => "INFO"
  | .debug => "DEBUG"
  | .trace => "TRACE"

end Detail

/-- One line of a journal. -/
structure Entry where
  /-- The level of detail. -/
  detail : Detail
  /-- The text of the line. -/
  message : String
  deriving DecidableEq, Repr

/-- The lines of a journal, in the order they were written. -/
abbrev Journal := List Entry

/-- The lines that a reader sees who asks for levels up to a rank. -/
def Journal.upTo (journal : Journal) (rank : Nat) : Journal :=
  journal.filter fun entry => entry.detail.rank ≤ rank

end GrammarLang
