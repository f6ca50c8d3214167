import GrammarLang.Journal
import GrammarLang.Text.Source

/-! # Diagnostics

A **`Diagnostic`** points out something about a text that does not stop work on it. They are
collected in **`Diagnostics`**, in the order they were reported, and shown one a line by
**`Diagnostics.render`**. -/

namespace GrammarLang.Check

open GrammarLang.Text

/-- How bad it is. -/
inductive Severity
  /-- It may be intended. -/
  | warning
  /-- It cannot be right. -/
  | error
  deriving DecidableEq, Repr, Inhabited

/-- The name of a severity. -/
def Severity.render : Severity → String
  | .warning => "warning"
  | .error => "error"

/-- Something to point out. -/
structure Diagnostic where
  /-- How bad it is. -/
  severity : Severity
  /-- Where it is. -/
  span : Span
  /-- What it is. -/
  message : String
  deriving DecidableEq, Repr, Inhabited

namespace Diagnostic

/-- The line of a journal that tells of a diagnostic. -/
def announcement (diagnostic : Diagnostic) : Entry where
  detail := .debug
  message :=
    s!"{diagnostic.severity.render} at {diagnostic.span.render}: {diagnostic.message}"

/-- A diagnostic on a line of its own, for a text that is kept under a path. -/
def render (path : String) (source : Source) (diagnostic : Diagnostic) : String :=
  s!"{path}:{(source.position diagnostic.span.start).render} " ++
    s!"{diagnostic.severity.render}: {diagnostic.message}\n"

end Diagnostic

/-- What was reported so far. -/
structure Diagnostics where
  /-- The diagnostics, in the order they were reported. -/
  entries : List Diagnostic
  /-- A line for everything that was ever reported. -/
  journal : Journal
  deriving DecidableEq, Repr, Inhabited

namespace Diagnostics

/-- Nothing reported. -/
def empty : Diagnostics := ⟨[], []⟩

/-- Reports one more. -/
def report (diagnostics : Diagnostics) (diagnostic : Diagnostic) : Diagnostics :=
  ⟨diagnostics.entries ++ [diagnostic], diagnostics.journal ++ [diagnostic.announcement]⟩

/-- Reports several more, in order. -/
def reportAll (diagnostics : Diagnostics) (more : List Diagnostic) : Diagnostics :=
  more.foldl report diagnostics

/-- Drops what was reported; the journal still tells of it. -/
def clear (diagnostics : Diagnostics) : Diagnostics := { diagnostics with entries := [] }

/-- Number of diagnostics. -/
def size (diagnostics : Diagnostics) : Nat := diagnostics.entries.length

/-- Whether any of them is an error. -/
def hasErrors (diagnostics : Diagnostics) : Bool :=
  diagnostics.entries.any fun diagnostic => diagnostic.severity = .error

/-- All of them, one a line. -/
def render (path : String) (source : Source) (diagnostics : Diagnostics) : String :=
  String.join (diagnostics.entries.map (Diagnostic.render path source))

@[simp] theorem entries_report (diagnostics : Diagnostics) (diagnostic : Diagnostic) :
    (diagnostics.report diagnostic).entries = diagnostics.entries ++ [diagnostic] := rfl

@[simp] theorem entries_reportAll (diagnostics : Diagnostics) (more : List Diagnostic) :
    (diagnostics.reportAll more).entries = diagnostics.entries ++ more := by
  induction more generalizing diagnostics with
  | nil => simp [reportAll]
  | cons first others ih =>
    rw [reportAll, List.foldl_cons, ← reportAll, ih]
    simp

@[simp] theorem entries_clear (diagnostics : Diagnostics) : diagnostics.clear.entries = [] := rfl

end Diagnostics

end GrammarLang.Check
