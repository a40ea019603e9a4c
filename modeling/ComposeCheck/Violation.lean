import ComposeCheck.Tree.Node

/-!
# Violations

A violation is what is told about one place of one file. It has a one-line form, a form of several
lines for a terminal, and the parts of a labelled diagnostic.
-/

namespace ComposeCheck

/-- How serious a violation is. -/
inductive Severity where
  | info
  | warning
  | error
  deriving DecidableEq

namespace Severity

/-- The severities in order, the mildest first. -/
def rank : Severity → Nat
  | .info => 0
  | .warning => 1
  | .error => 2

def word : Severity → String
  | .info => "info"
  | .warning => "warning"
  | .error => "error"

def ofWord? : String → Option Severity
  | "info" => some .info
  | "warning" => some .warning
  | "error" => some .error
  | _ => none

end Severity

/-- Where a violation is: a file, the line and column, and the bytes it covers. -/
structure Location where
  file : String
  line : Nat
  column : Nat
  offset : Nat
  length : Nat
  deriving DecidableEq

namespace Location

def ofNode (file : String) (n : Node) : Location :=
  ⟨file, n.line, n.column, n.start, n.stop - n.start⟩

/-- The file, the line and the column, with colons between. -/
def text (location : Location) : String :=
  s!"{location.file}:{location.line}:{location.column}"

end Location

/-- A violation of a rule. -/
structure Violation where
  code : String
  rule : String
  severity : Severity
  location : Location
  message : String
  doc? : Option String
  fixable : Bool
  deriving DecidableEq

namespace Violation

def display (v : Violation) : String :=
  s!"{v.location.text}: {v.severity.word} [{v.code}] {v.message}" ++
    (if v.fixable then " [*]" else "")

def format (v : Violation) : String :=
  s!"{v.code} {v.rule} at {v.location.text}\n  {v.severity.word}: {v.message}\n" ++
    (if v.fixable then "  = help: fixable with --fix\n" else "") ++
    (match v.doc? with
      | some doc => s!"  = see: {doc}\n"
      | none => "")

def headline (v : Violation) : String := s!"[{v.code}] {v.message}"

def help? (v : Violation) : Option String := v.doc?.map fun doc => s!"see {doc}"

end Violation

/-- The result of a run: the violations, and how many files were read and rewritten. -/
structure Summary where
  violations : List Violation
  checked : Nat
  fixed : Nat
  deriving DecidableEq

namespace Summary

/-- The result before the first file. -/
def empty : Summary := ⟨[], 0, 0⟩

/-- Whether some violation is at least this serious. -/
def hasAt (summary : Summary) (severity : Severity) : Bool :=
  summary.violations.any fun v => severity.rank ≤ v.severity.rank

def hasErrors (summary : Summary) : Bool := summary.hasAt .error

def count (summary : Summary) (severity : Severity) : Nat :=
  (summary.violations.filter fun v => v.severity = severity).length

/-- The number of violations that can be fixed. -/
def fixable (summary : Summary) : Nat := (summary.violations.filter (·.fixable)).length

/-- Both results together. -/
def append (first second : Summary) : Summary :=
  ⟨first.violations ++ second.violations, first.checked + second.checked,
    first.fixed + second.fixed⟩

end Summary

end ComposeCheck
