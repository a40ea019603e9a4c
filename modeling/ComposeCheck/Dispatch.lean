import ComposeCheck.Allowance
import ComposeCheck.FilePath
import ComposeCheck.Rule
import ComposeCheck.Suppression

/-!
# Running rules over a file

Each rule, in the order of the list, is asked at the root of the file and then at its declarations
in document order: at every class, interface and object, and at every function, once more if it is a
composable. The run is recorded step by step: what the rule reported at a visit, what became of each
finding, the edits that were made, and the rewrites before and after. The record goes on behind a
step in which a rule has failed; whoever reads it has to ask first whether one did.
-/

namespace ComposeCheck

/-- A file that is being checked: its name in reports and its lines. -/
structure CheckedFile where
  name : String
  lines : List String

def CheckedFile.of (root path content : String) : CheckedFile :=
  ⟨FilePath.relativeTo root path, Text.lines content⟩

/-- Whether findings are only reported or also fixed. -/
inductive Mode where
  | report
  | fix
  deriving DecidableEq

/-- A rule with the severity at which it reports. -/
structure Scheduled where
  rule : Rule
  severity : Severity

namespace Scheduled

/-- Whether a finding at a node is silenced, by an annotation or by an allow comment. -/
def isSilenced (scheduled : Scheduled) (file : CheckedFile) (n : Node) : Bool :=
  n.isSuppressed scheduled.rule.ids ||
    (Allowance.at? file.lines n.line scheduled.rule.ids).isSome

def outcome (scheduled : Scheduled) (file : CheckedFile) (mode : Mode) (finding : Finding) :
    Outcome :=
  if scheduled.isSilenced file finding.node then .silenced
  else if finding.fix?.isSome && mode = .fix then .corrected
  else .reported

def violation (scheduled : Scheduled) (file : CheckedFile) (finding : Finding) : Violation :=
  { code := scheduled.rule.code
    rule := scheduled.rule.name
    severity := scheduled.severity
    location := .ofNode file.name finding.node
    message := finding.message
    doc? := some scheduled.rule.doc
    fixable := finding.fix?.isSome }

end Scheduled

/-- One visit of one rule. -/
structure Step where
  scheduled : Scheduled
  visit : Visit
  findings : List (Finding × Outcome)
  edits : List Edit
  before : Rewrites
  after : Rewrites
  overflowed : Bool

namespace Step

def violations (step : Step) (file : CheckedFile) : List Violation :=
  (step.findings.filter fun (_, outcome) => outcome ≠ .silenced).map fun (finding, _) =>
    step.scheduled.violation file finding

end Step

def visitsOf (root : Node) : List Visit :=
  .file root :: root.preorder.flatMap fun n =>
    if ["class_declaration", "object_declaration", "companion_object"].contains n.kind then
      [.type n]
    else
      match FunctionDecl.ofNode? n with
      | none => []
      | some f => if f.isComposable then [.function f, .composable f] else [.function f]

namespace Dispatch

variable (file : CheckedFile) (mode : Mode)

def step (scheduled : Scheduled) (before : Rewrites) (visit : Visit) : OptionM Step := do
  let report ← scheduled.rule.report visit ⟨before, scheduled.outcome file mode⟩
  let findings := report.findings.map fun finding =>
    (finding, scheduled.outcome file mode finding)
  return ⟨scheduled, visit, findings, report.edits, before,
    report.edits.foldl Edit.apply before, report.overflowed⟩

def steps (scheduled : Scheduled) : Rewrites → List Visit → OptionM (List Step × Rewrites)
  | rewrites, [] => return ([], rewrites)
  | rewrites, visit :: visits => do
    let first ← step file mode scheduled rewrites visit
    let (others, last) ← steps scheduled first.after visits
    return (first :: others, last)

def rules (visits : List Visit) : Rewrites → List Scheduled → OptionM (List Step × Rewrites)
  | rewrites, [] => return ([], rewrites)
  | rewrites, scheduled :: others => do
    let (first, rewrites) ← steps file mode scheduled rewrites visits
    let (rest, last) ← rules visits rewrites others
    return (first ++ rest, last)

end Dispatch

/-- The record of a run. -/
structure Run where
  steps : List Step
  rewrites : Rewrites

/-- The violations of a run, in the order in which they were found. -/
def Run.violations (run : Run) (file : CheckedFile) : List Violation :=
  run.steps.flatMap (·.violations file)

/-- The edits of a run, in the order in which they were made. -/
def Run.edits (run : Run) : List Edit := run.steps.flatMap (·.edits)

/-- A rule has failed on a sum that was too large for a word. -/
def Run.overflowed (run : Run) : Bool := run.steps.any (·.overflowed)

/-- Runs rules over a file that has no rewrites yet. -/
def dispatch (tree : SyntaxTree) (file : CheckedFile) (rules : List Scheduled) (mode : Mode) :
    OptionM Run := do
  let (steps, rewrites) ← Dispatch.rules file mode (visitsOf tree.rootNode) .none rules
  return ⟨steps, rewrites⟩

end ComposeCheck
