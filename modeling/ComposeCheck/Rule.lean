import ComposeCheck.Kotlin.FunctionDecl
import ComposeCheck.Options.Reading
import ComposeCheck.Text.Naming
import ComposeCheck.Tree.Rewrites
import ComposeCheck.Violation

/-!
# Rules

A rule is asked at certain places of a file, one visit after the other. It reports what it finds
there, is told of each finding whether to fix it, and fixes by editing nodes. While it is asked it
can see all that has been edited before: the text of a node with the rewrites of earlier rules and
visits in it, and with its own edits.
-/

namespace ComposeCheck

/-- The places at which rules are asked. -/
inductive Visit where
  | file (root : Node)
  | type (declaration : Node)
  | function (f : FunctionDecl)
  | composable (f : FunctionDecl)

/-- A change of one node's text. -/
inductive Edit where
  /-- Gives the node a new text. -/
  | replace (node : Node) (text : String)
  /-- Adds to the end of the node's current text. -/
  | append (node : Node) (text : String)
  /-- Adds to the start of the node's current text. -/
  | prepend (node : Node) (text : String)

def Edit.apply (rewrites : Rewrites) : Edit → Rewrites
  | .replace node text => rewrites.set node.id text
  | .append node text => rewrites.set node.id (node.currentText rewrites ++ text)
  | .prepend node text => rewrites.set node.id (text ++ node.currentText rewrites)

/-- Something a rule has found at a node, with the edits that fix it if it can be fixed. -/
structure Finding where
  node : Node
  message : String
  fix? : Option (List Edit) := none

/-- What becomes of a finding. -/
inductive Outcome where
  | silenced
  | reported
  | corrected
  deriving DecidableEq

/-- What a rule meets at a visit: the rewrites that have been made before, and what becomes of each
finding that it reports. -/
structure Occasion where
  before : Rewrites
  outcome : Finding → Outcome

/-- What a rule has said and done at one visit, in order. -/
structure Report where
  findings : List Finding
  edits : List Edit
  /-- A sum was too large for a word of 64 bits; the program does not survive that. -/
  overflowed : Bool

/-- Nothing has been said or done. -/
def Report.silent : Report := ⟨[], [], false⟩

/-- What a rule does at a visit. -/
abbrev RuleM := ReaderT Occasion (StateT Report OptionM)

namespace RuleM

/-- Reports findings that are not going to be fixed. -/
def tell (findings : List Finding) : RuleM Unit :=
  modify fun report => { report with findings := report.findings ++ findings }

/-- Reports a finding; the answer is whether to fix it. -/
def report (finding : Finding) : RuleM Bool := do
  tell [finding]
  return (← read).outcome finding = .corrected

/-- The text of a node with all edits so far in it. -/
def currentText (n : Node) : RuleM String := do
  return n.currentText ((← get).edits.foldl Edit.apply (← read).before)

def make (edits : List Edit) : RuleM Unit :=
  modify fun report => { report with edits := report.edits ++ edits }

/-- Reports a finding and fixes it if that is the answer. -/
def offer (finding : Finding) : RuleM Bool := do
  let corrected ← report finding
  if corrected then make (finding.fix?.getD [])
  return corrected

/-- Reports findings and fixes them one by one; the answers say which ones have been fixed. -/
def offerAll (findings : List Finding) : RuleM (List Bool) := findings.mapM offer

/-- Fails if a sum was too large for a word. -/
def overflow (overflowed : Bool) : RuleM Unit :=
  modify fun report => { report with overflowed := report.overflowed || overflowed }

end RuleM

/-- A rule. -/
structure Rule where
  code : String
  name : String
  description : String := ""
  severity : Severity := .error
  visit : Visit → RuleM Unit

namespace Rule

def doc (rule : Rule) : String := "docs/rules.md#" ++ rule.name

/-- The names under which the rule can be suppressed and allowed. -/
def ids (rule : Rule) : List String :=
  let pascal := Text.pascalCase rule.name
  ["Compose" ++ pascal, pascal, rule.name, "compose:" ++ rule.name ++ "-check"]

/-- What the rule says and does at a visit. -/
def report (rule : Rule) (visit : Visit) (occasion : Occasion) : OptionM Report := do
  let (_, report) ← rule.visit visit occasion .silent
  return report

end Rule

end ComposeCheck
