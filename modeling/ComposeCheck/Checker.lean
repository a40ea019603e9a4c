import ComposeCheck.Dispatch
import ComposeCheck.Settings.Basic

/-!
# Checking one file

A checker holds the rules that are on, each with its severity, and the places where options are
written. When it fixes, it checks the rewritten file once more and reports what is left.
-/

namespace ComposeCheck

/-- What is asked of a checker besides the settings. -/
structure Request where
  root : String
  rules : List Rule
  exclude : List String := []
  mode : Mode := .report
  /-- Whether a file with syntax errors is refused. -/
  strict : Bool := false

/-- A checker for the files below a root. -/
structure Checker where
  root : String
  rules : List Scheduled
  exclude : List String
  respectGitIgnore : Bool
  options : OptionChain
  mode : Mode
  strict : Bool

/-- Why a file could not be checked. -/
inductive FileError where
  /-- The grammar has no answer for the text. -/
  | unread (path : String)
  /-- The text has syntax errors and these are not tolerated. -/
  | syntaxErrors (path : String)
  /-- A rule has failed on a sum that was too large for a word. -/
  | overflow (path : String)
  deriving DecidableEq

namespace FileError

/-- What is said of a sum that was too large for a word. -/
def overflowMessage : String := "attempt to add with overflow"

/-- What went wrong, in words. -/
def message : FileError → String
  | unread _ => "source could not be parsed"
  | syntaxErrors _ => "source contains syntax errors"
  | overflow _ => overflowMessage

/-- Whether the error ends the program, and is not just an answer for this file. -/
def isFatal : FileError → Bool
  | overflow _ => true
  | _ => false

end FileError

/-- What is found in one file, and its new text if fixes have changed it. -/
structure FileReport where
  violations : List Violation
  fixed? : Option String
  deriving DecidableEq

namespace Checker

/-- A checker for a request. Options in the settings come before those of the `.editorconfig`. -/
def of (settings : Settings) (editorConfig? : Option EditorConfig) (request : Request) : Checker :=
  { root := request.root
    rules := (request.rules.filter fun rule => settings.isEnabled rule.name).map fun rule =>
      ⟨rule, (settings.severity? rule.name).getD rule.severity⟩
    exclude := request.exclude ++ settings.scan.exclude
    respectGitIgnore := settings.scan.respectGitIgnore
    options := ⟨.table settings.options :: (editorConfig?.map .editorConfig).toList⟩
    mode := request.mode
    strict := request.strict }

/-- Reads a file's text; syntax errors are an error only if the checker is strict. -/
def read (checker : Checker) (parser : Parser) (path text : String) :
    Except FileError SyntaxTree :=
  match SyntaxTree.read? parser text with
  | none => .error (.unread path)
  | some tree =>
    if tree.hasErrors && checker.strict then .error (.syntaxErrors path) else .ok tree

/-- Runs the rules over a tree, each run with a memory of options of its own. -/
def run (checker : Checker) (file : CheckedFile) (tree : SyntaxTree) (mode : Mode) : Run :=
  ((dispatch tree file checker.rules mode).run checker.options.resolve |>.run Memo.empty).1

/-- Runs the rules over the tree of a text, unless one of them fails. -/
def runOn (checker : Checker) (path text : String) (tree : SyntaxTree) (mode : Mode) :
    Except FileError Run :=
  let run := checker.run (.of checker.root path text) tree mode
  if run.overflowed then .error (.overflow path) else .ok run

def check (checker : Checker) (parser : Parser) (path text : String) :
    Except FileError FileReport := do
  let tree ← checker.read parser path text
  let first ← checker.runOn path text tree checker.mode
  if checker.mode = .fix && !first.rewrites.isEmpty then
    let fixed := tree.render first.rewrites
    let fixedTree ← checker.read parser path fixed
    let second ← checker.runOn path fixed fixedTree .report
    return ⟨second.violations (.of checker.root path fixed), some fixed⟩
  return ⟨first.violations (.of checker.root path text), none⟩

end Checker

end ComposeCheck
