import ComposeCheck.Checker
import ComposeCheck.Files.Exclusion
import ComposeCheck.Files.Walk

/-!
# Checking a project

The Kotlin files below a root are checked in the order of their paths. A file with syntax errors is
passed over, or ends the run if the checker is strict; a rule that fails always ends it. Fixed files
are written back at once, so what an earlier file has changed stays changed.
-/

namespace ComposeCheck

/-- Why a project could not be checked. -/
inductive ProjectError where
  /-- The files below the root could not be found. -/
  | unwalked (root : String) (cause : WalkError)
  /-- A pattern for files that are left out is not valid. -/
  | badPattern (pattern : String)
  /-- A file does not hold text. -/
  | unreadable (path : String)
  | fileError (error : FileError)
  deriving DecidableEq

/-- Whether the error ends the program, and is not just an answer for this project. -/
def ProjectError.isFatal : ProjectError → Bool
  | fileError error => error.isFatal
  | _ => false

/-- A run over a project: the files after it, and its result. -/
structure ProjectRun where
  files : FileTree
  result : Except ProjectError Summary

namespace Project

/-- Where the `.editorconfig` of a root is: in it, or beside it if it is a file. -/
def editorConfigPath (files : FileTree) (root : String) : String :=
  let directory := if files.isFileAt root then (FilePath.parent? root).getD root else root
  FilePath.join directory ".editorconfig"

/-- Reads the `.editorconfig` of a root, if the settings ask for it and it is there. -/
def editorConfig? (files : FileTree) (settings : Settings) (root : String) :
    Except ProjectError (Option EditorConfig) :=
  if !settings.scan.editorConfig then .ok none
  else
    let path := editorConfigPath files root
    match files.contentAt? path with
    | some (.text text) => .ok (some (EditorConfig.parse text))
    | some (.bytes _) => .error (.unreadable path)
    | none => .ok none

/-- A checker for a project. A given `.editorconfig` takes the place of the one at the root. -/
def prepare (files : FileTree) (settings : Settings) (given? : Option EditorConfig)
    (request : Request) : Except ProjectError Checker := do
  let editorConfig? ← match given? with
    | some given => pure (some given)
    | none => editorConfig? files settings request.root
  return Checker.of settings editorConfig? request

def isKotlin (path : String) : Bool :=
  FilePath.extension? path == some "kt" || FilePath.extension? path == some "kts"

/-- The Kotlin files below a root that are not left out, in the order of their paths. A root that is
a file stands for itself, whatever its name. -/
def sources (checker : Checker) (files : FileTree) : Except ProjectError (List String) := do
  if files.isFileAt checker.root then return [checker.root]
  let found ← (files.walk checker.respectGitIgnore checker.root).mapError
    (.unwalked checker.root)
  let kotlin := (found.map ("/".intercalate ·)).filter isKotlin
  let kept ← kotlin.filterM fun path =>
    match Exclusion.leaveOut path checker.exclude with
    | .ok out => pure (!out)
    | .error pattern => throw (.badPattern pattern)
  return (kept.map (FilePath.join checker.root)).mergeSort FilePath.le

def checkFiles (checker : Checker) (parser : Parser) :
    FileTree → Summary → List String → ProjectRun
  | files, summary, [] => ⟨files, .ok summary⟩
  | files, summary, path :: paths =>
    match (files.contentAt? path).bind Content.text? with
    | none => ⟨files, .error (.unreadable path)⟩
    | some text =>
      match checker.check parser path text with
      | .error e =>
        if checker.strict || e.isFatal then ⟨files, .error (.fileError e)⟩
        else checkFiles checker parser files summary paths
      | .ok report =>
        let files := match report.fixed? with
          | some fixed => files.overwrite path fixed
          | none => files
        let fixed := if report.fixed?.isSome then 1 else 0
        checkFiles checker parser files (summary.append ⟨report.violations, 1, fixed⟩) paths

/-- Whether a violation stands before another in a report: by file, line and column. -/
def comesBefore (first second : Violation) : Bool :=
  let a := first.location
  let b := second.location
  if FilePath.le a.file b.file && FilePath.le b.file a.file then
    a.line < b.line || (a.line = b.line && a.column ≤ b.column)
  else FilePath.le a.file b.file

def check (checker : Checker) (parser : Parser) (files : FileTree) : ProjectRun :=
  match sources checker files with
  | .error e => ⟨files, .error e⟩
  | .ok paths =>
    let run := checkFiles checker parser files .empty paths
    { run with result := run.result.map fun summary =>
        { summary with violations := summary.violations.mergeSort comesBefore } }

end Project

end ComposeCheck
