import ComposeCheck.CommandLine.Display
import ComposeCheck.Project
import ComposeCheck.Settings.Reader

/-!
# The program

What a command line does to a tree of files: what it prints, which files it changes, and the code
with which it ends. Settings come from the path that is given, else from the directory that is
checked, else from the user's own directory.
-/

namespace ComposeCheck

/-- The texts that the program leaves to others. -/
structure Drawing where
  /-- A violation, with the text of its file if that can be read. -/
  violation : Violation → Option String → String
  /-- How the program is used. -/
  usage : String

/-- Where a command runs. -/
structure Surroundings where
  files : FileTree
  /-- The working directory, as an absolute path. -/
  directory : String
  /-- The path of the settings that the environment names. -/
  settingsPath? : Option String := none
  /-- The directory with the user's own settings. -/
  userDirectory? : Option String := none
  drawing : Drawing

/-- What a command line has done. -/
structure CommandResult where
  code : Nat
  output : String := ""
  /-- What is said instead of an output. -/
  complaint? : Option String := none
  files : FileTree

/-- Why a command could not be carried out. -/
inductive CommandError where
  | settings (path : String)
  | unknownPreset (name : String)
  | noKnownRules (choice : String)
  | preparation (cause : ProjectError)
  | analysis (cause : ProjectError)
  | settingsExist
  | settingsPathTaken

def CommandError.message : CommandError → String
  | settings path => s!"Failed to load config: {path}"
  | unknownPreset name => s!"Unknown preset `{name}`, expected `recommended` or `all`"
  | noKnownRules choice =>
    s!"No known rules in `--rules {choice}`. Run `compose-lint list-rules` to see them."
  | preparation _ => "Failed to build analyzer"
  | analysis _ => "Analysis failed"
  | settingsExist =>
    "Configuration file already exists at compose-lint.toml. Use --force to overwrite."
  | settingsPathTaken => "Is a directory (os error 21)"

namespace Program

def versionLine : String := "compose-lint 0.3.0"

def startingSettings : String :=
  Display.lines ["# compose-lint configuration",
    "# Rule reference: docs/rules.md",
    "",
    "# Rule set to start from: \"recommended\" (default) or \"all\".",
    "# \"all\" adds the opt-in rules material2 and unstable-collections.",
    "preset = \"recommended\"",
    "",
    "[analyzer]",
    "# Root directory to analyze (default: current directory)",
    "# root = \"./app/src\"",
    "",
    "# Glob patterns to exclude from analysis",
    "exclude = [",
    "    \"**/build/**\",",
    "    \"**/generated/**\",",
    "]",
    "",
    "# Respect .gitignore files",
    "respect_gitignore = true",
    "",
    "# Read compose_* options from .editorconfig next to the root",
    "editorconfig = true",
    "",
    "# Rule switches. Each rule can be disabled or have its severity overridden.",
    "",
    "# [rules.modifier-missing]",
    "# severity = \"warning\"",
    "",
    "# [rules.viewmodel-forwarding]",
    "# enabled = false",
    "",
    "# Rule options, shared by every rule that reads them.",
    "[compose]",
    "# Extra composables that emit content",
    "# contentEmitters = [\"MyCard\"]",
    "",
    "# Visibility checked by modifier-missing: only_public, public_and_internal, all",
    "# checkModifiersForVisibility = \"only_public\"",
    "",
    "# Type names to treat as lambdas and composable lambdas",
    "# treatAsLambda = [\"Callback\"]",
    "# treatAsComposableLambda = [\"Slot\"]",
    "",
    "# CompositionLocals that may be declared",
    "# allowedCompositionLocals = [\"LocalSpacing\"]",
    "",
    "# Extra ViewModel factory functions",
    "# viewModelFactories = [\"rememberViewModel\"]"]

def settingsFile : String := "compose-lint.toml"

variable (here : Surroundings)

/-- What a path leads to from the working directory. -/
def find? (path : String) : Option FileTree :=
  here.files.at? (FilePath.join here.directory path)

/-- The path of the settings for a target: the path that is given, or the first one that leads to
something. -/
def settingsPath? (given? : Option String) (target : String) : Option String :=
  match given? with
  | some path => some path
  | none =>
    let directory := if (find? here target).any FileTree.isFile then
      (FilePath.parent? target).getD target else target
    let candidates := [settingsFile, "." ++ settingsFile].map (FilePath.join directory) ++
      (here.userDirectory?.map fun user => FilePath.join user "config.toml").toList
    candidates.find? fun path => (find? here path).isSome

/-- Reads the settings at a path; without a path they are the default ones. -/
def loadSettings (path? : Option String) : Except CommandError Settings :=
  match path? with
  | none => .ok Settings.default
  | some path =>
    match find? here path with
    | some (.file (.text text)) =>
      match Settings.read? text with
      | some settings => .ok settings
      | none => .error (.settings path)
    | _ => .error (.settings path)

/-- The rules that a choice names, by name or code, with commas between them. -/
def chosenRules (choice : String) : Except CommandError (List Rule) :=
  let wanted := (Text.pieces (· == ',') choice).map Text.trimmed
  match allRules.filter fun rule => wanted.contains rule.name || wanted.contains rule.code with
  | [] => .error (.noKnownRules choice)
  | rules => .ok rules

/-- The rules of a check: those that are chosen, or those of a preset. -/
def rulesOf (options : CheckOptions) (settings : Settings) : Except CommandError (List Rule) :=
  match options.rules? with
  | some choice => chosenRules choice
  | none =>
    let name := (options.preset? <|> settings.preset?).getD Preset.recommended.name
    match Preset.ofName? name with
    | some preset => .ok preset.rules
    | none => .error (.unknownPreset name)

/-- Prepares a check: the checker, which must not fail yet. -/
def prepare (given? : Option String) (options : CheckOptions) : Except CommandError Checker := do
  let settings ← loadSettings here (settingsPath? here given? options.path)
  let rules ← rulesOf options settings
  let request : Request :=
    { root := FilePath.join here.directory options.path
      rules
      exclude := options.exclude
      mode := if options.fix then .fix else .report }
  match Project.prepare here.files settings none request with
  | .ok checker => .ok checker
  | .error cause => .error (.preparation cause)

def fail (files : FileTree) (error : CommandError) : CommandResult :=
  { code := 1, complaint? := some ("Error: " ++ error.message), files }

/-- The end of the program where a rule fails on a sum that was too large for a word. -/
def crash (files : FileTree) : CommandResult :=
  { code := 101, complaint? := some FileError.overflowMessage, files }

/-- The drawing of a violation. A root that is a file is the file of every violation. -/
def draw (files : FileTree) (root : String) (v : Violation) : String :=
  let path := if files.isFileAt root then root else FilePath.join root v.location.file
  here.drawing.violation v ((files.contentAt? path).bind Content.text?)

/-- Runs a check. Errors among the violations show in the code. -/
def check (parser : Parser) (given? : Option String) (options : CheckOptions) : CommandResult :=
  match prepare here given? options with
  | .error error => fail here.files error
  | .ok checker =>
    let run := Project.check checker parser here.files
    match run.result with
    | .error cause => if cause.isFatal then crash run.files else fail run.files (.analysis cause)
    | .ok summary =>
      { code := if summary.hasErrors then 1 else 0
        output := Display.result (draw here run.files checker.root) options.format summary
        files := run.files }

/-- Writes settings to start from. What is there is replaced only by force. -/
def writeSettings (force : Bool) : CommandResult :=
  let path := FilePath.join here.directory settingsFile
  let names := ((here.files.locate? here.directory).map (·.1)).getD [] ++ [settingsFile]
  match here.files.at? path, force with
  | some _, false => fail here.files .settingsExist
  | some (.directory _), true => fail here.files .settingsPathTaken
  | _, _ =>
    { code := 0
      output := Display.lines ["Created compose-lint.toml", "", "Next steps:",
        "  1. Edit compose-lint.toml to configure rules", "  2. Run: compose-lint check"]
      files := here.files.write names (.text startingSettings) }

/-- The absolute paths that a command line may read from, besides the working directory. -/
def readsFrom (arguments : List String) : List String :=
  let paths := match Arguments.read here.settingsPath? arguments with
    | .run given? (.check options) =>
      options.path :: (given?.toList ++ here.userDirectory?.toList)
    | _ => []
  paths.map (FilePath.join here.directory)

def run (parser : Parser) (arguments : List String) : CommandResult :=
  match Arguments.read here.settingsPath? arguments with
  | .misuse => { code := 2, files := here.files }
  | .help => { code := 0, output := here.drawing.usage, files := here.files }
  | .version => { code := 0, output := Display.lines [versionLine], files := here.files }
  | .run given? (.check options) => check here parser given? options
  | .run _ .listRules => { code := 0, output := Display.ruleList, files := here.files }
  | .run _ (.init force) => writeSettings here force

end Program

end ComposeCheck
