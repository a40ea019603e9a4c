import ComposeCheck.Options.Source
import ComposeCheck.Violation

/-!
# Settings

What a project writes down about its checks: which preset it starts from, which files are looked at,
which rules are on and how serious they are, and the options that rules ask for.
-/

namespace ComposeCheck

/-- What the settings say about one rule. -/
structure RuleSettings where
  enabled? : Option Bool := none
  severity? : Option Severity := none
  deriving DecidableEq

/-- Which files are looked at, and which other files count on the way. -/
structure ScanSettings where
  root : String := "."
  exclude : List String := []
  respectGitIgnore : Bool := true
  editorConfig : Bool := true
  deriving DecidableEq

/-- The settings of a project. Rules and options stand under their names, each name once. -/
structure Settings where
  preset? : Option String := none
  scan : ScanSettings := {}
  rules : List (String × RuleSettings) := []
  options : List (String × String) := []
  deriving DecidableEq

namespace Settings

/-- How files are looked at where the settings do not say: build outputs are left out. -/
def defaultScan : ScanSettings := { exclude := ["**/build/**", "**/.gradle/**"] }

/-- The settings of a project that has written none. -/
def default : Settings := { scan := defaultScan }

def rule? (settings : Settings) (name : String) : Option RuleSettings := settings.rules.lookup name

/-- Whether a rule is switched on or off, if the settings say so. -/
def enabled? (settings : Settings) (name : String) : Option Bool :=
  (settings.rule? name).bind (·.enabled?)

/-- Whether a rule is on. Rules are on unless they are switched off. -/
def isEnabled (settings : Settings) (name : String) : Bool := (settings.enabled? name).getD true

def severity? (settings : Settings) (name : String) : Option Severity :=
  (settings.rule? name).bind (·.severity?)

end Settings

end ComposeCheck
