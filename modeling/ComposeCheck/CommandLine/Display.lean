import ComposeCheck.CommandLine.Arguments
import ComposeCheck.Catalogue
import ComposeCheck.Json.Exchange

/-!
# What is shown

Results as text with colours, as JSON, with one line for each violation, or with a drawing of each;
and the list of rules. Every line ends in a line feed. The drawings come from elsewhere, as does the
text on how the program is used.
-/

namespace ComposeCheck

namespace Display

/-- Colours of a terminal, by their codes. -/
inductive Colour where
  | red
  | green
  | yellow
  | blue
  deriving DecidableEq

def Colour.code : Colour → Nat
  | red => 31
  | green => 32
  | yellow => 33
  | blue => 34

def coloured (colour : Colour) (text : String) : String :=
  s!"\x1b[{colour.code}m{text}\x1b[0m"

def lines (texts : List String) : String := String.join (texts.map (· ++ "\n"))

def colourOf : Severity → Colour
  | .error => .red
  | .warning => .yellow
  | .info => .blue

def violationLines (v : Violation) : List String :=
  [s!"{v.code} {v.rule} at {v.location.text}",
    s!"  {coloured (colourOf v.severity) v.severity.word}: {v.message}"] ++
  (if v.fixable then ["  = fix: run with --fix to correct automatically"] else []) ++
  (v.doc?.map fun doc => s!"  = see: {doc}").toList ++ [""]

/-- The colour of a summary: that of the most serious violation. -/
def summaryColour (summary : Summary) : Colour :=
  if 0 < summary.count .error then .red
  else if 0 < summary.count .warning then .yellow
  else .green

/-- The lines that sum up a result. -/
def summaryLines (summary : Summary) : List String :=
  let errors := summary.count .error
  let warnings := summary.count .warning
  let infos := summary.count .info
  coloured (summaryColour summary)
    (s!"Found {errors} error(s), {warnings} warning(s), {infos} info(s) " ++
      s!"in {summary.checked} file(s)") ::
  if 0 < summary.fixable then [s!"{summary.fixable} violation(s) can be fixed with --fix"] else []

def compactLine (v : Violation) : String :=
  s!"{v.location.text}: {v.severity.word} [{v.code}] {v.message}"

/-- What is shown of a result, given how violations are drawn. -/
def result (draw : Violation → String) (format : Format) (summary : Summary) : String :=
  match format with
  | .text => lines (summary.violations.flatMap violationLines ++ summaryLines summary)
  | .json => lines [summary.toJson.pretty]
  | .compact => lines (summary.violations.map compactLine)
  | .pretty => lines (summary.violations.map draw ++ summaryLines summary)

/-- Text with blanks after it up to a width. -/
def padded (width : Nat) (text : String) : String :=
  text ++ String.ofList (List.replicate (width - text.length) ' ')

def row (code name description : String) : String :=
  s!"{padded 8 code} {padded 36 name} {description}"

def ruleList : String :=
  lines (["Available rules:", "", row "Code" "Name" "Description",
      String.ofList (List.replicate 100 '-')] ++
    allRules.map (fun rule =>
      row rule.code rule.name
        (rule.description ++ if optInRules.contains rule.name then " (opt-in)" else "")) ++
    ["", "Presets:",
      "  recommended  - every rule except the opt-in ones (default)",
      "  all          - every rule",
      "", "Use --rules to filter specific rules, e.g.:",
      "  compose-lint check --rules modifier-missing,modifier-reused",
      "  compose-lint check --rules CL013,CL016"])

end Display

end ComposeCheck
