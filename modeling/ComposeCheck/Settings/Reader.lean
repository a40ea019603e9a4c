import ComposeCheck.Settings.Basic
import ComposeCheck.Toml.Date
import ComposeCheck.Toml.Document

/-!
# Reading settings

Settings are a TOML document with the keys `preset`, `analyzer`, `rules` and `compose`; other keys
do not count. A record may be written as a table or as an array of its fields in order, of which
the last may be missing.
-/

namespace ComposeCheck

namespace TomlValue

def text? : TomlValue → Option String
  | string text => some text
  | _ => none

def bool? : TomlValue → Option Bool
  | boolean value => some value
  | _ => none

def texts? : TomlValue → Option (List String)
  | array items => items.mapM text?
  | _ => none

/-- The entries of a table. A date counts as a table with its text under a key of its own. -/
def entries? : TomlValue → Option (List (String × TomlValue))
  | table entries => some entries
  | date text => some [(Toml.dateKey, string text)]
  | _ => none

/-- The fields of a record, in the order of `names`. -/
def fields? (names : List String) (value : TomlValue) : Option (List (Option TomlValue)) :=
  match value with
  | array items =>
    some ((items.take names.length).map some ++ List.replicate (names.length - items.length) none)
  | value => value.entries?.map fun entries => names.map fun name => entries.lookup name

def isHollow : TomlValue → Bool
  | array items => items.isEmpty
  | table entries => entries.isEmpty
  | _ => false

end TomlValue

def optionalField {α : Type} (read : TomlValue → Option α) :
    Option TomlValue → Option (Option α)
  | none => some none
  | some value => (read value).map some

/-- Reads a severity: its word, or a table with the word as its only key. -/
def Severity.ofToml? : TomlValue → Option Severity
  | .string word => Severity.ofWord? word
  | .table [(word, value)] => if value.isHollow then Severity.ofWord? word else none
  | _ => none

/-- Reads what is said about one rule. -/
def RuleSettings.ofToml? (value : TomlValue) : Option RuleSettings := do
  match ← value.fields? ["enabled", "severity"] with
  | [enabled, severity] =>
    return ⟨← optionalField TomlValue.bool? enabled, ← optionalField Severity.ofToml? severity⟩
  | _ => none

/-- Reads which files are looked at. Where the settings say anything about files, nothing is left
out by default. -/
def ScanSettings.ofToml? (value : TomlValue) : Option ScanSettings := do
  match ← value.fields? ["root", "exclude", "respect_gitignore", "editorconfig"] with
  | [root, exclude, respectGitIgnore, editorConfig] =>
    return {
      root := (← optionalField TomlValue.text? root).getD "."
      exclude := (← optionalField TomlValue.texts? exclude).getD []
      respectGitIgnore := (← optionalField TomlValue.bool? respectGitIgnore).getD true
      editorConfig := (← optionalField TomlValue.bool? editorConfig).getD true }
  | _ => none

/-- The entries of a table as the raw texts of options, in the order of their names. -/
def OptionSource.valuesOf? (entries : List (String × TomlValue)) :
    Option (List (String × String)) :=
  (TomlValue.settledEntries? entries).map fun settled =>
    settled.map fun (key, value) => (key, value.optionText)

def OptionSource.ofToml? (text : String) : Option OptionSource :=
  ((Toml.read? text).bind valuesOf?).map .table

namespace Settings

def rulesOf? (value : TomlValue) : Option (List (String × RuleSettings)) := do
  (← value.entries?).mapM fun (name, value) => do
    let settings ← RuleSettings.ofToml? value
    return (name, settings)

def ofToml? (entries : List (String × TomlValue)) : Option Settings := do
  let options ← optionalField TomlValue.entries? (entries.lookup "compose")
  return {
    preset? := ← optionalField TomlValue.text? (entries.lookup "preset")
    scan := (← optionalField ScanSettings.ofToml? (entries.lookup "analyzer")).getD defaultScan
    rules := (← optionalField rulesOf? (entries.lookup "rules")).getD []
    options := ← OptionSource.valuesOf? (options.getD []) }

def read? (text : String) : Option Settings := (Toml.read? text).bind ofToml?

end Settings

end ComposeCheck
