import ComposeCheck.Text.Chars

/-!
# Arguments

A command line is a list of words. Words that start with a dash are options: `--name`,
`--name=value`, `--name value`, or letters after one dash, of which the last may take a value.
After `--` no word is an option. The command is the first word that is none; options before it are
the ones that every command understands. Nothing may be given twice, except a pattern for files
that are left out.
-/

namespace ComposeCheck

/-- How results are shown. -/
inductive Format where
  | text
  | json
  | compact
  | pretty
  deriving DecidableEq

def Format.ofWord? : String → Option Format
  | "text" => some text
  | "json" => some json
  | "compact" => some compact
  | "pretty" => some pretty
  | _ => none

/-- What is to be checked, and how. -/
structure CheckOptions where
  path : String := "."
  format : Format := .text
  rules? : Option String := none
  preset? : Option String := none
  exclude : List String := []
  fix : Bool := false
  deriving DecidableEq

/-- A command. -/
inductive Command where
  | check (options : CheckOptions)
  | listRules
  | init (force : Bool)
  deriving DecidableEq

/-- What a command line asks for. -/
inductive Invocation where
  /-- A command, with the path of the settings if one is given. -/
  | run (config? : Option String) (command : Command)
  | help
  | version
  /-- The arguments make no sense. -/
  | misuse
  deriving DecidableEq

namespace Arguments

/-- An option that can be given. -/
structure Switch where
  name : String
  letter? : Option Char := none
  takesValue : Bool := false

/-- One thing that words say. -/
inductive Item where
  | flag (name : String)
  | value (name text : String)
  | word (text : String)
  deriving DecidableEq

/-- Where the items end: after the last word, at a word that asks for help or for the version, or at
a word that makes no sense. -/
inductive Ending where
  | words
  | help
  | version
  | misuse
  deriving DecidableEq

/-- Items, and how they end. -/
structure Scan where
  items : List Item
  ending : Ending
  deriving DecidableEq

def Scan.cons (item : Item) (scan : Scan) : Scan := { scan with items := item :: scan.items }

/-- Nothing more can be read. -/
def Scan.stop (ending : Ending) : Scan := ⟨[], ending⟩

/-- Whether a word can be the value of the option before it. -/
def isValue (word : String) : Bool := !Text.hasLead "-" word || word == "-"

/-- The option that a flag of this name ends the reading with, if it does. -/
def endingOf? (hasVersion : Bool) (name : String) : Option Ending :=
  if name = "help" then some .help
  else if name = "version" ∧ hasVersion then some .version
  else none

/-- The name and the value of a word after its two dashes. -/
def splitValue (word : String) : String × Option String :=
  match Text.cut "=" word with
  | some (name, value) => (name, some value)
  | none => (word, none)

/-- What is left of a cluster of letters as the value of the letter before it. -/
def attached (rest : List Char) : Option String :=
  match rest with
  | [] => none
  | '=' :: value => some (String.ofList value)
  | value => some (String.ofList value)

section Scanning

variable (switches : List Switch) (hasVersion : Bool)

/-- What letters after one dash say: flags, and perhaps the name of an option that takes a value,
with the value if it is attached. -/
def readLetters : List Char → List Item × Option (String × Option String) × Ending
  | [] => ([], none, .words)
  | letter :: rest =>
    if letter = 'h' then ([], none, .help)
    else if letter = 'V' ∧ hasVersion then ([], none, .version)
    else
      match switches.find? (·.letter? = some letter) with
      | none => ([], none, .misuse)
      | some switch =>
        if switch.takesValue then ([], some (switch.name, attached rest), .words)
        else
          let (items, pending, ending) := readLetters rest
          (.flag switch.name :: items, pending, ending)

/-- Reads words into items. `upTo` stops the reading before the first word that is no option, which
is then returned with the words after it. -/
def scan (upTo : Bool) : List String → Scan × List String
  | [] => (⟨[], .words⟩, [])
  | word :: words =>
    if isValue word then
      if upTo then (⟨[], .words⟩, word :: words)
      else
        let (found, rest) := scan upTo words
        (found.cons (.word word), rest)
    else if word = "--" then
      if upTo then (.stop (if words.isEmpty then .words else .misuse), [])
      else (⟨words.map .word, .words⟩, [])
    else
      match Text.afterLead "--" word with
      | some long =>
        let (name, value?) := splitValue long
        match endingOf? hasVersion name, switches.find? (·.name = name), value? with
        | some ending, _, none => (.stop ending, [])
        | _, none, _ => (.stop .misuse, [])
        | _, some switch, some value =>
          if switch.takesValue then
            let (found, rest) := scan upTo words
            (found.cons (.value name value), rest)
          else (.stop .misuse, [])
        | _, some switch, none =>
          if switch.takesValue then readValue name upTo words
          else
            let (found, rest) := scan upTo words
            (found.cons (.flag name), rest)
      | none =>
        let (items, pending, ending) := readLetters switches hasVersion (word.toList.drop 1)
        let (found, rest) := match ending, pending with
          | .words, none => scan upTo words
          | .words, some (name, some value) =>
            let (found, rest) := scan upTo words
            (found.cons (.value name value), rest)
          | .words, some (name, none) => readValue name upTo words
          | ending, _ => (.stop ending, [])
        ({ found with items := items ++ found.items }, rest)
where
  /-- Reads the value of an option from the next word. -/
  readValue (name : String) (upTo : Bool) : List String → Scan × List String
    | [] => (.stop .misuse, [])
    | value :: words =>
      if isValue value then
        let (found, rest) := scan upTo words
        (found.cons (.value name value), rest)
      else (.stop .misuse, [])

end Scanning

/-! ### Commands -/

/-- What every command understands. -/
structure Common where
  verbose : Bool := false
  config? : Option String := none
  deriving DecidableEq

/-- The options that every command understands. -/
def commonSwitches : List Switch :=
  [⟨"verbose", some 'v', false⟩, ⟨"config", some 'c', true⟩]

/-- Takes in an item that every command understands. -/
def Common.take? (common : Common) : Item → Option Common
  | .flag "verbose" => if common.verbose then none else some { common with verbose := true }
  | .value "config" path =>
    if common.config?.isSome || path.isEmpty then none else some { common with config? := path }
  | _ => none

/-- The options of `check` as they are read. -/
structure CheckDraft where
  path? : Option String := none
  format? : Option Format := none
  rules? : Option String := none
  preset? : Option String := none
  exclude : List String := []
  fix : Bool := false

namespace CheckDraft

/-- The options of `check`. -/
def switches : List Switch :=
  [⟨"format", some 'f', true⟩, ⟨"rules", none, true⟩, ⟨"preset", none, true⟩,
    ⟨"exclude", some 'e', true⟩, ⟨"fix", none, false⟩]

/-- Takes in an item of `check`. -/
def take? (draft : CheckDraft) : Item → Option CheckDraft
  | .word path =>
    if draft.path?.isSome || path.isEmpty then none else some { draft with path? := path }
  | .value "format" word =>
    if draft.format?.isSome then none
    else (Format.ofWord? word).map fun format => { draft with format? := format }
  | .value "rules" text =>
    if draft.rules?.isSome then none else some { draft with rules? := text }
  | .value "preset" name =>
    if draft.preset?.isSome then none else some { draft with preset? := name }
  | .value "exclude" pattern => some { draft with exclude := draft.exclude ++ [pattern] }
  | .flag "fix" => if draft.fix then none else some { draft with fix := true }
  | _ => none

/-- The options, with defaults for what is not given. -/
def finish (draft : CheckDraft) : CheckOptions :=
  { path := draft.path?.getD "."
    format := draft.format?.getD .text
    rules? := draft.rules?
    preset? := draft.preset?
    exclude := draft.exclude
    fix := draft.fix }

end CheckDraft

/-- Takes in items, each by the command or else by what every command understands. -/
def takeAll {α : Type} (take? : α → Item → Option α) (draft : α) :
    Common → List Item → Option (α × Common)
  | common, [] => some (draft, common)
  | common, item :: items =>
    match take? draft item with
    | some draft => takeAll take? draft common items
    | none => (common.take? item).bind fun common => takeAll take? draft common items

def readCommand {α : Type} (switches : List Switch) (take? : α → Item → Option α) (draft : α)
    (finish : α → Command) (words : List String) : Except Invocation (Common × Command) :=
  let (found, _) := scan (switches ++ commonSwitches) false false words
  match takeAll take? draft {} found.items, found.ending with
  | none, _ => .error .misuse
  | some (draft, common), .words => .ok (common, finish draft)
  | some _, .help => .error .help
  | some _, .version => .error .version
  | some _, .misuse => .error .misuse

def readNamed : List String → Except Invocation (Common × Command)
  | "check" :: words =>
    readCommand CheckDraft.switches CheckDraft.take? {} (.check ·.finish) words
  | "list-rules" :: words => readCommand [] (fun _ _ => none) () (fun _ => .listRules) words
  | "init" :: words =>
    readCommand [⟨"force", none, false⟩]
      (fun force item => if item = .flag "force" ∧ !force then some true else none) false .init
      words
  | ["help"] => .error .help
  | ["help", name] =>
    if ["check", "list-rules", "init", "help"].contains name then .error .help
    else .error .misuse
  | _ => .error .misuse

/-- What a command line asks for. `fallback?` is the path of the settings that the environment
names; it counts where the words name none, and it must not be empty. -/
def read (fallback? : Option String) (words : List String) : Invocation :=
  let (found, rest) := scan commonSwitches true true words
  match takeAll (fun () _ => none) () {} found.items, found.ending with
  | some ((), outer), .words =>
    match readNamed rest with
    | .error invocation => invocation
    | .ok (inner, command) =>
      if fallback? = some "" ∧ (outer.config?.isNone ∨ inner.config?.isNone) then .misuse
      else .run (inner.config? <|> outer.config? <|> fallback?) command
  | some _, .help => .help
  | some _, .version => .version
  | _, _ => .misuse

end Arguments

end ComposeCheck
