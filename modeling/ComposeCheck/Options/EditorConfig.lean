import ComposeCheck.Text.Chars

/-!
# Property files

An `.editorconfig` file is read as one flat list of properties: the lines before the first section
and the lines of the sections that apply to Kotlin sources. A later line for a key replaces an
earlier one.
-/

namespace ComposeCheck

open Text

/-- The properties that apply to Kotlin sources, the last line of the file first. -/
structure EditorConfig where
  properties : List (String × String)

namespace EditorConfig

/-- What a line of the file is, blanks around it dropped. -/
inductive Line where
  | ignored
  | section (glob : List Char)
  | property (key value : List Char)

/-- Whether the section of this glob speaks about Kotlin sources. -/
def appliesToKotlin (glob : List Char) : Bool :=
  glob == ['*'] || glob == ['*', '*'] || (splitFirst ".kt".toList glob).isSome ||
    (splitFirst "\x7bkt".toList glob).isSome || (splitFirst ",kt".toList glob).isSome

/-- Reads one trimmed line; a line that is neither a header nor a property says nothing. -/
def Line.read (line : List Char) : Line :=
  match line with
  | [] => .ignored
  | '#' :: _ => .ignored
  | ';' :: _ => .ignored
  | first :: rest =>
    match if first = '[' then dropTail [']'] rest else none with
    | some glob => .section (trim glob)
    | none =>
      match splitFirst ['='] line with
      | some (key, value) => .property ((trim key).map asciiLower) (trim value)
      | none => .ignored

/-- The state of reading: whether the current section counts, and the properties found so far. -/
abbrev State := Bool × List (String × String)

def step : State → Line → State
  | state, .ignored => state
  | (_, found), .section glob => (appliesToKotlin glob, found)
  | (true, found), .property key value =>
    (true, (String.ofList key, String.ofList value) :: found)
  | (false, found), .property _ _ => (false, found)

/-- Reads the text of a property file. -/
def parse (content : String) : EditorConfig :=
  ⟨((linesOf content.toList).foldl (fun state line => step state (.read (trim line)))
    (true, [])).2⟩

def lookup (file : EditorConfig) (key : String) : Option String :=
  file.properties.lookup key

/-- Whether no property is an option of this program. -/
def isEmpty (file : EditorConfig) : Bool :=
  !file.properties.any fun (key, _) => hasLead "compose_" key

end EditorConfig

end ComposeCheck
