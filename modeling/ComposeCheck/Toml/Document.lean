import ComposeCheck.Toml.Scalar
import ComposeCheck.Toml.Table

/-!
# Reading TOML

A document is a list of sections, each with a header (the first has none) and assignments. Values
nest less than eighty deep.
-/

namespace ComposeCheck.Toml

open Text

mutual

/-- A value at the start of the text, which may hold `depth` levels of values. -/
def readValue : (fuel depth : Nat) → List Char → Option (TomlValue × List Char)
  | 0, _, _ => none
  | fuel + 1, depth, cs =>
    match cs with
    | [] => none
    | '"' :: rest => (readString? '"' rest).map fun (text, rest) => (.string text, rest)
    | '\'' :: rest => (readString? '\'' rest).map fun (text, rest) => (.string text, rest)
    | '[' :: rest =>
      if depth = 0 then none
      else (readItems fuel (depth - 1) rest).map fun (items, rest) => (.array items, rest)
    | '\x7b' :: rest =>
      if depth = 0 then none
      else
        match skipSpaces rest with
        | '\x7d' :: rest => some (.table [], rest)
        | rest => do
          let (pairs, rest) ← readPairs fuel (depth - 1) rest
          let draft ← Draft.assignAll [] pairs
          return (.table (entriesOf draft), rest)
    | 't' :: _ => (dropLead "true".toList cs).map fun rest => (.boolean true, rest)
    | 'f' :: _ => (dropLead "false".toList cs).map fun rest => (.boolean false, rest)
    | _ => readNumber? cs

/-- The items of an array up to its closing bracket. Line ends and comments may stand between. -/
def readItems : (fuel depth : Nat) → List Char → Option (List TomlValue × List Char)
  | 0, _, _ => none
  | fuel + 1, depth, cs =>
    match skipTrivia false cs with
    | ']' :: rest => some ([], rest)
    | rest => do
      let (item, rest) ← readValue fuel depth rest
      match skipTrivia false rest with
      | ',' :: rest =>
        let (items, rest) ← readItems fuel depth rest
        return (item :: items, rest)
      | ']' :: rest => return ([item], rest)
      | _ => none

/-- The assignments of an inline table up to its closing brace. -/
def readPairs : (fuel depth : Nat) → List Char →
    Option (List (List String × String × TomlValue) × List Char)
  | 0, _, _ => none
  | fuel + 1, depth, cs => do
    let (keys, rest) ← readKey? cs
    let key ← keys.getLast?
    let (value, rest) ← readValue fuel depth (skipSpaces (← dropLead ['='] rest))
    let pair := (keys.dropLast, key, value)
    match skipSpaces rest with
    | ',' :: rest =>
      let (pairs, rest) ← readPairs fuel depth rest
      return (pair :: pairs, rest)
    | '\x7d' :: rest => return ([pair], rest)
    | _ => none

end

/-- A line of a document that says something. -/
inductive Statement where
  | assignment (path : List String) (key : String) (value : TomlValue)
  | header (path : List String) (key : String)
  | itemHeader (path : List String) (key : String)

def readPath? (cs : List Char) : Option (List String × String × List Char) := do
  let (keys, rest) ← readKey? cs
  return (keys.dropLast, ← keys.getLast?, rest)

def readStatement? (cs : List Char) : Option (Statement × List Char) :=
  match cs with
  | '[' :: '[' :: rest => do
    let (path, key, rest) ← readPath? rest
    return (.itemHeader path key, ← dropLead [']', ']'] rest)
  | '[' :: rest => do
    let (path, key, rest) ← readPath? rest
    return (.header path key, ← dropLead [']'] rest)
  | cs => do
    let (path, key, rest) ← readPath? cs
    let rest := skipSpaces (← dropLead ['='] rest)
    let (value, rest) ← readValue (2 * rest.length + 2) 79 rest
    return (.assignment path key value, rest)

def readStatements : (fuel : Nat) → List Char → Option (List Statement)
  | 0, _ => none
  | fuel + 1, cs =>
    match skipSpaces cs with
    | [] => some []
    | c :: rest =>
      match lineEnd? (c :: rest) with
      | some rest => readStatements fuel rest
      | none => do
        let (statement, rest) ← readStatement? (c :: rest)
        let statements ← readStatements fuel (← lineEnd? rest)
        return statement :: statements

/-- A header, if there is one, and the assignments below it. -/
structure Section where
  header? : Option Statement
  assignments : List (List String × String × TomlValue)

def sectionsOf : List Statement → List Section
  | [] => [⟨none, []⟩]
  | statement :: statements =>
    match statement, sectionsOf statements with
    | .assignment path key value, first :: others =>
      { first with assignments := (path, key, value) :: first.assignments } :: others
    | .assignment _ _ _, [] => []
    | header, first :: others => ⟨none, []⟩ :: { first with header? := some header } :: others
    | _, [] => []

def Draft.write (draft : Draft) (part : Section) : Option Draft :=
  match part.header? with
  | some (.header path key) => draft.writeTable path key part.assignments
  | some (.itemHeader path key) => draft.addTable path key part.assignments
  | _ => draft.assignAll part.assignments

/-- Reads a document; a byte order mark at its start does not count. `none` if it is no TOML. -/
def read? (text : String) : Option (List (String × TomlValue)) := do
  let cs := match text.toList with
    | '\uFEFF' :: rest => rest
    | cs => cs
  let statements ← readStatements (cs.length + 1) cs
  let draft ← (sectionsOf statements).foldlM Draft.write []
  return entriesOf draft

end ComposeCheck.Toml
