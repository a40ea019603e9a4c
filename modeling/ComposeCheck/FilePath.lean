import ComposeCheck.Text.Chars

/-!
# File paths

A path is text with components between slashes. Empty components and single dots between slashes
say nothing; a dot at the very start and a slash at the very start are components of their own.
-/

namespace ComposeCheck.FilePath

open Text

/-- One component of a path. -/
inductive Component where
  | root
  | here
  | up
  | name (text : List Char)
  deriving DecidableEq

namespace Component

def rank : Component → Nat
  | root => 0
  | here => 1
  | up => 2
  | name _ => 3

def text : Component → List Char
  | name text => text
  | _ => []

end Component

/-- The component that a piece between slashes stands for, if any. -/
def ofPiece? (piece : List Char) : Option Component :=
  if piece = [] ∨ piece = ['.'] then none
  else if piece = ['.', '.'] then some .up
  else some (.name piece)

/-- The text before the first slash, and the text after it. -/
def splitPiece (path : List Char) : List Char × List Char :=
  (path.takeWhile (· != '/'), (path.dropWhile (· != '/')).drop 1)

/-- Drops slashes and single dots at the start of what follows a component. -/
def trimFront : (fuel : Nat) → List Char → List Char
  | 0, path => path
  | fuel + 1, path =>
    match path with
    | [] => []
    | _ :: _ =>
      if (ofPiece? (splitPiece path).1).isSome then path else trimFront fuel (splitPiece path).2

/-- Drops slashes and single dots at the end, but keeps the first `keep` characters. -/
def trimBack (keep : Nat) (path : List Char) : List Char :=
  let rec go : Nat → List Char → List Char
    | 0, body => body
    | fuel + 1, body =>
      match body with
      | [] => []
      | _ :: _ =>
        let piece := (body.takeWhile (· != '/')).reverse
        if (ofPiece? piece).isSome then body
        else go fuel ((body.dropWhile (· != '/')).drop 1)
  path.take keep ++ (go (path.length + 1) (path.drop keep).reverse).reverse

/-- The first component, and what follows it. At the start of a path a slash or a dot counts. -/
def next? (atStart : Bool) (path : List Char) : Option (Component × List Char) :=
  let inside (path : List Char) : Option (Component × List Char) :=
    match trimFront (path.length + 1) path with
    | [] => none
    | c :: cs =>
      (ofPiece? (splitPiece (c :: cs)).1).map fun component =>
        (component, (splitPiece (c :: cs)).2)
  if atStart then
    match path with
    | '/' :: rest => some (.root, rest)
    | ['.'] => some (.here, [])
    | '.' :: '/' :: rest => some (.here, '/' :: rest)
    | path => inside path
  else inside path

def components (path : List Char) : List Component :=
  let rec go : Nat → Bool → List Char → List Component
    | 0, _, _ => []
    | fuel + 1, atStart, path =>
      match next? atStart path with
      | none => []
      | some (component, rest) => component :: go fuel false rest
  go (path.length + 1) true path

/-- How many characters at the start of a path are components of their own. -/
def headLength : List Char → Nat
  | '/' :: _ => 1
  | ['.'] => 1
  | '.' :: '/' :: _ => 1
  | _ => 0

/-- What is left of a path below a base, if the base's components come first in it. -/
def below? (base path : String) : Option String :=
  let rec go : Bool → List Component → List Char → Option (List Char)
    | atStart, [], path =>
      if atStart then some (trimBack (headLength path) path)
      else some (trimBack 0 (trimFront (path.length + 1) path))
    | atStart, expected :: base, path =>
      match next? atStart path with
      | some (component, rest) => if component = expected then go false base rest else none
      | none => none
  (go true (components base.toList) path.toList).map String.ofList

/-- The path without its last component; the root and the empty path have no parent. -/
def parent? (path : String) : Option String :=
  let cs := path.toList
  let keep := headLength cs
  let body := (trimBack keep cs).drop keep
  if body.isEmpty then
    if cs = [] ∨ cs.head? = some '/' then none else some ""
  else
    let before := (body.reverse.dropWhile (· != '/')).reverse
    some (String.ofList (trimBack keep (cs.take keep ++ before)))

def fileName? (path : String) : Option String :=
  match (components path.toList).getLast? with
  | some (.name text) => some (String.ofList text)
  | _ => none

/-- What follows the last dot of the file's name; a dot at its start does not count. -/
def extension? (path : String) : Option String := do
  let name ← fileName? path
  let after := (name.toList.reverse.takeWhile (· != '.')).reverse
  if after.length + 1 < name.toList.length then some (String.ofList after) else none

/-- Orders two names character by character. -/
def nameLe : List Char → List Char → Bool
  | [], _ => true
  | _ :: _, [] => false
  | a :: as, b :: bs => if a = b then nameLe as bs else decide (a < b)

def componentsLe : List Component → List Component → Bool
  | [], _ => true
  | _ :: _, [] => false
  | a :: as, b :: bs =>
    if a = b then componentsLe as bs
    else if a.rank = b.rank then nameLe a.text b.text
    else decide (a.rank < b.rank)

def le (first second : String) : Bool :=
  componentsLe (components first.toList) (components second.toList)

/-- A path below a directory; an absolute path stands for itself. -/
def join (base path : String) : String :=
  if hasLead "/" path then path
  else if base = "" then path
  else if hasTail "/" base then base ++ path
  else base ++ "/" ++ path

/-- How a file is named in reports: its path below the root, or its name if it is the root itself,
or its path if it lies elsewhere. -/
def relativeTo (root path : String) : String :=
  match below? root path with
  | none => path
  | some "" => (fileName? path).getD path
  | some relative => relative

def isScript (path : String) : Bool := extension? path == some "kts"

end ComposeCheck.FilePath
