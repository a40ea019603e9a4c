import ComposeCheck.NamePattern.Escape

/-!
# Brackets in patterns

Sets of characters between brackets: characters and ranges, kinds, properties, named sets and
brackets inside, side by side or joined by `&&`, `--` and `~~`, which bind to the left.
-/

namespace ComposeCheck.WrittenSet

open Text WrittenPattern

/-! ### Named sets -/

def namedSet? (name : String) : Option CharSet :=
  let alnum := [(48, 57), (65, 90), (97, 122)]
  let ranges? : Option (List (Nat × Nat)) := match name with
    | "alnum" => some alnum
    | "alpha" => some [(65, 90), (97, 122)]
    | "ascii" => some [(0, 127)]
    | "blank" => some [(9, 9), (32, 32)]
    | "cntrl" => some [(0, 31), (127, 127)]
    | "digit" => some [(48, 57)]
    | "graph" => some [(33, 126)]
    | "lower" => some [(97, 122)]
    | "print" => some [(32, 126)]
    | "punct" => some [(33, 47), (58, 64), (91, 96), (123, 126)]
    | "space" => some [(9, 13), (32, 32)]
    | "upper" => some [(65, 90)]
    | "word" => some ((95, 95) :: alnum)
    | "xdigit" => some [(48, 57), (65, 70), (97, 102)]
    | _ => none
  ranges?.map .ofRanges

/-- A named set such as `[:alpha:]` or `[:^alpha:]`, after its opening bracket. -/
def readNamed : List Char → Option (WrittenSet × List Char)
  | ':' :: rest => do
    let isNegated := rest.head? = some '^'
    let body := if isNegated then rest.drop 1 else rest
    let set ← namedSet? (String.ofList (body.takeWhile (· != ':')))
    match body.dropWhile (· != ':') with
    | ':' :: ']' :: rest => return (.named set isNegated, rest)
    | _ => none
  | _ => none

/-! ### Characters and ranges -/

/-- A character, which may open a range, or what a backslash makes of it. -/
def readItem (spaced : Bool) : List Char → Option (WrittenPattern × List Char)
  | [] => none
  | '\\' :: rest => readEscape spaced rest
  | c :: rest => some (.char ⟨c, false⟩, rest)

/-- The part of a set that an item stands for. Edges are no characters. -/
def ofItem? : WrittenPattern → Option WrittenSet
  | .char c => some (char c)
  | .kind sort isNegated => some (kind sort isNegated)
  | .property set isNegated => some (property set isNegated)
  | _ => none

/-- What comes after a hyphen, if the set is spaced after white space and comments. Of a comment
the first sign after its mark counts, and if there is nothing, so does the sign that was passed
over. -/
def peek (spaced : Bool) (cs : List Char) : Option Char :=
  if spaced then
    match cs.filter fun c => !isBlank c with
    | '#' :: c :: _ => some c
    | '#' :: [] => cs.head?
    | c :: _ => some c
    | [] => cs.head?
  else cs.head?

/-- An item or a range of items. A hyphen before a closing bracket or another hyphen opens no
range. -/
def readRange (spaced : Bool) (cs : List Char) : Option (WrittenSet × List Char) := do
  let (item, rest) ← readItem spaced cs
  match skip spaced rest with
  | [] => none
  | '-' :: after =>
    let next := peek spaced after
    if next = some ']' ∨ next = some '-' then return (← ofItem? item, '-' :: after)
    else
      match item, ← readItem spaced (skip spaced after) with
      | .char first, (.char last, rest) =>
        if first.char ≤ last.char then return (.range first last, rest) else none
      | _, _ => none
  | rest => return (← ofItem? item, rest)

/-! ### Sets -/

/-- Joins the part before an operation with the part after it. -/
def join : Option (WrittenSet × SetOperation) → WrittenSet → WrittenSet
  | none, b => b
  | some (a, operation), b => combined operation a b

/-- Hyphens at the start of a set, which are plain characters; the rest starts with none. -/
def readHyphens (spaced : Bool) : (fuel : Nat) → List Char → List WrittenSet × List Char
  | 0, cs => ([], cs)
  | fuel + 1, cs =>
    match cs with
    | '-' :: rest =>
      let (hyphens, rest) := readHyphens spaced fuel (skip spaced rest)
      (char ⟨'-', false⟩ :: hyphens, rest)
    | cs => ([], cs)

/-- What an opening bracket starts with: whether the set is a complement, and hyphens or a closing
bracket, which are plain characters there. -/
def readOpening (spaced : Bool) (cs : List Char) : Bool × List WrittenSet × List Char :=
  let (isNegated, cs) := match skip spaced cs with
    | '^' :: rest => (true, skip spaced rest)
    | cs => (false, cs)
  match readHyphens spaced cs.length cs with
  | ([], ']' :: rest) => (isNegated, [char ⟨']', false⟩], skip spaced rest)
  | (hyphens, rest) => (isNegated, hyphens, rest)

/-- The parts of a set up to its closing bracket; `done` holds the parts since the last operation,
the last one first. -/
def readParts (spaced : Bool) : (fuel : Nat) → (pending : Option (WrittenSet × SetOperation)) →
    (done : List WrittenSet) → List Char → Option (WrittenSet × List Char)
  | 0, _, _, _ => none
  | fuel + 1, pending, done, cs =>
    let sofar := join pending (ofParts done.reverse)
    match skip spaced cs with
    | [] => none
    | ']' :: rest => some (sofar, rest)
    | '[' :: rest =>
      match readNamed rest with
      | some (set, rest) => readParts spaced fuel pending (set :: done) rest
      | none => do
        let (isNegated, start, rest) := readOpening spaced rest
        let (inner, rest) ← readParts spaced fuel none start.reverse rest
        readParts spaced fuel pending (brackets isNegated inner :: done) rest
    | '&' :: '&' :: rest => readParts spaced fuel (some (sofar, .inter)) [] rest
    | '-' :: '-' :: rest => readParts spaced fuel (some (sofar, .minus)) [] rest
    | '~' :: '~' :: rest => readParts spaced fuel (some (sofar, .difference)) [] rest
    | cs => do
      let (part, rest) ← readRange spaced cs
      readParts spaced fuel pending (part :: done) rest

def readBrackets (spaced : Bool) (cs : List Char) : Option (WrittenPattern × List Char) := do
  let (isNegated, start, rest) := readOpening spaced cs
  let (inner, rest) ← readParts spaced (rest.length + 1) none start.reverse rest
  return (.brackets isNegated inner, rest)

end ComposeCheck.WrittenSet
