import ComposeCheck.NamePattern.Brackets

/-!
# Reading patterns

The written form of patterns: `.` and `[…]` for characters, `|` for alternatives, `*`, `+`, `?` and
`{n}` for repetitions, parentheses for groups and flags, a backslash for escapes. The number of
characters bounds the reader.
-/

namespace ComposeCheck.WrittenPattern

open Text

/-- What is left to read, whether it is spaced, and the names of groups so far. -/
structure Scan where
  rest : List Char
  spaced : Bool
  names : List (List Char)

/-! ### Repetitions -/

def readCountDigits (spaced : Bool) : (fuel : Nat) → List Char → List Char × List Char
  | 0, cs => ([], cs)
  | fuel + 1, cs =>
    match cs with
    | [] => ([], [])
    | c :: rest =>
      if isDigit c then
        let (digits, rest) := readCountDigits spaced fuel (skip spaced rest)
        (c :: digits, rest)
      else ([], cs)

/-- A count of 32 bits; white space around it does not count. -/
def readCount (spaced : Bool) (cs : List Char) : Option (Nat × List Char) := do
  let (digits, rest) := readCountDigits spaced (cs.length + 1) (trimStart cs)
  if digits.isEmpty then none
  let count := valueOf 10 digits
  if count < 4294967296 then return (count, skip spaced (trimStart rest)) else none

/-- The bounds of a repetition, after its opening brace. -/
def readBounds (spaced : Bool) (cs : List Char) : Option ((Nat × Option Nat) × List Char) := do
  let (low, rest) ← readCount spaced (skip spaced cs)
  match rest with
  | '\x7d' :: rest => return ((low, some low), rest)
  | ',' :: rest =>
    match skip spaced rest with
    | '\x7d' :: rest => return ((low, none), rest)
    | rest =>
      let (high, rest) ← readCount spaced rest
      match rest with
      | '\x7d' :: rest => if low ≤ high then return ((low, some high), rest) else none
      | _ => none
  | _ => none

/-- Drops the mark of a repetition that prefers the shortest text. -/
def dropLazy : List Char → List Char
  | '?' :: rest => rest
  | rest => rest

/-- How often the part before is repeated, if a repetition follows. -/
def readRepetition (spaced : Bool) : List Char → Option ((Nat × Option Nat) × List Char)
  | '*' :: rest => some ((0, none), dropLazy rest)
  | '+' :: rest => some ((1, none), dropLazy rest)
  | '?' :: rest => some ((0, some 1), dropLazy rest)
  | '\x7b' :: rest =>
    (readBounds spaced rest).map fun (bounds, rest) => (bounds, dropLazy (skip spaced rest))
  | _ => none

/-- Repeats the last part, which must be there and must not be flags. -/
def repeatLast? (bounds : Nat × Option Nat) : List WrittenPattern → Option (List WrittenPattern)
  | [] => none
  | flags _ :: _ => none
  | last :: done => some (repeated last bounds.1 bounds.2 :: done)

/-! ### Groups and flags -/

def flagOf? : Char → Option PatternFlag
  | 'i' => some .ignoreCase
  | 'm' => some .lines
  | 's' => some .dotAll
  | 'U' => some .lazy
  | 'u' => some .unicode
  | 'R' => some .returns
  | 'x' => some .spaced
  | _ => none

/-- Flags up to a colon or a closing parenthesis. No flag stands twice, and there is one minus sign
at most, with flags after it. -/
def readFlags (isNegated isDangling : Bool) (done : FlagSettings) :
    List Char → Option (FlagSettings × Char × List Char)
  | [] => none
  | c :: rest =>
    if c = ':' ∨ c = ')' then if isDangling then none else some (done.reverse, c, rest)
    else if c = '-' then if isNegated then none else readFlags true true done rest
    else
      match flagOf? c with
      | none => none
      | some flag =>
        if (done.lookup flag).isSome then none
        else readFlags isNegated false ((flag, !isNegated) :: done) rest

def isNameChar (isFirst : Bool) (c : Char) : Bool :=
  c == '_' || Property.alphabetic.has c ||
    (!isFirst && (c == '.' || c == '[' || c == ']' || Property.number.has c))

/-- The name of a group, up to its closing bracket. -/
def readGroupName (cs : List Char) : Option (List Char × List Char) :=
  match cs.takeWhile (· != '>'), cs.dropWhile (· != '>') with
  | first :: more, _ :: rest =>
    if isNameChar true first && more.all (isNameChar false) then some (first :: more, rest)
    else none
  | _, _ => none

/-- What an opening parenthesis opens. -/
inductive Opening where
  | flags (settings : FlagSettings)
  | group (settings : FlagSettings) (counts : Bool)

/-- What stands after an opening parenthesis. Names are all different. -/
def readOpening (scan : Scan) (cs : List Char) : Option (Opening × Scan) :=
  match skip scan.spaced cs with
  | '?' :: '=' :: _ => none
  | '?' :: '!' :: _ => none
  | '?' :: '<' :: '=' :: _ => none
  | '?' :: '<' :: '!' :: _ => none
  | '?' :: 'P' :: '<' :: rest => named rest
  | '?' :: '<' :: rest => named rest
  | '?' :: rest => do
    let (settings, last, rest) ← readFlags false false [] rest
    if last = ':' then return (.group settings false, { scan with rest })
    else if settings.isEmpty then none
    else return (.flags settings, { scan with rest })
  | rest => some (.group [] true, { scan with rest })
where
  /-- A group with a name. -/
  named (cs : List Char) : Option (Opening × Scan) := do
    let (name, rest) ← readGroupName cs
    if scan.names.contains name then none
    else return (.group [] true, { scan with rest, names := name :: scan.names })

/-! ### Patterns -/

def readPart (spaced : Bool) : List Char → Option (WrittenPattern × List Char)
  | [] => none
  | '[' :: rest => WrittenSet.readBrackets spaced rest
  | '.' :: rest => some (.dot, rest)
  | '^' :: rest => some (.edge .caret, rest)
  | '$' :: rest => some (.edge .dollar, rest)
  | '\\' :: rest => readEscape spaced rest
  | c :: rest => some (.char ⟨c, false⟩, rest)

def startsRepetition (c : Char) : Bool := c == '*' || c == '+' || c == '?' || c == '\x7b'

mutual

/-- Alternatives up to a closing parenthesis or the end. -/
def readBranches : (fuel : Nat) → Scan → Option (List WrittenPattern × Scan)
  | 0, _ => none
  | fuel + 1, scan => do
    let (branch, scan) ← readBranch fuel [] scan
    match scan.rest with
    | '|' :: rest =>
      let (branches, scan) ← readBranches fuel { scan with rest }
      return (branch :: branches, scan)
    | _ => return ([branch], scan)

/-- Parts up to a bar, a closing parenthesis or the end; `done` holds the parts before, the last
one first. Flags between parentheses go on to the end of the group around them. -/
def readBranch : (fuel : Nat) → (done : List WrittenPattern) → Scan →
    Option (WrittenPattern × Scan)
  | 0, _, _ => none
  | fuel + 1, done, scan =>
    let cs := skip scan.spaced scan.rest
    let spacedBy (settings : FlagSettings) := (settings.find? .spaced).getD scan.spaced
    match cs with
    | [] => some (ofParts done.reverse, { scan with rest := [] })
    | '(' :: rest => do
      match ← readOpening scan rest with
      | (.flags settings, scan) =>
        readBranch fuel (flags settings :: done) { scan with spaced := spacedBy settings }
      | (.group settings counts, inside) =>
        let (branches, after) ← readBranches fuel { inside with spaced := spacedBy settings }
        match after.rest with
        | ')' :: rest =>
          readBranch fuel (group settings counts (ofBranches branches) :: done)
            { after with rest, spaced := scan.spaced }
        | _ => none
    | c :: _ =>
      if c = '|' ∨ c = ')' then some (ofParts done.reverse, { scan with rest := cs })
      else if startsRepetition c then do
        let (bounds, rest) ← readRepetition scan.spaced cs
        readBranch fuel (← repeatLast? bounds done) { scan with rest }
      else do
        let (part, rest) ← readPart scan.spaced cs
        readBranch fuel (part :: done) { scan with rest }

end

/-- Reads a pattern; the whole text has to be one, and it must not be nested too deep. -/
def read? (text : List Char) : Option WrittenPattern :=
  match readBranches (2 * text.length + 4) ⟨text, false, []⟩ with
  | some (branches, ⟨[], _, _⟩) =>
    let pattern := ofBranches branches
    if pattern.depth ≤ depthLimit then some pattern else none
  | _ => none

end ComposeCheck.WrittenPattern
