import ComposeCheck.Files.Tree
import ComposeCheck.Text.Places

/-!
# Ignore files

Each line of an ignore file is a pattern for paths below its directory. A pattern without a slash
speaks about names at any depth; one that ends in a slash speaks about directories only; one that
starts with `!` takes back what an earlier one has said, and the last pattern that fits decides.
Patterns are matched byte by byte: `?` and `*` stand for bytes other than a slash.
-/

namespace ComposeCheck

open Text

/-- One part of an ignore pattern. -/
inductive IgnoreToken where
  | byte (b : UInt8)
  | anyByte
  | anyBytes
  /-- `**/` at the start: any directories, or none. -/
  | leadingDirectories
  /-- `/**` at the end: whatever lies below. -/
  | everythingBelow
  /-- `/**/` in between: a slash, with any directories and one more slash or without. -/
  | innerDirectories
  | oneOf (negated : Bool) (ranges : List (UInt8 × UInt8))
  /-- Braces with no text between them. -/
  | nothing
  /-- Alternatives between braces. -/
  | choice (alternatives : List (List IgnoreToken))

/-- A pattern with what it does. -/
structure IgnorePattern where
  tokens : List IgnoreToken
  keeps : Bool
  directoriesOnly : Bool

/-- What one line of an ignore file says. -/
inductive IgnoreLine where
  /-- The line is blank or a comment. -/
  | nothing
  /-- The line holds a pattern that is not valid. -/
  | broken
  | pattern (pattern : IgnorePattern)

/-- An ignore file: its patterns in order, and whether it also has some that are not valid. -/
structure IgnoreFile where
  patterns : List IgnorePattern
  isBroken : Bool

namespace IgnoreToken

/-- How many parts a token has where parts stand one after the other. -/
def parts : IgnoreToken → Nat
  | nothing => 0
  | everythingBelow => 2
  | _ => 1

mutual

/-- How deep what a token stands for is nested: repetitions, sets of more than one range, sequences
and alternatives of more than one part, and the braces themselves all count. -/
def depth : IgnoreToken → Nat
  | byte _ => 0
  | anyByte => 1
  | anyBytes => 2
  | leadingDirectories => 4
  | everythingBelow => 1
  | innerDirectories => 4
  | oneOf _ ranges => if ranges.length < 2 then 1 else 2
  | nothing => 0
  | choice alternatives =>
    depthOfChoice alternatives + if alternatives.length < 2 then 1 else 2

/-- How deep the deepest of some tokens is nested. -/
def depths : List IgnoreToken → Nat
  | [] => 0
  | token :: tokens => max (depth token) (depths tokens)

/-- How deep the deepest of some alternatives is nested. -/
def depthOfChoice : List (List IgnoreToken) → Nat
  | [] => 0
  | tokens :: others =>
    let joined := if (tokens.map parts).foldl (· + ·) 0 < 2 then 0 else 1
    max (depths tokens + joined) (depthOfChoice others)

end

def depthLimit : Nat := 250

end IgnoreToken

namespace IgnorePattern

/-! ### Reading -/

def bytesOf (c : Char) : List UInt8 := (String.singleton c).toUTF8.toList

def byteRanges (low high : Char) : List (UInt8 × UInt8) :=
  if low = high then (bytesOf low).map fun b => (b, b)
  else
    match (bytesOf low).reverse, bytesOf high with
    | last :: before, first :: after =>
      before.reverse.map (fun b => (b, b)) ++ [(last, first)] ++ after.map fun b => (b, b)
    | _, _ => []

/-- What stands after an opening bracket. -/
inductive Brackets where
  /-- Ranges, the last one first, and the text after the closing bracket. -/
  | closed (ranges : List (Char × Char)) (rest : List Char)
  /-- There is no closing bracket. -/
  | unclosed
  /-- A range runs backwards. -/
  | backwards

/-- The ranges between brackets, the last one first in `done`. A closing bracket in the first place
and a dash in the first or last place stand for themselves. -/
def readRanges (done : List (Char × Char)) (dash : Bool) : List Char → Brackets
  | [] => .unclosed
  | c :: rest =>
    match done with
    | [] => readRanges [(c, c)] false rest
    | (low, _) :: others =>
      if dash then
        if c = ']' then .closed (('-', '-') :: done) rest
        else if c < low then .backwards
        else readRanges ((low, c) :: others) false rest
      else if c = ']' then .closed done rest
      else if c = '-' then readRanges done true rest
      else readRanges ((c, c) :: done) false rest

/-- Whether brackets open a complement, and what they hold. -/
def complement : List Char → Bool × List Char
  | '!' :: rest => (true, rest)
  | '^' :: rest => (true, rest)
  | rest => (false, rest)

/-- One sign of a pattern: a character that may mean something, one that stands for itself, or a set
between brackets. -/
inductive Sign where
  | mark (c : Char)
  | plain (c : Char)
  | set (negated : Bool) (ranges : List (Char × Char))

/-- Cuts a pattern into signs. An opening bracket that is never closed stands for itself, and so do
those after it: `brackets` says whether there has been none. -/
def readSigns : (fuel : Nat) → (brackets : Bool) → List Char → Option (List Sign)
  | 0, _, _ => none
  | fuel + 1, brackets, cs =>
    match cs with
    | [] => some []
    | ['\\'] => none
    | '\\' :: c :: rest => (readSigns fuel brackets rest).map (.plain c :: ·)
    | c :: rest =>
      if c = '[' then
        let (negated, inner) := complement rest
        match if brackets then readRanges [] false inner else .unclosed with
        | .closed ranges rest => (readSigns fuel true rest).map (.set negated ranges.reverse :: ·)
        | .unclosed => (readSigns fuel false rest).map (.plain '[' :: ·)
        | .backwards => none
      else (readSigns fuel brackets rest).map (.mark c :: ·)

def Sign.char : Sign → Char
  | mark c => c
  | plain c => c
  | set _ _ => ']'

def leads (c : Char) : List Sign → Bool
  | .mark d :: _ => d == c
  | _ => false

/-- Adds two stars to the parts before them, the last part first; `inside` says whether they stand
between braces. `none` if they do not stand between slashes; between braces, a comma or an opening
brace is as good as a slash before them. -/
def addDirectories? (inside : Bool) (before : Option Char) (done : List IgnoreToken)
    (rest : List Sign) : Option (List IgnoreToken × List Sign) :=
  let ends := rest.isEmpty || (inside && (leads ',' rest || leads '\x7d' rest))
  let goesOn := leads '/' rest
  let opens := before == some '/' || (inside && (before == some ',' || before == some '\x7b'))
  match done with
  | [] => if rest.isEmpty || goesOn then some ([.leadingDirectories], rest.drop 1) else none
  | .leadingDirectories :: _ =>
    if !opens then none
    else if ends then some (done, rest)
    else if goesOn then some (done, rest.drop 1)
    else none
  | _ :: others =>
    if !opens then none
    else if ends then some (.everythingBelow :: others, rest)
    else if goesOn then some (.innerDirectories :: others, rest.drop 1)
    else none

/-- How reading a part of a pattern ends. -/
inductive Ending where
  | ofPattern
  | atComma
  | atBrace

/-- The part for alternatives between braces; those without any text do not count. -/
def choose (alternatives : List (List IgnoreToken)) : IgnoreToken :=
  let isNothing : IgnoreToken → Bool
    | .nothing => true
    | _ => false
  let filled := alternatives.filter fun tokens => !tokens.all isNothing
  if filled.isEmpty then .nothing else .choice filled

def setOf (negated : Bool) (ranges : List (Char × Char)) : IgnoreToken :=
  .oneOf negated (ranges.flatMap fun (low, high) => byteRanges low high)

mutual

/-- Reads parts up to the end of the pattern, or inside braces up to a comma or a closing brace.
`done` holds the parts before, the last one first. -/
def readTokens : (fuel : Nat) → (inside : Bool) → (before : Option Char) →
    (done : List IgnoreToken) → List Sign → Option (List IgnoreToken × Ending × List Sign)
  | 0, _, _, _, _ => none
  | fuel + 1, inside, before, done, signs =>
    match signs with
    | [] => if inside then none else some (done.reverse, .ofPattern, [])
    | .mark '?' :: rest => readTokens fuel inside (some '?') (.anyByte :: done) rest
    | .mark '*' :: .mark '*' :: rest =>
      match addDirectories? inside before done rest with
      | some (done, rest) => readTokens fuel inside (some '/') done rest
      | none => readTokens fuel inside (some '*') (.anyBytes :: .anyBytes :: done) rest
    | .mark '*' :: rest => readTokens fuel inside (some '*') (.anyBytes :: done) rest
    | .mark '\x7b' :: rest => do
      let (alternatives, rest) ← readAlternatives fuel rest
      readTokens fuel inside (some '\x7d') (choose alternatives :: done) rest
    | .mark '\x7d' :: rest => if inside then some (done.reverse, .atBrace, rest) else none
    | .set negated ranges :: rest =>
      readTokens fuel inside (some ']') (setOf negated ranges :: done) rest
    | sign :: rest =>
      if inside && leads ',' signs then some (done.reverse, .atComma, rest)
      else
        let bytes := (bytesOf sign.char).map IgnoreToken.byte
        readTokens fuel inside (some sign.char) (bytes.reverse ++ done) rest

/-- The alternatives up to a closing brace. -/
def readAlternatives : (fuel : Nat) → List Sign → Option (List (List IgnoreToken) × List Sign)
  | 0, _ => none
  | fuel + 1, signs => do
    match ← readTokens fuel true (some ',') [] signs with
    | (tokens, .atComma, rest) =>
      let (others, rest) ← readAlternatives fuel rest
      return (tokens :: others, rest)
    | (tokens, _, rest) => return ([tokens], rest)

end

def tokensOf? (pattern : List Char) : Option (List IgnoreToken) := do
  let signs ← readSigns (pattern.length + 1) true pattern
  let (tokens, _) ← readTokens (2 * signs.length + 2) false none [] signs
  return tokens

/-- The text of a line without blanks at its end, unless a backslash stands before a last space. -/
def withoutTrailingBlanks (line : List Char) : List Char :=
  if (dropTail ['\\', ' '] line).isSome then line else trimEnd line

/-- The rest of a line after `!` or after a backslash that protects `!` or `#`, and whether there
was a bare `!`. -/
def afterMark : List Char → Bool × List Char
  | '\\' :: '!' :: rest => (false, '!' :: rest)
  | '\\' :: '#' :: rest => (false, '#' :: rest)
  | '!' :: rest => (true, rest)
  | rest => (false, rest)

/-- The text that is matched: names at any depth have `**/` in front, and a pattern for all below a
directory leaves out the directory itself. -/
def fullText (anchored : Bool) (text : List Char) : List Char :=
  let text :=
    if anchored || text.contains '/' || text = ['*', '*'] then text
    else '*' :: '*' :: '/' :: text
  if (dropTail ['/', '*', '*'] text).isSome then text ++ ['/', '*'] else text

def read? (line : List Char) : Option IgnorePattern :=
  let (keeps, text) := afterMark line
  let (anchored, text) := match text with
    | '/' :: rest => (true, rest)
    | rest => (false, rest)
  let (directoriesOnly, text) := match dropTail ['/'] text with
    | some before => (true, (dropTail ['\\'] before).getD before)
    | none => (false, text)
  (tokensOf? (fullText anchored text)).map fun tokens => ⟨tokens, keeps, directoriesOnly⟩

def readLine (line : List Char) : IgnoreLine :=
  let line := withoutTrailingBlanks line
  if line.isEmpty ∨ line.head? = some '#' then .nothing
  else
    match read? line with
    | some pattern => .pattern pattern
    | none => .broken

/-! ### Matching -/

def slash : UInt8 := 47

/-- Whether a byte is one that `*` stands for. -/
def isInName (b : UInt8) : Bool := b != slash

def afterSlash (path : List UInt8) (places : Places) : Places := places.step (· == slash) path

def beyond (path : List UInt8) (places : Places) : Places := places.spread (fun _ => true) path

mutual

/-- The places of a path behind the parts of a pattern. -/
def reach (path : List UInt8) (places : Places) : List IgnoreToken → Places
  | [] => places
  | token :: tokens => reach path (reachToken path places token) tokens

def reachToken (path : List UInt8) (places : Places) : IgnoreToken → Places
  | .byte d => places.step (· == d) path
  | .anyByte => places.step isInName path
  | .anyBytes => places.spread isInName path
  | .leadingDirectories => places.union (afterSlash path (beyond path places))
  | .everythingBelow => beyond path (afterSlash path places)
  | .innerDirectories =>
    let inside := afterSlash path places
    inside.union (afterSlash path (beyond path inside))
  | .oneOf negated ranges =>
    places.step (fun b => ranges.any (fun (low, high) => low ≤ b && b ≤ high) != negated) path
  | .nothing => places
  | .choice alternatives => reachChoice path places alternatives

/-- The places of a path behind one of several alternatives. -/
def reachChoice (path : List UInt8) (places : Places) : List (List IgnoreToken) → Places
  | [] => .none path
  | alternative :: others =>
    (reach path places alternative).union (reachChoice path places others)

end

/-- Whether the pattern fits a path, given from the directory of the ignore file. A pattern that is
`**` alone fits every path. -/
def fitsPath (pattern : IgnorePattern) (path : String) : Bool :=
  match pattern.tokens with
  | [.leadingDirectories] => true
  | tokens =>
    let bytes := path.toUTF8.toList
    (reach bytes (.start bytes) tokens).isAtEnd

end IgnorePattern

namespace IgnoreLine

def pattern? : IgnoreLine → Option IgnorePattern
  | pattern found => some found
  | _ => none

/-- Whether the line holds a pattern that is not valid. -/
def isBroken : IgnoreLine → Bool
  | broken => true
  | _ => false

end IgnoreLine

namespace IgnoreFile

def empty : IgnoreFile := ⟨[], false⟩

/-- Reads an ignore file; byte order marks at its start do not count. With a pattern that is nested
too deep the whole file says nothing. -/
def parse (text : String) : IgnoreFile :=
  let lines := (linesOf (text.toList.dropWhile (· == '\uFEFF'))).map IgnorePattern.readLine
  let patterns := lines.filterMap IgnoreLine.pattern?
  if patterns.any fun pattern => IgnoreToken.depths pattern.tokens + 1 > IgnoreToken.depthLimit then
    ⟨[], true⟩
  else ⟨patterns, lines.any IgnoreLine.isBroken⟩

/-- The text before the first line of a file that is no text. -/
def readablePart (bytes : List UInt8) : String :=
  let lines := (splitWhere (· == 10) bytes).map fun line => String.fromUTF8? ⟨line.toArray⟩
  "\n".intercalate ((lines.takeWhile Option.isSome).filterMap id)

/-- Reads what a file holds; only what stands before the first line that is no text counts. -/
def ofContent : Content → IgnoreFile
  | .text text => parse text
  | .bytes bytes => parse (readablePart bytes)

/-- What the file says about a path: ignored, kept, or nothing. -/
def verdict? (file : IgnoreFile) (path : String) (isDirectory : Bool) : Option Bool :=
  (file.patterns.reverse.find? fun pattern =>
    (isDirectory || !pattern.directoriesOnly) && pattern.fitsPath path).map fun pattern =>
      !pattern.keeps

end IgnoreFile

end ComposeCheck
