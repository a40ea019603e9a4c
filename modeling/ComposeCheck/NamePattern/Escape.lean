import ComposeCheck.NamePattern.Written
import ComposeCheck.Text.Property

/-!
# Escapes in patterns

What may follow a backslash: a character by its code or by itself, a kind of characters, a property
or an edge. Where a pattern is spaced, white space and comments do not count, not even inside an
escape.
-/

namespace ComposeCheck.WrittenPattern

open Text

/-! ### White space and comments -/

/-- Drops white space and comments; `isComment` says whether the text starts inside a comment,
which goes on to the end of its line. -/
def skipBlanks (isComment : Bool) : List Char → List Char
  | [] => []
  | c :: cs =>
    if isComment then skipBlanks (c != '\n') cs
    else if isBlank c then skipBlanks false cs
    else if c = '#' then skipBlanks true cs
    else c :: cs

/-- Drops white space and comments where they do not count. -/
def skip (spaced : Bool) (cs : List Char) : List Char := if spaced then skipBlanks false cs else cs

/-! ### Codes -/

def isHexDigit (c : Char) : Bool := (hexValue? c).isSome

/-- The character of a code point. -/
def charOf? (n : Nat) : Option Char :=
  if h : n.isValidChar then some (Char.ofNatAux n h) else none

/-- So many hexadecimal digits. -/
def readDigits (spaced : Bool) : (count : Nat) → List Char → Option (List Char × List Char)
  | 0, cs => some ([], cs)
  | _ + 1, [] => none
  | count + 1, c :: cs =>
    if isHexDigit c then
      (readDigits spaced count (skip spaced cs)).map fun (digits, rest) => (c :: digits, rest)
    else none

/-- Hexadecimal digits up to a closing brace. -/
def readBraced (spaced : Bool) : (fuel : Nat) → List Char → Option (List Char × List Char)
  | 0, _ => none
  | fuel + 1, cs =>
    match skip spaced cs with
    | '\x7d' :: rest => some ([], skip spaced rest)
    | c :: rest =>
      if isHexDigit c then
        (readBraced spaced fuel rest).map fun (digits, rest) => (c :: digits, rest)
      else none
    | [] => none

/-- A character by its code: so many digits, or any number of digits in braces. -/
def readCode (spaced : Bool) (width : Nat) (cs : List Char) : Option (WrittenPattern × List Char) :=
  match skip spaced cs with
  | '\x7b' :: rest => do
    let (digits, rest) ← readBraced spaced (rest.length + 1) rest
    if digits.isEmpty then none
    let c ← charOf? (valueOf 16 digits)
    return (.char ⟨c, false⟩, rest)
  | cs => do
    let (digits, rest) ← readDigits spaced width cs
    let c ← charOf? (valueOf 16 digits)
    return (.char ⟨c, width = 2⟩, rest)

/-! ### Properties -/

/-- The characters up to a closing brace. -/
def readName (spaced : Bool) : (fuel : Nat) → List Char → Option (List Char × List Char)
  | 0, _ => none
  | fuel + 1, cs =>
    match skip spaced cs with
    | '\x7d' :: rest => some ([], rest)
    | c :: rest => (readName spaced fuel rest).map fun (name, rest) => (c :: name, rest)
    | [] => none

/-- The characters that a property stands for: its name, or its name and a value with `!=`, `:` or
`=` between them. All three mean the same. -/
def propertyOf? (name : List Char) : Option CharSet :=
  match splitFirst ['!', '='] name, splitFirst [':'] name, splitFirst ['='] name with
  | some (title, value), _, _ => Property.findValue? title value
  | none, some (title, value), _ => Property.findValue? title value
  | none, none, some (title, value) => Property.findValue? title value
  | none, none, none => Property.find? name

/-- A property after its letter: one more letter, or a name in braces. -/
def readProperty (spaced isNegated : Bool) (cs : List Char) : Option (WrittenPattern × List Char) :=
  match skip spaced cs with
  | [] => none
  | '\x7b' :: rest => do
    let (name, rest) ← readName spaced (rest.length + 1) rest
    return (.property (← propertyOf? name) isNegated, rest)
  | c :: rest => do
    if c = '\\' then none
    return (.property (← Property.find? [c]) isNegated, rest)

/-! ### Edges of words -/

def isEdgeChar (c : Char) : Bool :=
  ('a' ≤ c && c ≤ 'z') || ('A' ≤ c && c ≤ 'Z') || c == '-'

def readEdgeName (spaced : Bool) : (fuel : Nat) → List Char → List Char × List Char
  | 0, cs => ([], cs)
  | fuel + 1, cs =>
    match cs with
    | [] => ([], [])
    | c :: rest =>
      if isEdgeChar c then
        let (name, rest) := readEdgeName spaced fuel (skip spaced rest)
        (c :: name, rest)
      else ([], cs)

def edgeOf? (name : String) : Option EdgeSign :=
  match name with
  | "start" => some .wordStart
  | "end" => some .wordEnd
  | "start-half" => some .wordStartHalf
  | "end-half" => some .wordEndHalf
  | _ => none

/-- An edge of a word, after its letter. It may have a name in braces; braces that hold something
else belong to a repetition. -/
def readWordEdge (spaced : Bool) (cs : List Char) : Option (WrittenPattern × List Char) :=
  match cs with
  | '\x7b' :: rest =>
    match skip spaced rest with
    | [] => none
    | c :: inner =>
      if isEdgeChar c then
        let (name, rest) := readEdgeName spaced (inner.length + 1) (c :: inner)
        match rest with
        | '\x7d' :: rest => (edgeOf? (String.ofList name)).map fun sign => (.edge sign, rest)
        | _ => none
      else some (.edge (.word false), cs)
  | cs => some (.edge (.word false), cs)

/-! ### Escapes -/

/-- Characters that a backslash makes plain. -/
def isEscapable (c : Char) : Bool :=
  c.toNat < 128 && !isDigit c && !('a' ≤ c && c ≤ 'z') && !('A' ≤ c && c ≤ 'Z') &&
    c != '<' && c != '>'

/-- A part of one sign after a backslash. -/
def signOf? : Char → Option WrittenPattern
  | 'd' => some (.kind .digit false)
  | 'D' => some (.kind .digit true)
  | 's' => some (.kind .blank false)
  | 'S' => some (.kind .blank true)
  | 'w' => some (.kind .word false)
  | 'W' => some (.kind .word true)
  | 'a' => some (.char ⟨Char.ofNat 7, false⟩)
  | 'f' => some (.char ⟨Char.ofNat 12, false⟩)
  | 't' => some (.char ⟨'\t', false⟩)
  | 'n' => some (.char ⟨'\n', false⟩)
  | 'r' => some (.char ⟨'\r', false⟩)
  | 'v' => some (.char ⟨Char.ofNat 11, false⟩)
  | 'A' => some (.edge .textStart)
  | 'z' => some (.edge .textEnd)
  | 'B' => some (.edge (.word true))
  | '<' => some (.edge .wordStart)
  | '>' => some (.edge .wordEnd)
  | c => if isEscapable c then some (.char ⟨c, false⟩) else none

/-- What stands after a backslash. -/
def readEscape (spaced : Bool) : List Char → Option (WrittenPattern × List Char)
  | [] => none
  | 'x' :: rest => readCode spaced 2 rest
  | 'u' :: rest => readCode spaced 4 rest
  | 'U' :: rest => readCode spaced 8 rest
  | 'p' :: rest => readProperty spaced false rest
  | 'P' :: rest => readProperty spaced true rest
  | 'b' :: rest => readWordEdge spaced rest
  | c :: rest => (signOf? c).map fun part => (part, rest)

end ComposeCheck.WrittenPattern
