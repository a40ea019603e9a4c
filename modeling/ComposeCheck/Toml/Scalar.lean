import ComposeCheck.Decimal.Bounds
import ComposeCheck.Toml.Date

/-!
# Reading keys, strings and numbers

Scanners for the parts of a TOML document that hold no other values. Each returns what is left of
the text.
-/

namespace ComposeCheck.Toml

open Text

/-! ### Blanks and lines -/

def isSpace (c : Char) : Bool := c == ' ' || c == '\t'

/-- A character that may stand in a line: a tab, or no control character. -/
def isPlain (c : Char) : Bool := c == '\t' || (32 ≤ c.toNat && c.toNat != 127)

def skipSpaces (cs : List Char) : List Char := cs.dropWhile isSpace

/-- The rest after a line feed, with or without a carriage return before it. -/
def newline? : List Char → Option (List Char)
  | '\n' :: rest => some rest
  | '\r' :: '\n' :: rest => some rest
  | _ => none

/-- The rest after the end of a line, which a comment may precede. -/
def lineEnd? (cs : List Char) : Option (List Char) :=
  let rest := match skipSpaces cs with
    | '#' :: rest => rest.dropWhile isPlain
    | rest => rest
  if rest.isEmpty then some [] else newline? rest

/-- Drops blanks, line ends and comments; `comment` says whether the text starts inside one. -/
def skipTrivia (comment : Bool) : List Char → List Char
  | [] => []
  | '\n' :: rest => skipTrivia false rest
  | '\r' :: '\n' :: rest => skipTrivia false rest
  | c :: rest =>
    if comment then if isPlain c then skipTrivia true rest else c :: rest
    else if c = '#' then skipTrivia true rest
    else if isSpace c then skipTrivia false rest
    else c :: rest

/-- Drops blanks and line ends. -/
def skipLines : List Char → List Char
  | '\n' :: rest => skipLines rest
  | '\r' :: '\n' :: rest => skipLines rest
  | c :: rest => if isSpace c then skipLines rest else c :: rest
  | [] => []

/-! ### Strings -/

/-- The character with a code of so many hexadecimal digits. -/
def codePoint? (digits : Nat) (cs : List Char) : Option (Char × List Char) := do
  let values ← (cs.take digits).mapM hexValue?
  let code := values.foldl (fun code digit => code * 16 + digit) 0
  if values.length = digits ∧ code.isValidChar then some (Char.ofNat code, cs.drop digits)
  else none

/-- The character after a backslash. -/
def escape? : List Char → Option (Char × List Char)
  | 'b' :: rest => some (Char.ofNat 8, rest)
  | 't' :: rest => some ('\t', rest)
  | 'n' :: rest => some ('\n', rest)
  | 'f' :: rest => some (Char.ofNat 12, rest)
  | 'r' :: rest => some ('\r', rest)
  | '"' :: rest => some ('"', rest)
  | '\\' :: rest => some ('\\', rest)
  | 'u' :: rest => codePoint? 4 rest
  | 'U' :: rest => codePoint? 8 rest
  | _ => none

/-- The rest of a string on one line. Between single quotes a backslash is a character. -/
def readShort (quote : Char) : (fuel : Nat) → List Char → Option (List Char × List Char)
  | 0, _ => none
  | fuel + 1, cs =>
    match cs with
    | [] => none
    | c :: rest =>
      if c = quote then some ([], rest)
      else if c = '\\' ∧ quote = '"' then do
        let (c, rest) ← escape? rest
        let (text, rest) ← readShort quote fuel rest
        return (c :: text, rest)
      else if isPlain c then
        (readShort quote fuel rest).map fun (text, rest) => (c :: text, rest)
      else none

/-- The rest after three quotes, with up to two more that belong to the text before them. -/
def longEnd? (quote : Char) (cs : List Char) : Option (List Char × List Char) := do
  let rest ← dropLead [quote, quote, quote] cs
  let more := ((rest.take 2).takeWhile (· == quote))
  return (more, rest.drop more.length)

/-- The rest of a string over several lines. A backslash at the end of a line drops the blanks and
line ends that follow. -/
def readLong (quote : Char) : (fuel : Nat) → List Char → Option (List Char × List Char)
  | 0, _ => none
  | fuel + 1, cs =>
    match longEnd? quote cs with
    | some found => some found
    | none =>
      match cs with
      | [] => none
      | '\n' :: rest => (readLong quote fuel rest).map fun (text, rest) => ('\n' :: text, rest)
      | '\r' :: '\n' :: rest =>
        (readLong quote fuel rest).map fun (text, rest) => ('\n' :: text, rest)
      | c :: rest =>
        if c = '\\' ∧ quote = '"' then
          match newline? (skipSpaces rest) with
          | some rest => readLong quote fuel (skipLines rest)
          | none => do
            let (c, rest) ← escape? rest
            let (text, rest) ← readLong quote fuel rest
            return (c :: text, rest)
        else if isPlain c then
          (readLong quote fuel rest).map fun (text, rest) => (c :: text, rest)
        else none

/-- A string after its first quote. A line end right after three quotes does not count. -/
def readString? (quote : Char) (cs : List Char) : Option (String × List Char) :=
  let found := match dropLead [quote, quote] cs with
    | some rest => readLong quote (rest.length + 1) ((newline? rest).getD rest)
    | none => readShort quote (cs.length + 1) cs
  found.map fun (text, rest) => (String.ofList text, rest)

/-! ### Keys -/

def readKeyPart? (cs : List Char) : Option (String × List Char) :=
  match cs with
  | '"' :: rest => (readShort '"' (rest.length + 1) rest).map fun (k, r) => (String.ofList k, r)
  | '\'' :: rest => (readShort '\'' (rest.length + 1) rest).map fun (k, r) => (String.ofList k, r)
  | _ =>
    let key := cs.takeWhile isKeyChar
    if key.isEmpty then none else some (String.ofList key, cs.drop key.length)

/-- The parts of a key, with dots between them and blanks around them; `parts` bounds their
number. -/
def readKey : (parts : Nat) → List Char → Option (List String × List Char)
  | 0, _ => none
  | parts + 1, cs => do
    let (key, rest) ← readKeyPart? (skipSpaces cs)
    match skipSpaces rest with
    | '.' :: rest =>
      let (keys, rest) ← readKey parts rest
      return (key :: keys, rest)
    | rest => return ([key], rest)

/-- A key has fewer than eighty parts. -/
def readKey? (cs : List Char) : Option (List String × List Char) := readKey 79 cs

/-! ### Numbers -/

/-- Digits, with single underscores between them. -/
def digitRun (ok : Char → Bool) (inside : Bool) : List Char → List Char × List Char
  | [] => ([], [])
  | c :: rest =>
    if ok c then
      let (digits, rest) := digitRun ok true rest
      (c :: digits, rest)
    else if inside && c == '_' && rest.head?.any ok then digitRun ok false rest
    else ([], c :: rest)

def digits? (ok : Char → Bool) (cs : List Char) : Option (List Char × List Char) :=
  let (digits, rest) := digitRun ok false cs
  if digits.isEmpty then none else some (digits, rest)

/-- Whether there is a minus sign, and what follows the sign. -/
def sign : List Char → Bool × List Char
  | '-' :: rest => (true, rest)
  | '+' :: rest => (false, rest)
  | rest => (false, rest)

/-- Decimal digits without a leading zero, other than zero itself. -/
def decimal? : List Char → Option (List Char × List Char)
  | '0' :: rest => some (['0'], rest)
  | cs => digits? isDigit cs

/-- The digits after a point, if there is a point. -/
def fraction? : List Char → Option (Option (List Char) × List Char)
  | '.' :: rest => (digits? isDigit rest).map fun (digits, rest) => (some digits, rest)
  | rest => some (none, rest)

/-- The power of ten after `e`, if there is one. -/
def power? : List Char → Option (Option Int × List Char)
  | [] => some (none, [])
  | c :: rest =>
    if c = 'e' ∨ c = 'E' then
      let (negative, rest) := sign rest
      (digits? isDigit rest).map fun (digits, rest) =>
        let power : Int := valueOf 10 digits
        (some (if negative then -power else power), rest)
    else some (none, c :: rest)

/-- `inf` and `nan`, after a sign. -/
def specialFloat? (negative : Bool) (cs : List Char) : Option (TomlValue × List Char) :=
  match dropLead "inf".toList cs, dropLead "nan".toList cs with
  | some rest, _ => some (.float (.infinite negative), rest)
  | _, some rest => some (.float .nan, rest)
  | _, _ => none

/-- A float: it has a point or a power. One that is too great is an error. -/
def readFloat? (cs : List Char) : Option (TomlValue × List Char) := do
  let (negative, cs) := sign cs
  let written : Option (TomlValue × List Char) := do
    let (whole, rest) ← decimal? cs
    let (fraction, rest) ← fraction? rest
    let (power, rest) ← power? rest
    if fraction.isNone && power.isNone then none
    let after := fraction.getD []
    let value := Binary64.ofDecimal negative (valueOf 10 (whole ++ after))
      (power.getD 0 - after.length)
    if value = .infinite false then none else some (.float value, rest)
  written <|> specialFloat? negative cs

def readInteger? (cs : List Char) : Option (TomlValue × List Char) := do
  let (value, rest) : Int × List Char ← match cs with
    | '0' :: 'x' :: rest =>
      (digits? (fun c => (hexValue? c).isSome) rest).map fun (ds, r) => (↑(valueOf 16 ds), r)
    | '0' :: 'o' :: rest =>
      (digits? (fun c => '0' ≤ c && c ≤ '7') rest).map fun (ds, r) => (↑(valueOf 8 ds), r)
    | '0' :: 'b' :: rest =>
      (digits? (fun c => c == '0' || c == '1') rest).map fun (ds, r) => (↑(valueOf 2 ds), r)
    | cs =>
      let (negative, cs) := sign cs
      (decimal? cs).map fun (ds, r) =>
        let value : Int := valueOf 10 ds
        (if negative then -value else value, r)
  if fitsSignedWord value then some (.integer value, rest) else none

def readNumber? (cs : List Char) : Option (TomlValue × List Char) :=
  readDateTime? .written cs <|> readFloat? cs <|> readInteger? cs

end ComposeCheck.Toml
