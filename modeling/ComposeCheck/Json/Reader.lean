import ComposeCheck.Json.Value
import ComposeCheck.Text.Chars

/-!
# Reading JSON

A reader for the whole of JSON. Every scanner returns what is left of the text; the number of
characters bounds how deep and how far the reader goes. Bare control characters are refused.
-/

namespace ComposeCheck.JsonValue

open Text

def skipBlanks (cs : List Char) : List Char :=
  cs.dropWhile fun c => c == ' ' || c == '\t' || c == '\n' || c == '\r'

/-- The value of four hexadecimal digits. -/
def hexQuad? : List Char → Option (Nat × List Char)
  | a :: b :: c :: d :: rest => do
    let value := ((← hexValue? a) * 16 + (← hexValue? b)) * 256 +
      (← hexValue? c) * 16 + (← hexValue? d)
    return (value, rest)
  | _ => none

/-- The character of a `\u` escape, which may be written as two surrogates. -/
def unicodeEscape? (cs : List Char) : Option (Char × List Char) := do
  let (high, rest) ← hexQuad? cs
  if 0xdc00 ≤ high ∧ high < 0xe000 then none
  else if 0xd800 ≤ high ∧ high < 0xdc00 then
    match rest with
    | '\\' :: 'u' :: rest =>
      let (low, rest) ← hexQuad? rest
      if 0xdc00 ≤ low ∧ low < 0xe000 then
        return (Char.ofNat (0x10000 + (high - 0xd800) * 0x400 + (low - 0xdc00)), rest)
      else none
    | _ => none
  else return (Char.ofNat high, rest)

/-- The character after a backslash, the `u` of a code apart. -/
def simpleEscape? : Char → Option Char
  | '"' => some '"'
  | '\\' => some '\\'
  | '/' => some '/'
  | 'b' => some (Char.ofNat 8)
  | 'f' => some (Char.ofNat 12)
  | 'n' => some '\n'
  | 'r' => some '\r'
  | 't' => some '\t'
  | _ => none

/-- The rest of a string after its opening quote. -/
def readString : (fuel : Nat) → List Char → Option (List Char × List Char)
  | 0, _ => none
  | fuel + 1, cs =>
    match cs with
    | [] => none
    | '"' :: rest => some ([], rest)
    | '\\' :: 'u' :: rest => do
      let (c, rest) ← unicodeEscape? rest
      let (text, rest) ← readString fuel rest
      return (c :: text, rest)
    | '\\' :: e :: rest => do
      let c ← simpleEscape? e
      let (text, rest) ← readString fuel rest
      return (c :: text, rest)
    | c :: rest => do
      if c.toNat < 32 ∨ c = '\\' then none
      let (text, rest) ← readString fuel rest
      return (c :: text, rest)

/-- The rest of the text after a string, whether it is a text or not. -/
def skipString : (fuel : Nat) → List Char → Option (List Char)
  | 0, _ => none
  | fuel + 1, cs =>
    match cs with
    | [] => none
    | '"' :: rest => some rest
    | '\\' :: 'u' :: rest => do skipString fuel (← hexQuad? rest).2
    | '\\' :: e :: rest => do
      let _ ← simpleEscape? e
      skipString fuel rest
    | c :: rest => if c.toNat < 32 ∨ c = '\\' then none else skipString fuel rest

/-- A string after its opening quote: its text, if it is one, and what follows. -/
def readText? (cs : List Char) : Option (Option String × List Char) :=
  match readString (cs.length + 1) cs with
  | some (text, rest) => some (some (String.ofList text), rest)
  | none => (skipString (cs.length + 1) cs).map fun rest => (none, rest)

/-- The text between a place and a later one. -/
def between (cs rest : List Char) : String := String.ofList (cs.take (cs.length - rest.length))

/-- The fields of an object with their names, if all of these are texts. -/
def named? (fields : List (Option String × JsonValue)) : Option (List (String × JsonValue)) :=
  fields.mapM fun (name?, value) => name?.map fun name => (name, value)

/-- Digits after a point or an exponent mark: there has to be one. -/
def digits1? (cs : List Char) : Option (List Char × List Char) :=
  if (cs.takeWhile isDigit).isEmpty then none
  else some (cs.takeWhile isDigit, cs.dropWhile isDigit)

/-- The part of a number before its point: no zero stands before another digit. -/
def wholePart? (cs : List Char) : Option (List Char × List Char) := do
  let (whole, rest) ← digits1? cs
  if whole.head? = some '0' ∧ whole.length > 1 then none else some (whole, rest)

/-- The point and the digits after it, if there is a point. -/
def fraction? : List Char → Option (List Char × List Char)
  | '.' :: rest => (digits1? rest).map fun (ds, rest) => ('.' :: ds, rest)
  | rest => some ([], rest)

def exponent? : List Char → Option (List Char × List Char)
  | e :: rest =>
    if e = 'e' ∨ e = 'E' then
      match rest with
      | sign :: more =>
        if sign = '+' ∨ sign = '-' then
          (digits1? more).map fun (ds, rest) => (e :: sign :: ds, rest)
        else (digits1? rest).map fun (ds, rest) => (e :: ds, rest)
      | [] => none
    else some ([], e :: rest)
  | [] => some ([], [])

/-- A number: a natural number is one without sign, point and exponent. -/
def readNumber? (cs : List Char) : Option (JsonValue × List Char) := do
  let (sign, unsigned) := match cs with
    | '-' :: rest => (['-'], rest)
    | rest => ([], rest)
  let (whole, rest) ← wholePart? unsigned
  let (fraction, rest) ← fraction? rest
  let (exponent, rest) ← exponent? rest
  if sign.isEmpty && fraction.isEmpty && exponent.isEmpty then
    return (nat (whole.foldl (fun n c => n * 10 + (c.toNat - 48)) 0), rest)
  else return (real (String.ofList (sign ++ whole ++ fraction ++ exponent)), rest)

/-- One of the three words, or a number. -/
def readAtom? (cs : List Char) : Option (JsonValue × List Char) :=
  match dropLead "null".toList cs with
  | some rest => some (null, rest)
  | none =>
    match dropLead "true".toList cs with
    | some rest => some (bool true, rest)
    | none =>
      match dropLead "false".toList cs with
      | some rest => some (bool false, rest)
      | none => readNumber? cs

mutual

def readValue : (fuel : Nat) → List Char → Option (JsonValue × List Char)
  | 0, _ => none
  | fuel + 1, cs =>
    match skipBlanks cs with
    | '"' :: text => (readText? text).map fun (text?, rest) =>
        (match text? with
          | some text => str text
          | none => raw (between ('"' :: text) rest), rest)
    | '[' :: rest =>
      match skipBlanks rest with
      | ']' :: rest => some (arr [], rest)
      | rest => (readItems fuel rest).map fun (items, rest) => (arr items, rest)
    | '\x7b' :: rest =>
      match skipBlanks rest with
      | '\x7d' :: rest => some (obj [], rest)
      | text => (readFields fuel text).map fun (fields, rest) =>
        (match named? fields with
          | some fields => obj fields
          | none => raw (between ('\x7b' :: text) rest), rest)
    | rest => readAtom? rest

/-- The items of an array up to its closing bracket. -/
def readItems : (fuel : Nat) → List Char → Option (List JsonValue × List Char)
  | 0, _ => none
  | fuel + 1, cs => do
    let (item, rest) ← readValue fuel cs
    match skipBlanks rest with
    | ']' :: rest => return ([item], rest)
    | ',' :: rest =>
      let (items, rest) ← readItems fuel rest
      return (item :: items, rest)
    | _ => none

/-- The fields of an object up to its closing brace. -/
def readFields : (fuel : Nat) → List Char → Option (List (Option String × JsonValue) × List Char)
  | 0, _ => none
  | fuel + 1, cs =>
    match skipBlanks cs with
    | '"' :: rest => do
      let (name?, rest) ← readText? rest
      match skipBlanks rest with
      | ':' :: rest =>
        let (value, rest) ← readValue fuel rest
        let field := (name?, value)
        match skipBlanks rest with
        | '\x7d' :: rest => return ([field], rest)
        | ',' :: rest =>
          let (fields, rest) ← readFields fuel rest
          return (field :: fields, rest)
        | _ => none
      | _ => none
    | _ => none

end

def read? (text : String) : Option JsonValue := do
  let cs := text.toList
  let (value, rest) ← readValue (2 * cs.length + 2) cs
  if (skipBlanks rest).isEmpty then some value else none

end ComposeCheck.JsonValue
