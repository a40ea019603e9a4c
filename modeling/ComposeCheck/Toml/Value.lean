import ComposeCheck.Decimal.Shortest
import ComposeCheck.Text.Chars

/-!
# TOML values

The values of a TOML document and their text on one line. Tables hold their entries in the order in
which they are written.
-/

namespace ComposeCheck

/-- A TOML value. A date, a time or both is kept as its text in normal form. -/
inductive TomlValue where
  | string (text : String)
  | integer (value : Int)
  | float (value : Binary64)
  | boolean (value : Bool)
  | date (text : String)
  | array (items : List TomlValue)
  | table (entries : List (String × TomlValue))

namespace Toml

def dateKey : String := "$__toml_private_datetime"

/-- Letters, digits, `-` and `_`: keys of these need no quotes. -/
def isKeyChar (c : Char) : Bool :=
  ('a' ≤ c && c ≤ 'z') || ('A' ≤ c && c ≤ 'Z') || Text.isDigit c || c == '-' || c == '_'

/-- Control characters other than tab and line feed, which only an escape can show. -/
def isControl (c : Char) : Bool :=
  (c.toNat < 32 && c != '\t' && c != '\n') || c.toNat == 127

def longestRun (c : Char) (cs : List Char) : Nat :=
  (cs.foldl (fun (longest, run) d =>
    let run := if d = c then run + 1 else 0
    (max longest run, run)) (0, 0)).1

/-- An upper-case hexadecimal digit. -/
def hexDigit (n : Nat) : Char := if n < 10 then Char.ofNat (48 + n) else Char.ofNat (55 + n)

/-- A character between double quotes. -/
def escape (c : Char) : List Char :=
  if c = '\\' then ['\\', '\\']
  else if c = '"' then ['\\', '"']
  else if c = '\n' then ['\\', 'n']
  else if c = '\t' then ['\\', 't']
  else if c = '\r' then ['\\', 'r']
  else if c.toNat = 8 then ['\\', 'b']
  else if c.toNat = 12 then ['\\', 'f']
  else if isControl c then
    ['\\', 'u', '0', '0', hexDigit (c.toNat / 16), hexDigit (c.toNat % 16)]
  else [c]

/-- The text between double quotes. -/
def escaped (cs : List Char) : List Char := cs.flatMap escape

/-- The text between triple double quotes: line feeds stand for themselves, and so do double quotes
unless they are the third in a row. -/
def escapedLong (run : Nat) : List Char → List Char
  | [] => []
  | c :: cs =>
    if c = '\n' then '\n' :: escapedLong 0 cs
    else if c = '"' then
      if run = 2 then '\\' :: '"' :: escapedLong 0 cs else '"' :: escapedLong (run + 1) cs
    else escape c ++ escapedLong 0 cs

def delimited (delimiter : String) (body : List Char) : List Char :=
  delimiter.toList ++ body ++ delimiter.toList

/-- A string in the first of these styles that shows it without escapes: double quotes, single
quotes, triple double quotes, triple single quotes. If none does, double quotes with escapes. -/
def quoteString (text : String) : String :=
  let cs := text.toList
  let lead := if cs.contains '\n' then ['\n'] else []
  let oneLine := lead.isEmpty
  let doubles := longestRun '"' cs
  let singles := longestRun '\'' cs
  let plain := !cs.any isControl
  String.ofList
    (if plain && !cs.contains '\\' && doubles = 0 && oneLine then delimited "\"" (escaped cs)
    else if plain && singles = 0 && oneLine then delimited "'" cs
    else if plain && !cs.contains '\\' && doubles ≤ 2 then
      delimited "\"\"\"" (lead ++ escapedLong 0 cs)
    else if plain && singles ≤ 2 then delimited "'''" (lead ++ cs)
    else if oneLine then delimited "\"" (escaped cs)
    else delimited "\"\"\"" (lead ++ escapedLong 0 cs))

def quoteKey (key : String) : String :=
  let cs := key.toList
  let plain := !cs.any isControl && !cs.contains '\n'
  if !cs.isEmpty && cs.all isKeyChar then key
  else String.ofList
    (if plain && !cs.contains '\\' && !cs.contains '"' then delimited "\"" (escaped cs)
    else if plain && !cs.contains '\'' then delimited "'" cs
    else delimited "\"" (escaped cs))

end Toml

namespace TomlValue

mutual

def text : TomlValue → String
  | string text => Toml.quoteString text
  | integer value => toString value
  | float value => if value = .nan then "nan" else value.text
  | boolean value => toString value
  | date text => text
  | array items => "[" ++ ", ".intercalate (itemTexts items) ++ "]"
  | table [] => "\x7b\x7d"
  | table entries => "\x7b " ++ ", ".intercalate (entryTexts entries) ++ " \x7d"

def itemTexts : List TomlValue → List String
  | [] => []
  | item :: items => text item :: itemTexts items

def entryTexts : List (String × TomlValue) → List String
  | [] => []
  | (key, value) :: entries => (Toml.quoteKey key ++ " = " ++ text value) :: entryTexts entries

end

mutual

/-- The value as the raw text of an option: strings without quotes, a date as the table that stands
for it, and the items of arrays with commas between them. -/
def optionText : TomlValue → String
  | string text => text
  | date text => (table [(Toml.dateKey, string text)]).text
  | array items => ",".intercalate (optionTexts items)
  | value => value.text

def optionTexts : List TomlValue → List String
  | [] => []
  | item :: items => optionText item :: optionTexts items

end

end TomlValue

end ComposeCheck
