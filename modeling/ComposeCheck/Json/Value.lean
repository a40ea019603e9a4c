/-!
# JSON values

Values with their fields in the order in which they are written, and two printed forms: one without
any blanks, and one with a line for every item.
-/

namespace ComposeCheck

/-- A JSON value. Natural numbers are kept apart from all other numbers, which keep their text. Some
strings are no text, because an escape in them stands for half of a character; such a string, and an
object with such a name, keeps its text as a whole. -/
inductive JsonValue where
  | null
  | bool (value : Bool)
  | nat (value : Nat)
  | real (literal : String)
  | str (text : String)
  | arr (items : List JsonValue)
  | obj (fields : List (String × JsonValue))
  | raw (literal : String)

namespace JsonValue

/-- A hexadecimal digit, in lower case. -/
def hexDigit (n : Nat) : Char := if n < 10 then Char.ofNat (48 + n) else Char.ofNat (87 + n)

/-- A character as it stands inside a JSON string. -/
def escape (c : Char) : List Char :=
  if c = '"' then ['\\', '"']
  else if c = '\\' then ['\\', '\\']
  else if c = '\n' then ['\\', 'n']
  else if c = '\r' then ['\\', 'r']
  else if c = '\t' then ['\\', 't']
  else if c.toNat = 8 then ['\\', 'b']
  else if c.toNat = 12 then ['\\', 'f']
  else if c.toNat < 32 then
    ['\\', 'u', '0', '0', hexDigit (c.toNat / 16), hexDigit (c.toNat % 16)]
  else [c]

def quote (text : String) : String :=
  String.ofList ('"' :: (text.toList.flatMap escape ++ ['"']))

mutual

def compact : JsonValue → String
  | null => "null"
  | bool value => toString value
  | nat value => toString value
  | real literal => literal
  | raw literal => literal
  | str text => quote text
  | arr items => "[" ++ ",".intercalate (compactItems items) ++ "]"
  | obj fields => "\x7b" ++ ",".intercalate (compactFields fields) ++ "\x7d"

/-- The items of an array without blanks. -/
def compactItems : List JsonValue → List String
  | [] => []
  | item :: items => compact item :: compactItems items

/-- The fields of an object without blanks. -/
def compactFields : List (String × JsonValue) → List String
  | [] => []
  | (name, value) :: fields => (quote name ++ ":" ++ compact value) :: compactFields fields

end

/-- Blanks at the start of a line, two for each level. -/
def indent (depth : Nat) : String := String.ofList (List.replicate (2 * depth) ' ')

/-- Brackets around items that stand on lines of their own; nothing between them if there are no
items. -/
def block (depth : Nat) (opening closing : String) (items : List String) : String :=
  if items.isEmpty then opening ++ closing
  else
    opening ++ "\n" ++ ",\n".intercalate (items.map (indent (depth + 1) ++ ·)) ++ "\n" ++
      indent depth ++ closing

mutual

/-- The value over several lines, at a depth. -/
def prettyAt (depth : Nat) : JsonValue → String
  | null => "null"
  | bool value => toString value
  | nat value => toString value
  | real literal => literal
  | raw literal => literal
  | str text => quote text
  | arr items => block depth "[" "]" (prettyItems (depth + 1) items)
  | obj fields => block depth "\x7b" "\x7d" (prettyFields (depth + 1) fields)

def prettyItems (depth : Nat) : List JsonValue → List String
  | [] => []
  | item :: items => prettyAt depth item :: prettyItems depth items

def prettyFields (depth : Nat) : List (String × JsonValue) → List String
  | [] => []
  | (name, value) :: fields =>
    (quote name ++ ": " ++ prettyAt depth value) :: prettyFields depth fields

end

/-- The value over several lines. -/
def pretty (value : JsonValue) : String := prettyAt 0 value

end JsonValue

end ComposeCheck
