/-!
# Text as a list of characters

Cutting, trimming and searching of text. The functions on `List Char` carry the rules; the ones on
`String` wrap them. Blanks are the characters with the Unicode property White_Space.
-/

namespace ComposeCheck.Text

/-- The characters with the property White_Space. -/
def isBlank (c : Char) : Bool :=
  let n := c.toNat
  (9 ≤ n && n ≤ 13) || n == 0x20 || n == 0x85 || n == 0xa0 || n == 0x1680 ||
    (0x2000 ≤ n && n ≤ 0x200a) || n == 0x2028 || n == 0x2029 || n == 0x202f || n == 0x205f ||
    n == 0x3000

def isDigit (c : Char) : Bool := '0' ≤ c && c ≤ '9'

def hexValue? (c : Char) : Option Nat :=
  if '0' ≤ c ∧ c ≤ '9' then some (c.toNat - 48)
  else if 'a' ≤ c ∧ c ≤ 'f' then some (c.toNat - 87)
  else if 'A' ≤ c ∧ c ≤ 'F' then some (c.toNat - 55)
  else none

def valueOf (base : Nat) (digits : List Char) : Nat :=
  digits.foldl (fun value c => value * base + (hexValue? c).getD 0) 0

/-- Lower-cases the ASCII letters and keeps every other character. -/
def asciiLower (c : Char) : Char :=
  if 'A' ≤ c && c ≤ 'Z' then Char.ofNat (c.toNat + 32) else c

/-! ### On characters -/

def trimStart (cs : List Char) : List Char := cs.dropWhile isBlank

def trimEnd (cs : List Char) : List Char := (cs.reverse.dropWhile isBlank).reverse

/-- Drops blanks at both ends. -/
def trim (cs : List Char) : List Char := trimEnd (trimStart cs)

/-- The rest of the text after `lead`, if it starts that way. -/
def dropLead : List Char → List Char → Option (List Char)
  | [], cs => some cs
  | _ :: _, [] => none
  | l :: ls, c :: cs => if l = c then dropLead ls cs else none

/-- The text before `tail`, if it ends that way. -/
def dropTail (tail cs : List Char) : Option (List Char) :=
  (dropLead tail.reverse cs.reverse).map List.reverse

/-- Splits around the first occurrence of `needle`. -/
def splitFirst (needle : List Char) : List Char → Option (List Char × List Char)
  | [] => if needle.isEmpty then some ([], []) else none
  | c :: cs =>
    match dropLead needle (c :: cs) with
    | some rest => some ([], rest)
    | none => (splitFirst needle cs).map fun (before, rest) => (c :: before, rest)

/-- The pieces between separators; without separators there is one piece. -/
def splitWhere {α : Type} (isSeparator : α → Bool) : List α → List (List α)
  | [] => [[]]
  | c :: cs =>
    if isSeparator c then [] :: splitWhere isSeparator cs
    else
      match splitWhere isSeparator cs with
      | [] => [[c]]
      | piece :: pieces => (c :: piece) :: pieces

def dropReturn (cs : List Char) : List Char := (dropTail ['\r'] cs).getD cs

/-- The lines of a text: pieces between line feeds, a carriage return before a line feed dropped. -/
def linesOf (cs : List Char) : List (List Char) :=
  let rec go : List (List Char) → List (List Char)
    | [] => []
    | [piece] => if piece.isEmpty then [] else [piece]
    | piece :: pieces => dropReturn piece :: go pieces
  go (splitWhere (· == '\n') cs)

/-! ### On strings -/

/-- The text without blanks at both ends. -/
def trimmed (s : String) : String := String.ofList (trim s.toList)

/-- The text after `lead`, if it starts that way. -/
def afterLead (lead s : String) : Option String :=
  (dropLead lead.toList s.toList).map String.ofList

/-- Whether the text starts with `lead`. -/
def hasLead (lead s : String) : Bool := (dropLead lead.toList s.toList).isSome

/-- Whether the text ends with `tail`. -/
def hasTail (tail s : String) : Bool := (dropTail tail.toList s.toList).isSome

/-- Splits around the first occurrence of `needle`. -/
def cut (needle s : String) : Option (String × String) :=
  (splitFirst needle.toList s.toList).map fun (a, b) => (String.ofList a, String.ofList b)

def pieces (isSeparator : Char → Bool) (s : String) : List String :=
  (splitWhere isSeparator s.toList).map String.ofList

def lines (s : String) : List String := (linesOf s.toList).map String.ofList

/-- Items separated by a comma or a semicolon, trimmed, blank ones dropped. -/
def items (s : String) : List String :=
  ((splitWhere (fun c => c == ',' || c == ';') s.toList).map trim).filterMap fun item =>
    if item.isEmpty then none else some (String.ofList item)

/-- The text with its ASCII letters in lower case. -/
def asciiLowered (s : String) : String := String.ofList (s.toList.map asciiLower)

/-- The text with every occurrence of `needle` removed, found from left to right. -/
def without (needle : List Char) (cs : List Char) : List Char :=
  let rec go : Nat → List Char → List Char
    | 0, cs => cs
    | fuel + 1, cs =>
      match splitFirst needle cs with
      | none => cs
      | some (before, rest) => before ++ go fuel rest
  if needle.isEmpty then cs else go cs.length cs

end ComposeCheck.Text
