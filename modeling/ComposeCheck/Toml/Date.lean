import ComposeCheck.Toml.Value

/-!
# Dates and times

A date, a time of day, or both, the last with or without a distance from universal time. They are
read from the front of a text and kept in normal form: `T` between date and time, at most nine
digits of a second and no zeros at their end, and the distance as a sign, hours and minutes.

A document holds dates as values of their own. A table whose first key is `dateKey` stands for a
date too, which its value spells out; there the ranges are a little wider.
-/

namespace ComposeCheck.Toml

open Text

/-- How a date came about. -/
inductive DateForm where
  /-- It is a value of a document. -/
  | written
  /-- A string spells it out. -/
  | spelled
  deriving DecidableEq

def DateForm.lastHour : DateForm → Nat
  | written => 23
  | spelled => 24

/-- Whether so many hours and minutes are a distance from universal time. -/
def DateForm.isDistance : DateForm → (hours minutes : Nat) → Bool
  | written, hours, minutes => hours ≤ 23 && minutes ≤ 59
  | spelled, hours, minutes => hours * 60 + minutes ≤ 24 * 60

/-- So many digits, as written, with their value in a range. -/
def fixedDigits? (count low high : Nat) (cs : List Char) : Option (List Char × List Char) :=
  let digits := cs.take count
  let value := valueOf 10 digits
  if digits.length = count && digits.all isDigit && low ≤ value && value ≤ high then
    some (digits, cs.drop count)
  else none

def daysOf (year month : Nat) : Nat :=
  if month = 2 then
    if year % 4 = 0 ∧ (year % 100 ≠ 0 ∨ year % 400 = 0) then 29 else 28
  else if [4, 6, 9, 11].contains month then 30
  else 31

def readDate? (cs : List Char) : Option (List Char × List Char) := do
  let (year, rest) ← fixedDigits? 4 0 9999 cs
  let (month, rest) ← fixedDigits? 2 1 12 (← dropLead ['-'] rest)
  let (day, rest) ← fixedDigits? 2 1 31 (← dropLead ['-'] rest)
  if valueOf 10 day ≤ daysOf (valueOf 10 year) (valueOf 10 month) then
    return (year ++ '-' :: month ++ '-' :: day, rest)
  else none

/-- The fraction of a second: nine digits count, and zeros at the end are not shown. -/
def readSecondFraction (cs : List Char) : List Char × List Char :=
  match cs with
  | '.' :: rest =>
    let digits := rest.takeWhile isDigit
    let shown := ((digits.take 9).reverse.dropWhile (· == '0')).reverse
    if digits.isEmpty then ([], cs)
    else (if shown.isEmpty then [] else '.' :: shown, rest.drop digits.length)
  | _ => ([], cs)

/-- A time of day. The seconds may be sixty. -/
def readTime? (form : DateForm) (cs : List Char) : Option (List Char × List Char) := do
  let (hour, rest) ← fixedDigits? 2 0 form.lastHour cs
  let (minute, rest) ← fixedDigits? 2 0 59 (← dropLead [':'] rest)
  let (second, rest) ← fixedDigits? 2 0 60 (← dropLead [':'] rest)
  let (fraction, rest) := readSecondFraction rest
  return (hour ++ ':' :: minute ++ ':' :: second ++ fraction, rest)

/-- A number below a hundred as two digits. -/
def twoDigits (n : Nat) : List Char := [Nat.digitChar (n / 10), Nat.digitChar (n % 10)]

/-- The distance from universal time; a distance of zero has a plus sign. -/
def readOffset? (form : DateForm) : List Char → Option (List Char × List Char)
  | [] => none
  | c :: rest => do
    if c = 'Z' ∨ c = 'z' then return (['Z'], rest)
    if c ≠ '+' ∧ c ≠ '-' then none
    let (hours, rest) ← fixedDigits? 2 0 99 rest
    let (minutes, rest) ← fixedDigits? 2 0 99 (← dropLead [':'] rest)
    if !form.isDistance (valueOf 10 hours) (valueOf 10 minutes) then none
    let total := valueOf 10 hours * 60 + valueOf 10 minutes
    return ((if total = 0 then '+' else c) :: twoDigits (total / 60) ++
      ':' :: twoDigits (total % 60), rest)

def readTimeOfDate? (form : DateForm) : List Char → Option (List Char × List Char)
  | [] => none
  | c :: rest => do
    if c ≠ 'T' ∧ c ≠ 't' ∧ c ≠ ' ' then none
    let (time, rest) ← readTime? form rest
    let (offset, rest) := (readOffset? form rest).getD ([], rest)
    return ('T' :: time ++ offset, rest)

def readDateTime? (form : DateForm) (cs : List Char) : Option (TomlValue × List Char) :=
  let found := match readDate? cs with
    | some (date, rest) =>
      let (time, rest) := (readTimeOfDate? form rest).getD ([], rest)
      some (date ++ time, rest)
    | none => readTime? form cs
  found.map fun (text, rest) => (.date (String.ofList text), rest)

/-- The date that a text spells out from its first to its last character. -/
def dateOf? (text : String) : Option TomlValue :=
  match readDateTime? .spelled text.toList with
  | some (date, []) => some date
  | _ => none

/-- If the first key of a table says that it stands for a date: the date that its value spells out.
The other entries do not count. -/
def datedBy? : List (String × TomlValue) → Option (Option TomlValue)
  | (key, value) :: _ =>
    if key = dateKey then
      match value with
      | .string text => some (dateOf? text)
      | _ => some none
    else none
  | [] => none

/-- Puts an entry where it belongs in the order of the keys. -/
def insertEntry (entry : String × TomlValue) :
    List (String × TomlValue) → List (String × TomlValue)
  | [] => [entry]
  | other :: entries =>
    if entry.1 < other.1 then entry :: other :: entries
    else other :: insertEntry entry entries

end ComposeCheck.Toml

namespace ComposeCheck.TomlValue

mutual

/-- The value with its tables in the order of their keys and the tables that stand for dates
replaced by these. `none` if one of them spells out no date. -/
def settled? : TomlValue → Option TomlValue
  | array items => (settledItems? items).map array
  | table entries =>
    match Toml.datedBy? entries with
    | some date? => date?
    | none => (settledEntries? entries).map table
  | value => some value

def settledItems? : List TomlValue → Option (List TomlValue)
  | [] => some []
  | item :: items => do return (← settled? item) :: (← settledItems? items)

/-- The entries of a table, settled and in the order of their keys. -/
def settledEntries? : List (String × TomlValue) → Option (List (String × TomlValue))
  | [] => some []
  | (key, value) :: entries => do
    return Toml.insertEntry (key, ← settled? value) (← settledEntries? entries)

end

end ComposeCheck.TomlValue
