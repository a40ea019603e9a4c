import ComposeCheck.Text.Chars

/-!
# Allow comments

A finding is dropped when its line, or the line above, carries a comment such as
`// compose-lint: allow(modifier-missing, material2) reason="legacy screen"`. The item `all` stands
for every rule.
-/

namespace ComposeCheck

open Text

/-- An allow comment: the rules it names and the reason it gives. -/
structure Allowance where
  rules : List String
  reason : Option String

namespace Allowance

/-- The text of a line's comment: after the first `//`, or else after the first block opener. -/
def commentOf (line : List Char) : Option (List Char) :=
  ((splitFirst ['/', '/'] line).or (splitFirst ['/', '*'] line)).map fun (_, comment) =>
    trim ((comment.dropWhile (· == '/')).dropWhile (· == '*'))

/-- The reason after the list of rules: `reason="…"`. -/
def reasonOf (rest : List Char) : Option String := do
  let value ← dropLead "reason=".toList (trim rest)
  let quoted ← dropLead ['"'] (trim value)
  let (reason, _) ← splitFirst ['"'] quoted
  return String.ofList reason

/-- Reads the allow comment of a line, if it has one that names a rule. -/
def read? (line : List Char) : Option Allowance := do
  let comment ← commentOf line
  let directive ← dropLead "compose-lint:".toList comment
  let list ← dropLead "allow(".toList (trim directive)
  let (inside, rest) ← splitFirst [')'] list
  let rules := ((splitWhere (· == ',') inside).map trim).filter fun rule => !rule.isEmpty
  if rules.isEmpty then none else some ⟨rules.map String.ofList, reasonOf rest⟩

/-- Whether the comment names one of the ids, or `all`. -/
def covers (allowance : Allowance) (ids : List String) : Bool :=
  allowance.rules.contains "all" || ids.any allowance.rules.contains

/-- The allow comment that covers the ids on this line (counted from 1) or on the one above. -/
def at? (lines : List String) (line : Nat) (ids : List String) : Option Allowance :=
  [line - 1, line].findSome? fun number =>
    if number = 0 then none
    else do
      let text ← lines[number - 1]?
      let allowance ← read? text.toList
      if allowance.covers ids then some allowance else none

end Allowance

end ComposeCheck
