import ComposeCheck.Text.CaseTable

/-!
# Letters

Upper and lower case, over the whole of Unicode. A character is looked up in
the first run that covers it; one that no run covers has no case and is its own image.
-/

namespace ComposeCheck.Text

/-- Whether a run `(first, last, step)` holds the code point. -/
def Table.inRun (n : Nat) : Nat × Nat × Nat → Bool
  | (first, last, step) => first ≤ n && n ≤ last && (n - first) % step == 0

def isUpper (c : Char) : Bool := Table.uppercase.any (Table.inRun c.toNat)

def isLower (c : Char) : Bool := Table.lowercase.any (Table.inRun c.toNat)

/-- Looks a character up among the images of several characters, then among the runs. -/
def Table.image (many : List (Nat × List Nat)) (runs : List (Nat × Nat × Nat × Nat)) (c : Char) :
    List Char :=
  match many.lookup c.toNat with
  | some image => image.map Char.ofNat
  | none =>
    match runs.find? fun (first, last, step, _) => Table.inRun c.toNat (first, last, step) with
    | some (first, _, _, target) => [Char.ofNat (target + (c.toNat - first))]
    | none => [c]

/-- The full upper-case mapping of a character. -/
def upperOf : Char → List Char := Table.image Table.toUpperMany Table.toUpper

/-- The full lower-case mapping of a character. -/
def lowerOf : Char → List Char := Table.image Table.toLowerMany Table.toLower

end ComposeCheck.Text
