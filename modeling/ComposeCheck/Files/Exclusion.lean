import ComposeCheck.Text.Chars
import ComposeCheck.Text.Places

/-!
# Patterns for files that are left out

In a pattern `?` is one character, `*` any characters, slashes too, and `[…]` and `[!…]` are one of
some characters or one of the others. `**` stands alone between slashes for any directories. A
pattern like `**/build/**` also leaves out what a path `/build/` leads to.
-/

namespace ComposeCheck

open Text

/-- One part of a pattern. -/
inductive ExclusionToken where
  | char (c : Char)
  | anyChar
  | anyText
  /-- Any directories: nothing, or text up to a slash, or the rest of the path. -/
  | directories
  | oneOf (ranges : List (Char × Char))
  | noneOf (ranges : List (Char × Char))
  deriving DecidableEq

namespace Exclusion

/-- The ranges between brackets; a single character is a range of one. -/
def ranges : List Char → List (Char × Char)
  | low :: '-' :: high :: rest => (low, high) :: ranges rest
  | c :: rest => (c, c) :: ranges rest
  | [] => []

/-- Splits at the first closing bracket after the first character. -/
def toBracket? : List Char → Option (List Char × List Char)
  | [] => none
  | first :: rest => (splitFirst [']'] rest).map fun (inside, rest) => (first :: inside, rest)

/-- Reads the parts of a pattern; `atStart` says whether a slash or nothing stands before. `none` if
the pattern is not valid. -/
def read : (fuel : Nat) → (atStart : Bool) → List Char → Option (List ExclusionToken)
  | 0, _, _ => none
  | fuel + 1, atStart, cs =>
    match cs with
    | [] => some []
    | '?' :: rest => (read fuel false rest).map (.anyChar :: ·)
    | '*' :: '*' :: '*' :: _ => none
    | '*' :: '*' :: rest =>
      if !atStart then none
      else
        match rest with
        | [] => some [.directories]
        | '/' :: rest => (read fuel true rest).map (.directories :: ·)
        | _ => none
    | '*' :: rest => (read fuel false rest).map (.anyText :: ·)
    | '[' :: '!' :: rest => do
      let (inside, rest) ← toBracket? rest
      return .noneOf (ranges inside) :: (← read fuel false rest)
    | '[' :: rest => do
      let (inside, rest) ← toBracket? rest
      return .oneOf (ranges inside) :: (← read fuel false rest)
    | c :: rest => (read fuel (c == '/') rest).map (.char c :: ·)

/-- Whether a character lies in one of the ranges. -/
def inRanges (ranges : List (Char × Char)) (c : Char) : Bool :=
  ranges.any fun (low, high) => low ≤ c && c ≤ high

/-- The places of a path behind one part of a pattern. -/
def reach (path : List Char) (places : Places) : ExclusionToken → Places
  | .char d => places.step (· == d) path
  | .anyChar => places.step (fun _ => true) path
  | .anyText => places.spread (fun _ => true) path
  | .directories =>
    let slashed := (places.spread (fun _ => true) path).step (· == '/') path
    (places.union slashed).union (places.finish path)
  | .oneOf ranges => places.step (inRanges ranges) path
  | .noneOf ranges => places.step (fun c => !inRanges ranges c) path

/-- Whether the parts of a pattern stand for a path. -/
def holds (tokens : List ExclusionToken) (path : List Char) : Bool :=
  (tokens.foldl (reach path) (.start path)).isAtEnd

/-- The part of a pattern that leads through a directory: what is left of it without `**`, if that
has a slash and no `*`. -/
def throughPart? (pattern : List Char) : Option (List Char) :=
  let part := without ['*', '*'] pattern
  if part.contains '/' && !part.contains '*' then some part else none

/-- Whether a pattern leaves out a path; `none` if the pattern is not valid. -/
def leavesOut? (pattern path : String) : Option Bool := do
  let tokens ← read (pattern.toList.length + 1) true pattern.toList
  let through := match throughPart? pattern.toList with
    | some part => (splitFirst part ('/' :: path.toList)).isSome
    | none => false
  return holds tokens path.toList || through

/-- Whether one of the patterns leaves out a path. The patterns are tried in order; one that is not
valid is an error unless an earlier one has decided. -/
def leaveOut (path : String) : List String → Except String Bool
  | [] => .ok false
  | pattern :: patterns =>
    match leavesOut? pattern path with
    | none => .error pattern
    | some true => .ok true
    | some false => leaveOut path patterns

end Exclusion

end ComposeCheck
