import ComposeCheck.Text.Chars

/-!
# Sets of characters

A set of characters is a list of ranges of code points in order, with a gap between one range and
the next, so that equal sets are equal lists. A range may reach over the surrogates, which are no
characters.
-/

namespace ComposeCheck

/-- A set of characters as ranges `(first, last)` in order. -/
structure CharSet where
  ranges : List (Nat × Nat)
  deriving DecidableEq

namespace CharSet

def lastPoint : Nat := 0x10ffff

/-- Joins the ranges that touch or overlap; the list is in the order of the first points. -/
def joinRanges (current : Nat × Nat) : List (Nat × Nat) → List (Nat × Nat)
  | [] => [current]
  | next :: ranges =>
    if next.1 ≤ current.2 + 1 then joinRanges (current.1, max current.2 next.2) ranges
    else current :: joinRanges next ranges

/-- The set of the characters in some ranges, in any order. -/
def ofRanges (ranges : List (Nat × Nat)) : CharSet :=
  match ranges.mergeSort fun a b => a.1 ≤ b.1 with
  | [] => ⟨[]⟩
  | first :: rest => ⟨joinRanges first rest⟩

def hasPoint (set : CharSet) (n : Nat) : Bool :=
  set.ranges.any fun (first, last) => first ≤ n && n ≤ last

def has (set : CharSet) (c : Char) : Bool := set.hasPoint c.toNat

def empty : CharSet := ⟨[]⟩

def everything : CharSet := ⟨[(0, lastPoint)]⟩

/-- The characters with the code points from one to another. -/
def range (first last : Nat) : CharSet := ⟨[(first, last)]⟩

def single (c : Char) : CharSet := range c.toNat c.toNat

def ofChars (cs : List Char) : CharSet := ofRanges (cs.map fun c => (c.toNat, c.toNat))

def union (a b : CharSet) : CharSet := ofRanges (a.ranges ++ b.ranges)

def unions (sets : List CharSet) : CharSet := ofRanges (sets.flatMap (·.ranges))

def gaps (place : Nat) : List (Nat × Nat) → List (Nat × Nat)
  | [] => if place ≤ lastPoint then [(place, lastPoint)] else []
  | (first, last) :: ranges =>
    if place < first then (place, first - 1) :: gaps (last + 1) ranges else gaps (last + 1) ranges

def complement (set : CharSet) : CharSet := ⟨gaps 0 set.ranges⟩

def inter (a b : CharSet) : CharSet := (a.complement.union b.complement).complement

/-- The characters of the first set that are not in the second. -/
def minus (a b : CharSet) : CharSet := a.inter b.complement

/-- The characters in exactly one of two sets. -/
def difference (a b : CharSet) : CharSet := (a.minus b).union (b.minus a)

def isAscii (set : CharSet) : Bool := set.ranges.all fun (_, last) => last < 128

/-! ### Sets in writing

A set is written as words with blanks between them, each a run of characters: the distance from the
last character before to the first of the run, in hexadecimal digits; then, after a point, how many
characters follow it, or after a colon how many follow it with a gap of one between them. -/

/-- The ranges of a word after a place, and the last place of the run. -/
def readRun (place : Nat) (word : List Char) : Nat × List (Nat × Nat) :=
  let isPlain (c : Char) : Bool := c != '.' && c != ':'
  let first := place + Text.valueOf 16 (word.takeWhile isPlain)
  match word.dropWhile isPlain with
  | '.' :: count =>
    let last := first + Text.valueOf 16 count
    (last, [(first, last)])
  | ':' :: count =>
    let count := Text.valueOf 16 count
    (first + 2 * count, (List.range (count + 1)).map fun k => (first + 2 * k, first + 2 * k))
  | _ => (first, [(first, first)])

def readRuns (place : Nat) : List (List Char) → List (Nat × Nat)
  | [] => []
  | word :: words =>
    let (place, ranges) := readRun place word
    ranges ++ readRuns place words

/-- The set that some lines of words stand for. -/
def ofLines (lines : List String) : CharSet :=
  ofRanges (readRuns 0 (lines.flatMap fun line => Text.splitWhere (· == ' ') line.toList))

end CharSet

end ComposeCheck
