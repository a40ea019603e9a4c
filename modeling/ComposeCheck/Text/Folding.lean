import ComposeCheck.Text.CharSet
import ComposeCheck.Text.FoldTable

/-!
# Letters that differ in case only

Two characters are the same but for their case if they fold to the same character. A set is closed
under case if with a character it has all those that are the same but for their case.
-/

namespace ComposeCheck.Text

/-- The characters that do not fold to themselves, each with what it folds to. -/
def Table.foldingPairs : List (Nat × Nat) :=
  Table.foldings.flatMap fun (first, last, step, image) =>
    (List.range ((last - first) / step + 1)).map fun k => (first + k * step, image + k * step)

end ComposeCheck.Text

namespace ComposeCheck.CharSet

/-- The characters that are the same as one of the set but for their case. -/
def ignoringCase (set : CharSet) : CharSet :=
  let images := ofRanges (Text.Table.foldingPairs.filterMap fun (c, image) =>
    if set.hasPoint c || set.hasPoint image then some (image, image) else none)
  let others := Text.Table.foldingPairs.filterMap fun (c, image) =>
    if images.hasPoint image then some (c, c) else none
  unions [set, images, ofRanges others]

/-- The characters that are the same as one of the set but for their case, where only the case of
ASCII letters counts. -/
def ignoringAsciiCase (set : CharSet) : CharSet :=
  let upper := (set.inter (range 97 122)).ranges.map fun (first, last) => (first - 32, last - 32)
  let lower := (set.inter (range 65 90)).ranges.map fun (first, last) => (first + 32, last + 32)
  set.union (ofRanges (upper ++ lower))

end ComposeCheck.CharSet
