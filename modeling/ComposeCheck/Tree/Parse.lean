import ComposeCheck.Tree.Basic

/-!
# What a grammar says about a text

Reading Kotlin is the grammar's work and a parameter of this library: a `Parser` answers with the
tree that the grammar builds for a text.
-/

namespace ComposeCheck

/-- What the grammar says about one node: its kind, whether it is a named node or a bare token,
whether it is an extra such as a comment, and the bytes it covers. -/
structure Shape where
  kind : String
  named : Bool
  extra : Bool
  start : Nat
  stop : Nat

/-- A node as it comes from the grammar. -/
abbrev ParseTree := Tree Shape

/-- The grammar's answer for a text. -/
structure Parse where
  root : ParseTree
  hasError : Bool

/-- A grammar, as a function from texts to parses. -/
abbrev Parser := String → Option Parse

def Shape.isComment (shape : Shape) : Bool :=
  shape.kind == "line_comment" || shape.kind == "block_comment"

namespace ParseTree

/-- One entry of a flat listing: a node and the number of its children, which follow it. -/
structure Entry where
  shape : Shape
  children : Nat

/-- Reads `count` trees off a listing; what is left over comes back too. The listing's length
bounds the number of steps. -/
def readForest : (fuel count : Nat) → List Entry → Option (List ParseTree × List Entry)
  | _, 0, rest => some ([], rest)
  | 0, _ + 1, _ => none
  | _ + 1, _ + 1, [] => none
  | fuel + 1, count + 1, entry :: rest => do
    let (children, rest) ← readForest fuel entry.children rest
    let (others, rest) ← readForest fuel count rest
    return (.node entry.shape children :: others, rest)

/-- Builds the tree of a listing in which every node stands before its children. -/
def ofEntries? (entries : List Entry) : Option ParseTree :=
  match readForest (entries.length + 1) 1 entries with
  | some ([tree], []) => some tree
  | _ => none

end ParseTree

end ComposeCheck
