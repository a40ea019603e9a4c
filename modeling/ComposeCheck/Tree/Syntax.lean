import ComposeCheck.Tree.Recovery

/-!
# The syntax tree of a file

The recovered parse with every node numbered in preorder and placed on its line. A node's subtree
holds exactly the numbers from its own to `last`.
-/

namespace ComposeCheck

/-- A node of a file: its shape, its number, the last number of its subtree, and where it starts. -/
structure Place extends Shape where
  id : Nat
  last : Nat
  line : Nat
  column : Nat

/-- A file's text and its tree. -/
structure SyntaxTree where
  source : Source
  root : Tree Place
  hasErrors : Bool

namespace SyntaxTree

mutual

/-- Numbers the nodes of a tree from `next` on. -/
def number (source : Source) (next : Nat) : ParseTree → Tree Place
  | .node shape ts =>
    let place := { shape with
      id := next
      last := next + Tree.forestSize ts
      line := source.lineAt shape.start
      column := source.columnAt shape.start }
    .node place (numberForest source (next + 1) ts)

/-- Numbers the nodes of several trees from `next` on. -/
def numberForest (source : Source) (next : Nat) : List ParseTree → List (Tree Place)
  | [] => []
  | t :: ts => number source next t :: numberForest source (next + t.size) ts

end

/-- Reads a file: parses it, recovers misread declarations and numbers the nodes. `none` if the
grammar has no answer for the text. -/
def read? (parser : Parser) (text : String) : Option SyntaxTree := do
  let parse ← parser text
  let source := Source.ofText text
  return ⟨source, number source 0 (Recovery.recover parser source parse.root), parse.hasError⟩

def size (tree : SyntaxTree) : Nat := tree.root.size

end SyntaxTree

end ComposeCheck
