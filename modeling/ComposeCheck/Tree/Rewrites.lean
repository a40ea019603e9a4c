import ComposeCheck.Tree.Node

/-!
# Rewrites

A rewrite gives a node a new text. Rendering a node writes the text of the outermost rewritten nodes
in its subtree and copies every other byte of the source, gaps between children included.
-/

namespace ComposeCheck

/-- New texts by node number. -/
structure Rewrites where
  texts : List (Nat × String)

namespace Rewrites

def none : Rewrites := ⟨[]⟩

def isEmpty (rewrites : Rewrites) : Bool := rewrites.texts.isEmpty

/-- The number of rewritten nodes. -/
def size (rewrites : Rewrites) : Nat := rewrites.texts.length

def find? (rewrites : Rewrites) (id : Nat) : Option String := rewrites.texts.lookup id

/-- Gives a node a new text, in place of an earlier one. -/
def set (rewrites : Rewrites) (id : Nat) (text : String) : Rewrites :=
  ⟨(id, text) :: rewrites.texts.filter fun (other, _) => other != id⟩

/-- Whether a node of a subtree is rewritten. -/
def touches (rewrites : Rewrites) (place : Place) : Bool :=
  rewrites.texts.any fun (id, _) => place.id ≤ id && id ≤ place.last

mutual

def bytesOf (rewrites : Rewrites) (source : Source) : Tree Place → ByteArray
  | .node place ts =>
    match rewrites.find? place.id with
    | some text => text.toUTF8
    | .none => bytesOfForest rewrites source place.start place.stop ts

/-- The bytes from `cursor` to `stop` with the rewrites in the subtrees on the way. -/
def bytesOfForest (rewrites : Rewrites) (source : Source) (cursor stop : Nat) :
    List (Tree Place) → ByteArray
  | [] => source.slice cursor stop
  | t :: ts =>
    source.slice cursor t.label.start ++ bytesOf rewrites source t ++
      bytesOfForest rewrites source (max cursor t.label.stop) stop ts

end

end Rewrites

def Node.currentText (rewrites : Rewrites) (n : Node) : String :=
  if rewrites.touches n.place then
    (String.fromUTF8? (rewrites.bytesOf n.source n.tree)).getD ""
  else n.text

namespace SyntaxTree

/-- The text of the whole file with the rewrites in it. -/
def render (rewrites : Rewrites) (tree : SyntaxTree) : String :=
  if rewrites.isEmpty then tree.source.text
  else
    let before := tree.source.slice 0 tree.root.label.start
    let after := tree.source.slice tree.root.label.stop tree.source.bytes.size
    (String.fromUTF8? (before ++ rewrites.bytesOf tree.source tree.root ++ after)).getD ""

def debug (rewrites : Rewrites) (tree : SyntaxTree) : String :=
  s!"SyntaxTree \x7b nodes: {tree.size}, has_errors: {tree.hasErrors}, " ++
    s!"rewrites: {rewrites.size} \x7d"

end SyntaxTree

end ComposeCheck
