import ComposeCheck.Tree.Syntax

/-!
# Nodes

A node is a subtree together with the path above it: at each step up, the parent's place and the
siblings on both sides. Moves up, down and sideways only shift the focus, so parents, siblings and
children belong together by construction.
-/

namespace ComposeCheck

/-- One step up: the parent's place and the focus's siblings, the nearest first on both sides. -/
structure Frame where
  parent : Place
  before : List (Tree Place)
  after : List (Tree Place)

/-- A node in its file. -/
structure Node where
  source : Source
  tree : Tree Place
  path : List Frame

namespace SyntaxTree

def rootNode (tree : SyntaxTree) : Node := ⟨tree.source, tree.root, []⟩

end SyntaxTree

namespace Node

def place (n : Node) : Place := n.tree.label

def id (n : Node) : Nat := n.place.id

def kind (n : Node) : String := n.place.kind

/-- Whether a node is a named node rather than a bare token. -/
def named (n : Node) : Bool := n.place.named

def isComment (n : Node) : Bool := n.place.isComment

/-- Whether a node is the bare token written this way. -/
def isToken (token : String) (n : Node) : Bool := !n.named && n.kind == token

def isContent (n : Node) : Bool := n.named && !n.isComment

def start (n : Node) : Nat := n.place.start

def stop (n : Node) : Nat := n.place.stop

def line (n : Node) : Nat := n.place.line

def column (n : Node) : Nat := n.place.column

def text (n : Node) : String := n.source.textBetween n.start n.stop

def size (n : Node) : Nat := n.tree.size

/-- Two nodes of one file are the same node if they have the same number. -/
instance : BEq Node := ⟨fun a b => a.id == b.id⟩

/-! ### Moves -/

def parent? (n : Node) : Option Node :=
  match n.path with
  | [] => none
  | frame :: path =>
    some ⟨n.source, .node frame.parent (frame.before.reverse ++ n.tree :: frame.after), path⟩

def focuses (source : Source) (path : List Frame) (parent : Place) :
    (before after : List (Tree Place)) → List Node
  | _, [] => []
  | before, t :: after =>
    ⟨source, t, ⟨parent, before, after⟩ :: path⟩ :: focuses source path parent (t :: before) after

/-- The nodes directly below, bare tokens included. -/
def children (n : Node) : List Node := focuses n.source n.path n.place [] n.tree.children

def namedChildren (n : Node) : List Node := n.children.filter isContent

def firstNamedChild? (n : Node) : Option Node := n.namedChildren.head?

def childrenOfKind (kind : String) (n : Node) : List Node := n.children.filter (·.kind == kind)

def childOfKind? (kind : String) (n : Node) : Option Node := n.children.find? (·.kind == kind)

/-- Whether a bare token stands among the children. -/
def hasToken (token : String) (n : Node) : Bool := n.children.any (isToken token)

/-- The siblings before a node, the nearest first. -/
def siblingsBefore (n : Node) : List Node :=
  match n.path with
  | [] => []
  | frame :: path => go path frame.parent n.tree frame.after frame.before
where
  go (path : List Frame) (parent : Place) (nearest : Tree Place) (after : List (Tree Place)) :
      List (Tree Place) → List Node
    | [] => []
    | t :: before =>
      ⟨n.source, t, ⟨parent, before, nearest :: after⟩ :: path⟩ ::
        go path parent t (nearest :: after) before

def siblingsAfter (n : Node) : List Node :=
  match n.path with
  | [] => []
  | frame :: path => focuses n.source path frame.parent (n.tree :: frame.before) frame.after

def previous? (n : Node) : Option Node := n.siblingsBefore.head?

def next? (n : Node) : Option Node := n.siblingsAfter.head?

/-- The nearest named sibling after a node that is no comment. -/
def nextNamed? (n : Node) : Option Node := n.siblingsAfter.find? isContent

/-! ### Walks -/

/-- The nodes above a subtree with this path, the nearest first. -/
def ancestorsOf (source : Source) : Tree Place → List Frame → List Node
  | _, [] => []
  | t, frame :: path =>
    let above := .node frame.parent (frame.before.reverse ++ t :: frame.after)
    ⟨source, above, path⟩ :: ancestorsOf source above path

/-- The nodes above, from the parent up to the root. -/
def ancestors (n : Node) : List Node := ancestorsOf n.source n.tree n.path

def ancestorsBelow (n boundary : Node) : List Node :=
  n.ancestors.takeWhile fun ancestor => !(ancestor == boundary)

def ancestorOfKind? (kind : String) (n : Node) : Option Node :=
  n.ancestors.find? (·.kind == kind)

/-- Whether another node lies strictly inside a node's subtree. -/
def isAncestorOf (n other : Node) : Bool := n.id < other.id && other.id ≤ n.place.last

/-- The walk backwards through the file: the siblings before a node, nearest first, then the parent,
then the siblings before the parent, and so on up. It ends before it would reach `stop`. -/
def walkBackwards (stop : Option Node) (n : Node) : List Node :=
  n.siblingsBefore ++
    (n.ancestors.takeWhile fun ancestor => !stop.any (· == ancestor)).flatMap fun ancestor =>
      ancestor :: ancestor.siblingsBefore

mutual

/-- A subtree's nodes, each before the nodes below it. -/
def preorderOf (source : Source) (path : List Frame) : Tree Place → List Node
  | .node place ts =>
    ⟨source, .node place ts, path⟩ :: preorderForest source path place [] ts

/-- The nodes of several siblings' subtrees, one subtree after the other. -/
def preorderForest (source : Source) (path : List Frame) (parent : Place)
    (before : List (Tree Place)) : List (Tree Place) → List Node
  | [] => []
  | t :: ts =>
    preorderOf source (⟨parent, before, ts⟩ :: path) t ++
      preorderForest source path parent (t :: before) ts

end

/-- A node and all nodes below it, each before the nodes below it. -/
def preorder (n : Node) : List Node := preorderOf n.source n.path n.tree

/-- Puts the levels of neighbouring subtrees side by side. -/
def joinLevels : List (List Node) → List (List Node) → List (List Node)
  | [], levels => levels
  | levels, [] => levels
  | a :: as, b :: bs => (a ++ b) :: joinLevels as bs

mutual

/-- A subtree's nodes level by level, from the top down. -/
def levelsOf (source : Source) (path : List Frame) : Tree Place → List (List Node)
  | .node place ts =>
    [⟨source, .node place ts, path⟩] :: levelsForest source path place [] ts

/-- The levels of several siblings' subtrees. -/
def levelsForest (source : Source) (path : List Frame) (parent : Place)
    (before : List (Tree Place)) : List (Tree Place) → List (List Node)
  | [] => []
  | t :: ts =>
    joinLevels (levelsOf source (⟨parent, before, ts⟩ :: path) t)
      (levelsForest source path parent (t :: before) ts)

end

/-- All nodes below a node, level by level and from left to right. -/
def descendants (n : Node) : List Node := (levelsOf n.source n.path n.tree).tail.flatten

/-- The nodes of a kind below a node, level by level. -/
def descendantsOfKind (kind : String) (n : Node) : List Node :=
  n.descendants.filter (·.kind == kind)

/-- The first node of a kind below a node, level by level. -/
def descendantOfKind? (kind : String) (n : Node) : Option Node :=
  n.descendants.find? (·.kind == kind)

def debug (n : Node) : String := s!"{n.kind}@{n.line}:{n.column}"

/-! ### Children are smaller -/

theorem tree_mem_of_mem_focuses {source : Source} {path : List Frame} {parent : Place} {c : Node}
    {before after : List (Tree Place)} (h : c ∈ focuses source path parent before after) :
    c.tree ∈ after := by
  induction after generalizing before with
  | nil => simp [focuses] at h
  | cons t ts ih =>
    rcases List.mem_cons.1 h with rfl | h
    · exact List.mem_cons_self
    · exact List.mem_cons_of_mem _ (ih h)

theorem size_lt_of_mem_children {c n : Node} (h : c ∈ n.children) : c.size < n.size := by
  have := tree_mem_of_mem_focuses h
  obtain ⟨source, tree, path⟩ := n
  cases tree with
  | node place ts => exact Tree.size_lt_of_mem this

theorem size_lt_of_mem_namedChildren {c n : Node} (h : c ∈ n.namedChildren) : c.size < n.size :=
  size_lt_of_mem_children (List.mem_filter.1 h).1

theorem size_lt_of_firstNamedChild? {c n : Node} (h : n.firstNamedChild? = some c) :
    c.size < n.size :=
  size_lt_of_mem_namedChildren (List.mem_of_mem_head? h)

end Node

end ComposeCheck
