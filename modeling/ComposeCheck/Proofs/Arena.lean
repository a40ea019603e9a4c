import ComposeCheck.Proofs.Family
import ComposeCheck.Proofs.Pieces
import ComposeCheck.Proofs.Reading

/-!
# Trees as arenas

An arena keeps the nodes of a file in one list of cells and refers to them by their numbers.
`Arena.read` fills it the way a program does: a cell is pushed before its subtree is copied, and its
last number and its children are filled in afterwards; at the top level the copied statements come
from single statements, from accepted runs and from rejected ones. The cells are those of the
file's nodes in preorder (`Arena.read_eq`), so what is looked up in the arena is what moving the
focus gives.
-/

namespace ComposeCheck

/-- What an arena keeps of a node: its place, the number of its parent, its index among the
siblings and the numbers of its children. -/
structure Cell where
  place : Place
  parent? : Option Nat
  index : Nat
  children : List Nat

def Node.cell (n : Node) : Cell :=
  ⟨n.place, n.parent?.map Node.id, n.index, n.children.map Node.id⟩

namespace Arena

open Recovery

/-- The cell of a node whose subtree has not been copied yet. -/
def fresh (source : Source) (id : Nat) (parent? : Option Nat) (index : Nat) (shape : Shape) :
    Cell where
  place := { shape with
    id
    last := id
    line := source.lineAt shape.start
    column := source.columnAt shape.start }
  parent?
  index
  children := []

/-- Fills in the last number and the children of a cell when its subtree has been copied. -/
def finish (arena : List Cell) (id : Nat) (children : List Nat) : List Cell :=
  arena.modify id fun cell =>
    { cell with place := { cell.place with last := arena.length - 1 }, children }

mutual

def copyNode (source : Source) (parent? : Option Nat) (index : Nat) (arena : List Cell) :
    ParseTree → List Cell
  | .node shape ts =>
    let id := arena.length
    let (grown, children) :=
      copyNodes source id 0 (arena ++ [fresh source id parent? index shape]) ts
    finish grown id children

/-- Copies several subtrees as children of a cell, from an index on; their numbers come back. -/
def copyNodes (source : Source) (parent index : Nat) (arena : List Cell) :
    List ParseTree → List Cell × List Nat
  | [] => (arena, [])
  | t :: ts =>
    let id := arena.length
    let (grown, ids) :=
      copyNodes source parent (index + 1) (copyNode source (some parent) index arena t) ts
    (grown, id :: ids)

end

/-- Copies the pieces of the top level one after the other. -/
def copyPieces (parser : Parser) (source : Source) (root index : Nat) (arena : List Cell) :
    List Piece → List Cell × List Nat
  | [] => (arena, [])
  | piece :: ps =>
    let (grown, ids) := copyNodes source root index arena (piece.recovered parser source)
    let (all, others) := copyPieces parser source root (index + ids.length) grown ps
    (all, ids ++ others)

/-- The arena of a file. -/
def read (parser : Parser) (text : String) : Option (List Cell) := do
  let parse ← parser text
  let source := Source.ofText text
  let first := fresh source 0 none 0 parse.root.label
  let (grown, children) :=
    copyPieces parser source 0 0 [first] (pieces source parse.root.children)
  return finish grown 0 children

/-! ### Siblings by their index -/

def next? (arena : List Cell) (id : Nat) : Option Nat := do
  let cell ← arena[id]?
  let parent ← arena[← cell.parent?]?
  parent.children[cell.index + 1]?

def previous? (arena : List Cell) (id : Nat) : Option Nat := do
  let cell ← arena[id]?
  let parent ← arena[← cell.parent?]?
  if cell.index = 0 then none else parent.children[cell.index - 1]?

/-! ### The cells of a tree -/

section
open Node SyntaxTree Tree

variable {parser : Parser} {source : Source} {arena : List Cell} {path : List Frame}
  {parent : Place} {before ts us : List (Tree Place)}

theorem map_id_focuses : (focuses source path parent before ts).map Node.id =
    ts.map (·.label.id) := by
  induction ts generalizing before with
  | nil => rfl
  | cons t ts ih => rw [focuses, List.map_cons, ih, List.map_cons]; rfl

theorem cell_mk {place : Place} : (⟨source, .node place ts, path⟩ : Node).cell =
    ⟨place, path.head?.map (·.parent.id), (path.head?.map (·.before.length)).getD 0,
      ts.map (·.label.id)⟩ := by
  have hparent : (⟨source, .node place ts, path⟩ : Node).parent?.map Node.id =
      path.head?.map (·.parent.id) := by
    cases path <;> rfl
  rw [Node.cell, hparent, Node.children, map_id_focuses]
  rfl

theorem length_preorderOf {t : Tree Place} {next : Nat} (h : t.NumberedFrom next) :
    (preorderOf source path t).length = t.size := by
  have hids := congrArg List.length h.map_id_preorder
  rw [← map_place_preorderOf source path] at hids
  simpa using hids

theorem length_preorderForest {next : Nat} (h : ForestNumberedFrom next ts) :
    (preorderForest source path parent before ts).length = forestSize ts := by
  have hids := congrArg List.length h.map_id_preorder
  rw [← map_place_preorderForest source path parent before] at hids
  simpa using hids

/-- Finishing the cell behind which a subtree has been copied. -/
theorem finish_append (cell : Cell) (rest : List Cell) (children : List Nat) :
    finish (arena ++ [cell] ++ rest) arena.length children = arena ++
      { cell with place := { cell.place with last := arena.length + rest.length }, children } ::
        rest := by
  have hlast : (arena ++ [cell] ++ rest).length - 1 = arena.length + rest.length := by
    simp only [List.length_append, List.length_singleton]
    omega
  rw [finish, hlast, List.append_assoc, List.singleton_append, List.modify_eq_set_getElem?]
  simp

mutual

/-- Copying a subtree writes the cells of its nodes in preorder. -/
theorem copyNode_eq (source : Source) : (path : List Frame) → (arena : List Cell) →
    (t : ParseTree) →
      copyNode source (path.head?.map (·.parent.id)) ((path.head?.map (·.before.length)).getD 0)
        arena t = arena ++ (preorderOf source path (number source arena.length t)).map cell
  | path, arena, .node shape ts => by
    have hnum := numberedFrom_numberForest source (arena.length + 1) ts
    have hcopy := copyNodes_eq source path { shape with
      id := arena.length
      last := arena.length + forestSize ts
      line := source.lineAt shape.start
      column := source.columnAt shape.start } []
      (arena ++ [fresh source arena.length (path.head?.map (·.parent.id))
        ((path.head?.map (·.before.length)).getD 0) shape]) ts
    rw [List.length_append, List.length_singleton] at hcopy
    simp only [List.length_nil] at hcopy
    rw [copyNode, hcopy]
    dsimp only
    rw [finish_append, List.length_map, length_preorderForest hnum, forestSize_numberForest, number,
      preorderOf, List.map_cons, cell_mk]
    rfl

theorem copyNodes_eq (source : Source) : (path : List Frame) → (parent : Place) →
    (before : List (Tree Place)) → (arena : List Cell) → (ts : List ParseTree) →
      copyNodes source parent.id before.length arena ts =
        (arena ++ (preorderForest source path parent before
            (numberForest source arena.length ts)).map cell,
          (numberForest source arena.length ts).map (·.label.id))
  | _, _, _, arena, [] => by simp [copyNodes, numberForest, preorderForest]
  | path, parent, before, arena, t :: ts => by
    have hnum := numberedFrom_number source arena.length t
    have hnode := copyNode_eq source
      (⟨parent, before, numberForest source (arena.length + t.size) ts⟩ :: path) arena t
    have hlength : (preorderOf source
        (⟨parent, before, numberForest source (arena.length + t.size) ts⟩ :: path)
        (number source arena.length t)).length = t.size := by
      rw [length_preorderOf hnum, size_number]
    have hrest := copyNodes_eq source path parent (number source arena.length t :: before)
      (arena ++ (preorderOf source
        (⟨parent, before, numberForest source (arena.length + t.size) ts⟩ :: path)
        (number source arena.length t)).map cell) ts
    rw [List.length_append, List.length_map, hlength, List.length_cons] at hrest
    simp only [List.head?_cons, Option.map_some, Option.getD_some] at hnode
    rw [copyNodes, hnode, hrest, numberForest, preorderForest, List.map_append, List.append_assoc,
      List.map_cons, hnum.id_eq]

end

theorem copyNodes_append (parent index : Nat) (arena : List Cell) (ts us : List ParseTree) :
    copyNodes source parent index arena (ts ++ us) =
      let first := copyNodes source parent index arena ts
      let others := copyNodes source parent (index + first.2.length) first.1 us
      (others.1, first.2 ++ others.2) := by
  induction ts generalizing index arena with
  | nil => rfl
  | cons t ts ih =>
    simp only [List.cons_append, copyNodes, ih, List.length_cons, Nat.add_assoc, Nat.add_comm 1]

/-- The pieces are copied as the statements that they are recovered to. -/
theorem copyPieces_eq (parser : Parser) (source : Source) (root index : Nat) (arena : List Cell)
    (ps : List Piece) : copyPieces parser source root index arena ps =
      copyNodes source root index arena (ps.flatMap (Piece.recovered parser source)) := by
  induction ps generalizing index arena with
  | nil => rfl
  | cons piece ps ih => simp only [copyPieces, List.flatMap_cons, copyNodes_append, ih]

theorem read_eq (parser : Parser) (text : String) : read parser text =
    (read? parser text).map fun tree => tree.rootNode.preorder.map cell := by
  rw [read, read?]
  cases parser text with
  | none => rfl
  | some parse =>
    obtain ⟨⟨shape, ts⟩, hasError⟩ := parse
    have hcopy := copyNode_eq (.ofText text) [] []
      (.node shape (statements parser (.ofText text) ts))
    simp only [Option.bind_eq_bind, Option.bind_some, label, Tree.children, copyPieces_eq,
      ← statements_eq_flatMap]
    exact congrArg some hcopy

/-! ### What is looked up in the arena -/

variable {tree : SyntaxTree} {n p : Node}

theorem getElem?_cells (hn : tree.root.NumberedFrom 0) (h : n ∈ tree.rootNode.preorder) :
    (tree.rootNode.preorder.map cell)[n.id]? = some n.cell := by
  rw [List.getElem?_map, getElem?_preorder hn h, Option.map_some]

theorem next?_cells (hn : tree.root.NumberedFrom 0) (h : n ∈ tree.rootNode.preorder) :
    next? (tree.rootNode.preorder.map cell) n.id = n.next?.map Node.id := by
  rw [next?, getElem?_cells hn h]
  cases hp : n.parent? with
  | none =>
    obtain rfl := (parent?_eq_none_iff h).1 hp
    rfl
  | some p =>
    simp only [Option.bind_eq_bind, Option.bind_some, cell, hp, Option.map_some]
    rw [getElem?_cells hn (parent?_mem h hp), next?_eq hp, ← List.getElem?_map]
    rfl

theorem previous?_cells (hn : tree.root.NumberedFrom 0) (h : n ∈ tree.rootNode.preorder) :
    previous? (tree.rootNode.preorder.map cell) n.id = n.previous?.map Node.id := by
  rw [previous?, getElem?_cells hn h]
  cases hp : n.parent? with
  | none =>
    obtain rfl := (parent?_eq_none_iff h).1 hp
    rfl
  | some p =>
    simp only [Option.bind_eq_bind, Option.bind_some, cell, hp, Option.map_some]
    rw [getElem?_cells hn (parent?_mem h hp), previous?_eq hp]
    split
    · rfl
    · rw [← List.getElem?_map]
      rfl

end

end Arena

namespace SyntaxTree

open Node Recovery Tree

/-- The walk through a numbered tree meets the labels that it had before, in the same order. -/
theorem map_toShape_id_preorder (source : Source) (t : ParseTree) (hasErrors : Bool) :
    (rootNode ⟨source, number source 0 t, hasErrors⟩).preorder.map
      (fun n => (n.place.toShape, n.id)) = t.preorder.zipIdx := by
  have hn := numberedFrom_number source 0 t
  have hids : (rootNode ⟨source, number source 0 t, hasErrors⟩).preorder.map Node.id =
      List.range (SyntaxTree.size ⟨source, number source 0 t, hasErrors⟩) :=
    map_id_preorder_rootNode hn
  have hshapes : (rootNode ⟨source, number source 0 t, hasErrors⟩).preorder.map
      (fun n => n.place.toShape) = t.preorder := by
    have hplaces := map_place_preorderOf source [] (number source 0 t)
    rw [← congrArg Tree.preorder (map_toShape_number source 0 t), preorder_map, ← hplaces,
      List.map_map]
    rfl
  have hlength : t.preorder.length = SyntaxTree.size ⟨source, number source 0 t, hasErrors⟩ := by
    rw [← hshapes, List.length_map, ← List.length_map (f := Node.id), hids, List.length_range]
  rw [List.zipIdx_eq_zip_range', hlength, ← List.range_eq_range', ← hids, ← hshapes, List.zip_map']

/-- Reading a file fills an arena with the cells of the file's nodes, numbered by their places in
the walk through the recovered tree. Each child knows its parent and its index, the numbers under a
node are those from its own to `last`, and so the tests and moves by number agree with steps from
child to parent: the test for an ancestor, and the moves to the next sibling and the previous. -/
theorem reading_fills_arena {parser : Parser} {text : String} {parse : Parse} {tree : SyntaxTree}
    (hparse : parser text = some parse) (h : read? parser text = some tree) :
    let nodes := tree.rootNode.preorder
    let arena := nodes.map Node.cell
    Arena.read parser text = some arena ∧
    nodes.map (fun n => (n.place.toShape, n.id)) =
      (recover parser (.ofText text) parse.root).preorder.zipIdx ∧
    (∀ n ∈ nodes,
      arena[n.id]? = some n.cell ∧
      (∀ i c, n.children[i]? = some c →
        c ∈ nodes ∧ c.parent? = some n ∧ c.index = i ∧ n.id < c.id) ∧
      (∀ p, n.parent? = some p → p ∈ nodes ∧ p.children[n.index]? = some n) ∧
      (n.parent? = none ↔ n = tree.rootNode) ∧
      n.preorder.map Node.id = List.range' n.id (n.place.last + 1 - n.id) ∧
      Arena.next? arena n.id = n.next?.map Node.id ∧
      Arena.previous? arena n.id = n.previous?.map Node.id ∧
      ∀ m, (n.next? = some m ↔ m.previous? = some n) ∧
        (n.next? = some m ↔
          ∃ p ∈ nodes, ∃ i, p.children[i]? = some n ∧ p.children[i + 1]? = some m)) ∧
    ∀ a ∈ nodes, ∀ b ∈ nodes,
      (b ∈ a.preorder ↔ a.id ≤ b.id ∧ b.id ≤ a.place.last) ∧
      (b ∈ a.preorder ↔ b = a ∨ b.Under a) ∧
      (a.isAncestorOf b = true ↔ b.Under a) := by
  intro nodes arena
  have hread := Arena.read_eq parser text
  rw [h, Option.map_some] at hread
  obtain rfl := read?_eq_some hparse h
  have hn := numberedFrom_number (.ofText text) 0 (recover parser (.ofText text) parse.root)
  refine ⟨hread, map_toShape_id_preorder _ _ _, fun n hmem => ⟨Arena.getElem?_cells hn hmem,
    fun i c hc => ?_, fun p hp => ?_, parent?_eq_none_iff hmem, map_id_preorder_eq_range' hn hmem,
    Arena.next?_cells hn hmem, Arena.previous?_cells hn hmem, fun m => ⟨?_, ?_⟩⟩,
    fun a ha b hb => ⟨mem_preorder_iff hn ha hb, ?_, isAncestorOf_iff hn ha hb⟩⟩
  · obtain ⟨hp, hi⟩ := of_getElem?_children hc
    have hcmem := mem_preorder_trans hmem
      (mem_preorder_of_mem_children (List.mem_of_getElem? hc))
    exact ⟨hcmem, hp, hi, id_lt_of_parent? hn hcmem hp⟩
  · exact ⟨parent?_mem hmem hp, getElem?_children_of_parent? hp⟩
  · exact next?_eq_some_iff.trans previous?_eq_some_iff.symm
  · rw [next?_eq_some_iff]
    constructor
    · rintro ⟨p, i, hi, hm⟩
      exact ⟨p, parent?_mem hmem (of_getElem?_children hi).1, i, hi, hm⟩
    · rintro ⟨p, -, i, hi, hm⟩
      exact ⟨p, i, hi, hm⟩
  · constructor
    · exact eq_or_under_of_mem_preorder
    · rintro (rfl | hu)
      · exact b.self_mem_preorder
      · exact mem_preorder_of_under hu

/-- A file with a run that reads as a declaration, a statement, and a run that does not. -/
def mixedFile : String := misreadFile ++ "\nx = 1\npublic 1"

def mixedParser : Parser := fun text =>
  if text = mixedFile then
    let named (kind : String) (start stop : Nat) (ts : List ParseTree) : ParseTree :=
      .node ⟨kind, true, false, start, stop⟩ ts
    let call := named "call_expression" 0 14
      [named "identifier" 0 6 [], named "call_suffix" 7 14 []]
    let assignment := named "assignment" 15 20
      [named "identifier" 15 16 [], .node ⟨"=", false, false, 17, 18⟩ [],
        named "number_literal" 19 20 []]
    let operation := named "infix_expression" 21 29
      [named "identifier" 21 27 [], named "number_literal" 28 29 []]
    some ⟨named "source_file" 0 29 [call, assignment, operation], false⟩
  else some ((misreadParser text).getD ⟨.node ⟨"source_file", true, false, 0, 0⟩ [], true⟩)

def mixedTree : SyntaxTree := (read? mixedParser mixedFile).get (by decide +kernel)

theorem reading_fills_arena_mixedFile :
    (∃ parse, mixedParser mixedFile = some parse) ∧
    read? mixedParser mixedFile = some mixedTree ∧
    Arena.read mixedParser mixedFile = some (mixedTree.rootNode.preorder.map Node.cell) ∧
    mixedTree.rootNode.preorder.map (fun n => (n.kind, n.id, n.place.last, n.index)) =
      [("source_file", 0, 8, 0), ("function_declaration", 1, 1, 0), ("assignment", 2, 5, 1),
        ("identifier", 3, 3, 0), ("=", 4, 4, 1), ("number_literal", 5, 5, 2),
        ("infix_expression", 6, 8, 2), ("identifier", 7, 7, 0), ("number_literal", 8, 8, 1)] := by
  have hread : read? mixedParser mixedFile = some mixedTree := (Option.some_get _).symm
  refine ⟨⟨_, rfl⟩, hread, (reading_fills_arena rfl hread).1, by decide +kernel⟩

end SyntaxTree

end ComposeCheck
