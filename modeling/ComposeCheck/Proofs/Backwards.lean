import ComposeCheck.Proofs.Shadows
import Mathlib.Data.List.TakeWhile

/-!
# The walk backwards

The walk is made with two cursors: the sibling that comes next, and the node up to which the walk
has climbed. Only a climb asks whether the walk is to stop. `BackwardWalk.rest` is what the cursors
have still to give: a step gives the first of it and leaves the others (`BackwardWalk.next_eq`), so
the walk gives the list `Node.walkBackwards` and then nothing any more (`BackwardWalk.answer_eq`).
The list holds what the node stands in, below the stop, and the siblings before all these, from the
greatest number to the least (`Node.walk_meets_what_precedes`).
-/

namespace ComposeCheck

namespace Node

section
variable {n m p s w : Node} {stop? : Option Node}

/-! ### Siblings -/

/-- A node comes before another among the children of one parent. -/
def Precedes (s w : Node) : Prop :=
  ∃ p, s.parent? = some p ∧ w.parent? = some p ∧ s.index < w.index

/-- The siblings before a node are the nearest one and those before that. -/
theorem siblingsBefore_eq (n : Node) :
    n.siblingsBefore = (n.previous?.map fun s => s :: s.siblingsBefore).getD [] := by
  obtain ⟨source, t, path⟩ := n
  cases path with
  | nil => rfl
  | cons frame path =>
    obtain ⟨parent, before, after⟩ := frame
    cases before with
    | nil => rfl
    | cons u before => exact congrArg (_ :: ·) (go before u (t :: after) rfl)
where
  go {n m : Node} {path : List Frame} {parent : Place} (before : List (Tree Place))
      (t : Tree Place) (after : List (Tree Place)) (h : n.source = m.source) :
      siblingsBefore.go n path parent t after before =
        siblingsBefore.go m path parent t after before := by
    induction before generalizing t after with
    | nil => rfl
    | cons u before ih => rw [siblingsBefore.go, siblingsBefore.go, ih, h]

theorem length_siblingsBefore (n : Node) : n.siblingsBefore.length = n.index := by
  obtain ⟨source, t, path⟩ := n
  cases path with
  | nil => rfl
  | cons frame path => exact go (n := ⟨source, t, frame :: path⟩) frame.before t frame.after
where
  go {n : Node} {path : List Frame} {parent : Place} (before : List (Tree Place)) (t : Tree Place)
      (after : List (Tree Place)) :
      (siblingsBefore.go n path parent t after before).length = before.length := by
    induction before generalizing t after with
    | nil => rfl
    | cons u before ih => rw [siblingsBefore.go, List.length_cons, List.length_cons, ih]

theorem mem_siblingsBefore_iff_precedes : s ∈ w.siblingsBefore ↔ s.Precedes w := by
  constructor
  · intro hs
    obtain ⟨p, hp, hparent⟩ := exists_parent_of_mem_siblingsBefore hs
    obtain ⟨i, hi⟩ := List.mem_iff_getElem?.1 (List.mem_reverse.2 hs)
    have hlt : i < w.siblingsBefore.reverse.length := (List.getElem?_eq_some_iff.1 hi).1
    have hchild : p.children[i]? = some s := by
      rw [children_eq_of_parent? hp, List.getElem?_append_left hlt, hi]
    rw [List.length_reverse, length_siblingsBefore] at hlt
    exact ⟨p, hparent, hp, (of_getElem?_children hchild).2 ▸ hlt⟩
  · rintro ⟨p, hs, hw, hlt⟩
    have hchild := getElem?_children_of_parent? hs
    have hlength : s.index < w.siblingsBefore.reverse.length := by
      rwa [List.length_reverse, length_siblingsBefore]
    rw [children_eq_of_parent? hw, List.getElem?_append_left hlength] at hchild
    exact List.mem_reverse.1 (List.mem_of_getElem? hchild)

/-! ### Up the tree -/

theorem ancestors_eq_nil (h : n.parent? = none) : n.ancestors = [] := by
  obtain ⟨source, t, path⟩ := n
  cases path with
  | nil => rfl
  | cons frame path => cases h

/-- What holds at the root, and at a node if it holds at the parent, holds everywhere. -/
@[elab_as_elim]
theorem upward_induction {motive : Node → Prop} (root : ∀ n, n.parent? = none → motive n)
    (step : ∀ n p, n.parent? = some p → motive p → motive n) (n : Node) : motive n := by
  cases hp : n.parent? with
  | none => exact root n hp
  | some p =>
    have := length_path_of_parent? hp
    exact step n p hp (upward_induction root step p)
termination_by n.path.length

/-- What the walk gives from a climb on: each node above, below the stop, and the siblings before
it. -/
def climb (stop? : Option Node) (n : Node) : List Node :=
  (n.ancestors.takeWhile fun a => !stop?.any (· == a)).flatMap fun a => a :: a.siblingsBefore

theorem walkBackwards_eq : n.walkBackwards stop? = n.siblingsBefore ++ n.climb stop? := rfl

theorem climb_eq_nil (h : n.parent? = none) : n.climb stop? = [] := by
  rw [climb, ancestors_eq_nil h]
  rfl

theorem climb_of_parent? (h : n.parent? = some p) : n.climb stop? =
    if stop?.any (· == p) then [] else p :: p.walkBackwards stop? := by
  rw [climb, ancestors_of_parent? h, List.takeWhile_cons]
  cases stop?.any (· == p) <;> rfl

end

end Node

/-- The cursors of a walk backwards: the node up to which it has climbed, the sibling that comes
next, and the node at which it stops. -/
structure BackwardWalk where
  current? : Option Node
  pending? : Option Node
  stop? : Option Node

namespace BackwardWalk

def start (n : Node) (stop? : Option Node) : BackwardWalk := ⟨some n, n.previous?, stop?⟩

/-- Gives the sibling that comes next, or climbs to the parent. Where there is none or the walk is
to stop, it is over. -/
def next (walk : BackwardWalk) : Option Node × BackwardWalk :=
  match walk.pending? with
  | some sibling => (some sibling, { walk with pending? := sibling.previous? })
  | none =>
    match walk.current?.bind Node.parent? with
    | none => (none, { walk with current? := none })
    | some parent =>
      if walk.stop?.any (· == parent) then (none, { walk with current? := none })
      else (some parent, { walk with current? := some parent, pending? := parent.previous? })

/-- What a walk gives after `k` other steps. -/
def answer : Nat → BackwardWalk → Option Node
  | 0, walk => walk.next.1
  | k + 1, walk => answer k walk.next.2

/-- What a walk has still to give. -/
def rest (walk : BackwardWalk) : List Node :=
  (walk.pending?.map fun s => s :: s.siblingsBefore).getD [] ++
    (walk.current?.map (Node.climb walk.stop?)).getD []

section
variable {n : Node} {stop? : Option Node}

theorem rest_start : (start n stop?).rest = n.walkBackwards stop? := by
  rw [Node.walkBackwards_eq, n.siblingsBefore_eq]
  rfl

/-- A step gives the first of what is left and leaves the others. -/
theorem next_eq (walk : BackwardWalk) :
    walk.next.1 = walk.rest.head? ∧ walk.next.2.rest = walk.rest.tail := by
  obtain ⟨current?, pending?, stop?⟩ := walk
  cases pending? with
  | some sibling =>
    refine ⟨rfl, ?_⟩
    rw [rest, rest, Option.map_some, Option.getD_some, List.cons_append, List.tail_cons,
      sibling.siblingsBefore_eq]
    rfl
  | none =>
    rw [next, rest, Option.map_none, Option.getD_none, List.nil_append]
    dsimp only
    cases current? with
    | none => exact ⟨rfl, rfl⟩
    | some n =>
      rw [Option.bind_some, Option.map_some, Option.getD_some]
      cases hp : n.parent? with
      | none =>
        rw [Node.climb_eq_nil hp]
        exact ⟨rfl, rfl⟩
      | some p =>
        rw [Node.climb_of_parent? hp]
        by_cases hstop : stop?.any (· == p) = true
        · simp only [if_pos hstop]
          exact ⟨rfl, rfl⟩
        · simp only [if_neg hstop]
          exact ⟨rfl, rest_start⟩

theorem answer_eq (k : Nat) (walk : BackwardWalk) : walk.answer k = walk.rest[k]? := by
  induction k generalizing walk with
  | zero => rw [answer, walk.next_eq.1, List.head?_eq_getElem?]
  | succ k ih => rw [answer, ih, walk.next_eq.2, List.getElem?_tail]

end

end BackwardWalk

namespace SyntaxTree

open Node

section
variable {tree : SyntaxTree} {n m : Node} {stop? : Option Node}

/-! ### What the walk meets -/

/-- From a node on, the numbers fall along the siblings before it, and they stay above that of the
parent. -/
theorem descending_siblingsBefore (hn : tree.root.NumberedFrom 0)
    (hmem : n ∈ tree.rootNode.preorder) {p : Node} (hp : n.parent? = some p) :
    (n :: n.siblingsBefore).Pairwise (fun a b => b.id < a.id) ∧
      ∀ s ∈ n :: n.siblingsBefore, p.id < s.id := by
  have hpmem := parent?_mem hmem hp
  have hchildren := children_eq_of_parent? hp
  have hsub : (n :: n.siblingsBefore).reverse.Sublist p.children := by
    rw [hchildren, List.reverse_cons, List.append_cons _ n n.siblingsAfter]
    exact List.sublist_append_left _ _
  have hsorted := (pairwise_preorder hn hpmem).sublist (hsub.trans p.children_sublist)
  refine ⟨List.pairwise_reverse.1 hsorted, fun s hs => ?_⟩
  have hchild := hsub.mem (List.mem_reverse.2 hs)
  exact id_lt_of_parent? hn (mem_preorder_trans hpmem (mem_preorder_of_mem_children hchild))
    (parent?_of_mem_children hchild)

/-- From a node on, the numbers fall along the walk. -/
theorem descending_walkBackwards (hn : tree.root.NumberedFrom 0) (stop? : Option Node)
    (hmem : n ∈ tree.rootNode.preorder) :
    (n :: n.walkBackwards stop?).Pairwise fun a b => b.id < a.id := by
  induction n using upward_induction with
  | root n hp =>
    have hsiblings : n.siblingsBefore = [] := by
      rw [siblingsBefore_eq, Option.map_eq_none_iff.2, Option.getD_none]
      exact Option.eq_none_iff_forall_ne_some.2 fun s hs => by
        obtain ⟨p, hp'⟩ := parent?_of_previous? hs
        exact Option.some_ne_none _ (hp'.symm.trans hp)
    rw [walkBackwards_eq, hsiblings, climb_eq_nil hp]
    exact List.pairwise_singleton _ _
  | step n p hp ih =>
    obtain ⟨hsiblings, habove⟩ := descending_siblingsBefore hn hmem hp
    have ih := ih (parent?_mem hmem hp)
    rw [walkBackwards_eq, climb_of_parent? hp, ← List.cons_append]
    split
    · rwa [List.append_nil]
    · refine List.pairwise_append.2 ⟨hsiblings, ih, fun s hs a ha => ?_⟩
      rcases List.mem_cons.1 ha with rfl | ha
      · exact habove s hs
      · exact Nat.lt_trans ((List.pairwise_cons.1 ih).1 a ha) (habove s hs)

theorem mem_walkBackwards_iff_precedes (hn : tree.root.NumberedFrom 0)
    (hmem : n ∈ tree.rootNode.preorder) (hstop : ∀ s ∈ stop?, n.Under s) :
    m ∈ n.walkBackwards stop? ↔ (n.Under m ∧ ∀ s ∈ stop?, m.Under s) ∨
      ∃ w, (w = n ∨ n.Under w) ∧ (∀ s ∈ stop?, w.Under s) ∧ m.Precedes w := by
  simp only [← mem_siblingsBefore_iff_precedes]
  cases stop? with
  | some s =>
    rw [mem_walkBackwards_iff hn hmem (hstop s rfl)]
    simp
  | none =>
    have hall : (n.ancestors.takeWhile fun a => !(none : Option Node).any (· == a)) =
        n.ancestors := List.takeWhile_eq_self_iff.2 fun _ _ => rfl
    rw [walkBackwards, hall, List.mem_append, List.mem_flatMap]
    simp only [mem_ancestors_iff, List.mem_cons, Option.not_mem_none, false_implies, implies_true,
      and_true, true_and]
    constructor
    · rintro (h | ⟨w, hw, rfl | h⟩)
      · exact .inr ⟨n, .inl rfl, h⟩
      · exact .inl hw
      · exact .inr ⟨w, .inr hw, h⟩
    · rintro (h | ⟨w, rfl | hw, h⟩)
      · exact .inr ⟨m, h, .inl rfl⟩
      · exact .inl h
      · exact .inr ⟨w, hw, .inr h⟩

theorem mem_and_under_of_mem_walkBackwards (hn : tree.root.NumberedFrom 0)
    (hmem : n ∈ tree.rootNode.preorder) (hstop : ∀ s ∈ stop?, n.Under s)
    (h : m ∈ n.walkBackwards stop?) : m ∈ tree.rootNode.preorder ∧ ∀ s ∈ stop?, m.Under s := by
  rcases (mem_walkBackwards_iff_precedes hn hmem hstop).1 h with
    ⟨hunder, hbelow⟩ | ⟨w, hw, hbelow, p, hp, hwp, -⟩
  · exact ⟨mem_of_under hmem hunder, hbelow⟩
  · have hwmem : w ∈ tree.rootNode.preorder := by
      rcases hw with rfl | hw
      · exact hmem
      · exact mem_of_under hmem hw
    refine ⟨mem_preorder_trans (parent?_mem hwmem hwp)
      (mem_preorder_of_mem_children (mem_children_of_parent? hp)), fun s hs => ?_⟩
    exact (under_iff_of_parent? hp).2 ((under_iff_of_parent? hwp).1 (hbelow s hs))

end

end SyntaxTree

/-- A walk backwards that stops at a node around its start, or nowhere, gives one node after the
other and then nothing any more. The numbers of what it gives fall. It gives the nodes in which the
start stands, below the stop, and the siblings before the start and before any of these, and so
nothing but what lies strictly inside the stop. -/
theorem Node.walk_meets_what_precedes {parser : Parser} {text : String} {tree : SyntaxTree}
    (hread : SyntaxTree.read? parser text = some tree) {n : Node}
    (hmem : n ∈ tree.rootNode.preorder) {stop? : Option Node} (hstop : ∀ s ∈ stop?, n.Under s) :
    let walk := n.walkBackwards stop?
    (∀ k, (BackwardWalk.start n stop?).answer k = walk[k]?) ∧
    walk.Pairwise (fun a b => b.id < a.id) ∧
    (∀ m, m ∈ walk ↔ (n.Under m ∧ ∀ s ∈ stop?, m.Under s) ∨
      ∃ w, (w = n ∨ n.Under w) ∧ (∀ s ∈ stop?, w.Under s) ∧ m.Precedes w) ∧
    ∀ m ∈ walk, m ∈ tree.rootNode.preorder ∧ ∀ s ∈ stop?, s.isAncestorOf m = true := by
  intro walk
  have hn := SyntaxTree.numberedFrom_of_read? hread
  refine ⟨fun k => ?_, (List.pairwise_cons.1 (SyntaxTree.descending_walkBackwards hn stop? hmem)).2,
    fun m => SyntaxTree.mem_walkBackwards_iff_precedes hn hmem hstop, fun m hm => ?_⟩
  · rw [BackwardWalk.answer_eq, BackwardWalk.rest_start]
  · obtain ⟨hmmem, hbelow⟩ := SyntaxTree.mem_and_under_of_mem_walkBackwards hn hmem hstop hm
    refine ⟨hmmem, fun s hs => ?_⟩
    exact (SyntaxTree.isAncestorOf_iff hn (SyntaxTree.mem_of_under hmem (hstop s hs)) hmmem).2
      (hbelow s hs)

/-- From the use in the lambda the walk climbs up to the function and ends below it. The
loop before the lambda is met, what it declares is not. -/
theorem Node.walk_meets_what_precedes_lambda :
    (shadeNode 44).Under (shadeNode 1) ∧
    let walk := (shadeNode 44).walkBackwards (some (shadeNode 1))
    walk.map Node.id =
      [43, 42, 41, 40, 39, 38, 35, 34, 33, 32, 31, 30, 15, 14, 13, 12, 4, 3, 2] ∧
    (∀ k, (BackwardWalk.start (shadeNode 44) (some (shadeNode 1))).answer k = walk[k]?) ∧
    ∀ m ∈ walk, (shadeNode 1).isAncestorOf m = true := by
  have hread : SyntaxTree.read? shadeParser shadeFile = some shadeTree := (Option.some_get _).symm
  have hunder : (shadeNode 44).Under (shadeNode 1) :=
    (SyntaxTree.isAncestorOf_iff (SyntaxTree.numberedFrom_of_read? hread) (shadeNode_mem 1)
      (shadeNode_mem 44)).1 (by decide +kernel)
  have hstop : ∀ s ∈ some (shadeNode 1), (shadeNode 44).Under s := by
    rintro s ⟨⟩
    exact hunder
  obtain ⟨hanswer, -, -, hinside⟩ := walk_meets_what_precedes hread (shadeNode_mem 44) hstop
  exact ⟨hunder, by decide +kernel, hanswer, fun m hm => (hinside m hm).2 _ rfl⟩

end ComposeCheck
