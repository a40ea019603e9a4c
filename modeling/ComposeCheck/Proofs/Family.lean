import ComposeCheck.Proofs.Nodes
import Mathlib.Data.List.Nodup
import Mathlib.Logic.Relation

/-!
# Parents, children and siblings

A node is a focus on a subtree, so a step up from a child leads back to its parent and a step
sideways is a step up and down again. In a numbered tree the nodes under a node are those whose
numbers lie between its own and `last` (`isAncestorOf_iff`), and the walk from the root meets the
node with number `i` at place `i` (`getElem?_preorder`).
-/

namespace ComposeCheck

namespace Tree

open List

mutual

theorem NumberedFrom.map_id_preorder : {t : Tree Place} → {next : Nat} → NumberedFrom next t →
    t.preorder.map Place.id = range' next t.size
  | .node place ts, next, h => by
    rw [preorder_node, map_cons, ForestNumberedFrom.map_id_preorder h.2.2, size, range'_succ, h.1]

theorem ForestNumberedFrom.map_id_preorder : {ts : List (Tree Place)} → {next : Nat} →
    ForestNumberedFrom next ts → (forestPreorder ts).map Place.id = range' next (forestSize ts)
  | [], _, _ => rfl
  | t :: ts, next, h => by
    rw [forestPreorder_cons, map_append, NumberedFrom.map_id_preorder h.1,
      ForestNumberedFrom.map_id_preorder h.2, forestSize, range'_append_1]

end

end Tree

namespace Node

open Tree

/-- A node's place among its siblings. The root is alone and has the first. -/
def index (n : Node) : Nat := (n.path.head?.map (·.before.length)).getD 0

/-- One step up or more lead from a node to another. -/
def Under : Node → Node → Prop := Relation.TransGen fun n m => n.parent? = some m

section
variable {source : Source} {path : List Frame} {parent : Place} {before ts : List (Tree Place)}
  {a b c n m p : Node} {i : Nat}

/-! ### Steps up, down and sideways -/

theorem getElem?_focuses : (focuses source path parent before ts)[i]? = some c ↔
    ∃ front t after, ts = front ++ t :: after ∧ i = front.length ∧
      c = ⟨source, t, ⟨parent, front.reverse ++ before, after⟩ :: path⟩ := by
  induction ts generalizing before i with
  | nil => simp [focuses]
  | cons u us ih =>
    cases i with
    | zero =>
      simp only [focuses, List.getElem?_cons_zero, Option.some.injEq]
      constructor
      · rintro rfl
        exact ⟨[], u, us, rfl, rfl, rfl⟩
      · rintro ⟨front, t, after, hts, hfront, rfl⟩
        obtain rfl := List.length_eq_zero_iff.1 hfront.symm
        cases hts
        rfl
    | succ i =>
      rw [focuses, List.getElem?_cons_succ, ih]
      constructor
      · rintro ⟨front, t, after, rfl, rfl, rfl⟩
        exact ⟨u :: front, t, after, rfl, rfl, by simp⟩
      · rintro ⟨front, t, after, hts, hfront, rfl⟩
        cases front with
        | nil => cases hfront
        | cons v front =>
          cases hts
          exact ⟨front, t, after, rfl, Nat.succ.inj hfront, by simp⟩

theorem getElem?_children : n.children[i]? = some c ↔
    ∃ front t after, n.tree.children = front ++ t :: after ∧ i = front.length ∧
      c = ⟨n.source, t, ⟨n.place, front.reverse, after⟩ :: n.path⟩ := by
  rw [children, getElem?_focuses]
  simp

theorem of_getElem?_children (h : n.children[i]? = some c) : c.parent? = some n ∧ c.index = i := by
  obtain ⟨source, ⟨place, ts⟩, path⟩ := n
  obtain ⟨front, t, after, hts, rfl, rfl⟩ := getElem?_children.1 h
  obtain rfl : ts = front ++ t :: after := hts
  constructor
  · simp only [parent?, List.reverse_reverse]
    rfl
  · exact List.length_reverse

/-- A node stands among its parent's children at its index. -/
theorem getElem?_children_of_parent? (h : n.parent? = some p) : p.children[n.index]? = some n := by
  obtain ⟨source, t, path⟩ := n
  cases path with
  | nil => cases h
  | cons frame path =>
    cases h
    refine getElem?_children.2 ⟨frame.before.reverse, t, frame.after, rfl, ?_, ?_⟩
    · exact List.length_reverse.symm
    · rw [List.reverse_reverse]
      rfl

theorem mem_children_of_parent? (h : n.parent? = some p) : n ∈ p.children :=
  List.mem_of_getElem? (getElem?_children_of_parent? h)

theorem next?_eq (h : n.parent? = some p) : n.next? = p.children[n.index + 1]? := by
  obtain ⟨source, t, path⟩ := n
  cases path with
  | nil => cases h
  | cons frame path =>
    cases h
    obtain ⟨parent, before, after⟩ := frame
    cases after with
    | nil =>
      refine (Option.eq_none_iff_forall_ne_some.2 fun c hc => ?_).symm
      obtain ⟨front, u, rest, hts, hfront, -⟩ := getElem?_children.1 hc
      have hlength := congrArg List.length hts
      simp only [Tree.children, List.length_append, List.length_reverse, List.length_cons,
        List.length_nil, index, List.head?_cons, Option.map_some, Option.getD_some] at hlength hfront
      omega
    | cons u after =>
      refine (getElem?_children.2 ⟨before.reverse ++ [t], u, after, ?_, ?_, ?_⟩).symm
      · rw [Tree.children, List.append_assoc, List.singleton_append]
      · simp [index]
      · rw [List.reverse_append, List.reverse_reverse]
        rfl

theorem previous?_eq (h : n.parent? = some p) :
    n.previous? = if n.index = 0 then none else p.children[n.index - 1]? := by
  obtain ⟨source, t, path⟩ := n
  cases path with
  | nil => cases h
  | cons frame path =>
    cases h
    obtain ⟨parent, before, after⟩ := frame
    cases before with
    | nil => rfl
    | cons u before =>
      refine (getElem?_children.2 ⟨before.reverse, u, t :: after, ?_, ?_, ?_⟩).symm
      · rw [Tree.children, List.reverse_cons, List.append_assoc, List.singleton_append]
      · exact List.length_reverse.symm
      · rw [List.reverse_reverse]
        rfl

theorem parent?_of_next? (h : a.next? = some b) : ∃ p, a.parent? = some p := by
  obtain ⟨source, t, path⟩ := a
  cases path with
  | nil => cases h
  | cons frame path => exact ⟨_, rfl⟩

theorem parent?_of_previous? (h : a.previous? = some b) : ∃ p, a.parent? = some p := by
  obtain ⟨source, t, path⟩ := a
  cases path with
  | nil => cases h
  | cons frame path => exact ⟨_, rfl⟩

theorem next?_eq_some_iff : a.next? = some b ↔
    ∃ (p : Node) (i : Nat), p.children[i]? = some a ∧ p.children[i + 1]? = some b := by
  constructor
  · intro h
    obtain ⟨p, hp⟩ := parent?_of_next? h
    exact ⟨p, a.index, getElem?_children_of_parent? hp, next?_eq hp ▸ h⟩
  · rintro ⟨p, i, ha, hb⟩
    obtain ⟨hp, rfl⟩ := of_getElem?_children ha
    rw [next?_eq hp, hb]

theorem previous?_eq_some_iff : b.previous? = some a ↔
    ∃ (p : Node) (i : Nat), p.children[i]? = some a ∧ p.children[i + 1]? = some b := by
  constructor
  · intro h
    obtain ⟨p, hp⟩ := parent?_of_previous? h
    have hb := getElem?_children_of_parent? hp
    rw [previous?_eq hp] at h
    split at h
    · cases h
    case isFalse hne =>
      refine ⟨p, b.index - 1, h, ?_⟩
      rwa [Nat.sub_add_cancel (Nat.one_le_iff_ne_zero.2 hne)]
  · rintro ⟨p, i, ha, hb⟩
    obtain ⟨hp, hi⟩ := of_getElem?_children hb
    rw [previous?_eq hp, hi, if_neg (Nat.succ_ne_zero i), Nat.add_sub_cancel, ha]

/-! ### The walk in preorder -/

mutual

theorem parent?_of_mem_preorderOf {source : Source} {m : Node} : {path : List Frame} →
    {t : Tree Place} → m ∈ preorderOf source path t →
      m = ⟨source, t, path⟩ ∨ ∃ p ∈ preorderOf source path t, m.parent? = some p
  | path, .node place ts, h => by
    rcases mem_preorderOf_iff.1 h with rfl | h
    · exact .inl rfl
    right
    rcases parent?_of_mem_preorderForest h with hp | ⟨p, hmem, hp⟩
    · exact ⟨_, self_mem_preorderOf, hp⟩
    · exact ⟨p, mem_preorderOf_iff.2 (.inr hmem), hp⟩

/-- The parent of a node that the walk of several siblings meets is theirs or met as well. -/
theorem parent?_of_mem_preorderForest {source : Source} {m : Node} : {path : List Frame} →
    {parent : Place} → {before ts : List (Tree Place)} →
      m ∈ preorderForest source path parent before ts →
      m.parent? = some ⟨source, .node parent (before.reverse ++ ts), path⟩ ∨
        ∃ p ∈ preorderForest source path parent before ts, m.parent? = some p
  | _, _, _, [], h => by simp [preorderForest] at h
  | path, parent, before, t :: ts, h => by
    rcases mem_preorderForest_cons.1 h with h | h
    · rcases parent?_of_mem_preorderOf h with rfl | ⟨p, hmem, hp⟩
      · exact .inl rfl
      · exact .inr ⟨p, mem_preorderForest_cons.2 (.inl hmem), hp⟩
    · rcases parent?_of_mem_preorderForest h with hp | ⟨p, hmem, hp⟩
      · left
        rw [hp, List.reverse_cons, List.append_assoc, List.singleton_append]
      · exact .inr ⟨p, mem_preorderForest_cons.2 (.inr hmem), hp⟩

end

theorem length_path_of_parent? (h : n.parent? = some p) : n.path.length = p.path.length + 1 := by
  obtain ⟨source, t, path⟩ := n
  cases path with
  | nil => cases h
  | cons frame path =>
    cases h
    rfl

theorem mem_preorder_of_under (h : m.Under n) : m ∈ n.preorder := by
  induction h with
  | single h => exact mem_preorder_of_mem_children (mem_children_of_parent? h)
  | tail _ h ih =>
    exact mem_preorder_trans (mem_preorder_of_mem_children (mem_children_of_parent? h)) ih

theorem eq_or_under_of_mem_preorder {m : Node} (h : m ∈ n.preorder) : m = n ∨ m.Under n := by
  rcases parent?_of_mem_preorderOf h with rfl | ⟨p, hmem, hp⟩
  · exact .inl rfl
  -- A step up shortens the path, which carries the induction.
  have hlength := length_path_of_parent? hp
  rcases eq_or_under_of_mem_preorder hmem with rfl | hup
  · exact .inr (.single hp)
  · exact .inr (.head hp hup)
termination_by m.path.length

theorem length_path_lt_of_under (h : n.Under m) : m.path.length < n.path.length := by
  induction h with
  | single hp => exact Nat.lt_of_succ_le (Nat.le_of_eq (length_path_of_parent? hp).symm)
  | tail _ hp ih =>
    have := length_path_of_parent? hp
    omega

theorem not_under_self : ¬n.Under n := fun h => Nat.lt_irrefl _ (length_path_lt_of_under h)

theorem under_of_mem_preorderForest {source : Source} {path : List Frame} {place : Place}
    {ts : List (Tree Place)} {m : Node} (h : m ∈ preorderForest source path place [] ts) :
    m.Under ⟨source, .node place ts, path⟩ := by
  rcases parent?_of_mem_preorderForest h with hp | ⟨p, hmem, hp⟩
  · exact .single hp
  have hlength := length_path_of_parent? hp
  exact .head hp (under_of_mem_preorderForest hmem)
termination_by m.path.length

theorem mem_descendants_iff : m ∈ n.descendants ↔ m.Under n := by
  obtain ⟨source, ⟨place, ts⟩, path⟩ := n
  rw [(descendants_perm ⟨source, .node place ts, path⟩).cons_inv.mem_iff]
  refine ⟨under_of_mem_preorderForest, fun h => ?_⟩
  refine (mem_preorderOf_iff.1 (mem_preorder_of_under h)).resolve_left ?_
  rintro rfl
  exact not_under_self h

theorem mem_preorder_antisymm (h : m ∈ n.preorder) (h' : n ∈ m.preorder) : m = n := by
  rcases eq_or_under_of_mem_preorder h with rfl | hu
  · rfl
  rcases eq_or_under_of_mem_preorder h' with rfl | hu'
  · rfl
  exact absurd (length_path_lt_of_under hu) (Nat.lt_asymm (length_path_lt_of_under hu'))

theorem mem_preorder_iff_of_parent? (h : n.parent? = some p) :
    n ∈ m.preorder ↔ n = m ∨ p ∈ m.preorder := by
  constructor
  · intro hn
    rcases eq_or_under_of_mem_preorder hn with rfl | hu
    · exact .inl rfl
    right
    cases hu using Relation.TransGen.head_induction_on with
    | single hm => exact Option.some.inj (h.symm.trans hm) ▸ self_mem_preorder m
    | head hm hu => exact Option.some.inj (h.symm.trans hm) ▸ mem_preorder_of_under hu
  · rintro (rfl | hp)
    · exact self_mem_preorder n
    · exact mem_preorder_trans hp (mem_preorder_of_mem_children (mem_children_of_parent? h))

mutual

theorem map_place_preorderOf (source : Source) : (path : List Frame) → (t : Tree Place) →
    (preorderOf source path t).map place = t.preorder
  | path, .node place ts => by
    rw [preorderOf, List.map_cons, map_place_preorderForest, preorder_node]
    rfl

theorem map_place_preorderForest (source : Source) : (path : List Frame) → (parent : Place) →
    (before ts : List (Tree Place)) →
      (preorderForest source path parent before ts).map place = forestPreorder ts
  | _, _, _, [] => rfl
  | path, parent, before, t :: ts => by
    rw [preorderForest, List.map_append, map_place_preorderOf, map_place_preorderForest,
      forestPreorder_cons]

end

/-- The numbers under a node follow its own, without a gap. -/
theorem map_id_preorder (h : n.tree.NumberedFrom n.id) :
    n.preorder.map id = List.range' n.id n.size := by
  rw [size, ← h.map_id_preorder, ← map_place_preorderOf n.source n.path, List.map_map]
  rfl

end

end Node

namespace SyntaxTree

open Node

section
variable {tree : SyntaxTree} {a b n m p : Node} {i : Nat}

theorem below_of_mem (hn : tree.root.NumberedFrom 0) (h : n ∈ tree.rootNode.preorder) :
    Tree.Below tree.root n.tree :=
  (of_mem_preorderOf h hn fun _ hf => absurd hf List.not_mem_nil).2.1

theorem numbered_of_mem (hn : tree.root.NumberedFrom 0) (h : n ∈ tree.rootNode.preorder) :
    n.tree.NumberedFrom n.id :=
  (below_of_mem hn h).numbered hn

theorem map_id_preorder_rootNode (hn : tree.root.NumberedFrom 0) :
    tree.rootNode.preorder.map Node.id = List.range tree.size := by
  have hid : tree.rootNode.id = 0 := hn.id_eq
  have hroot : tree.rootNode.tree.NumberedFrom tree.rootNode.id := hid ▸ hn
  rw [map_id_preorder hroot, hid, List.range_eq_range']
  rfl

/-- The number of a node is its place in the walk from the root. -/
theorem getElem?_preorder (hn : tree.root.NumberedFrom 0) (h : n ∈ tree.rootNode.preorder) :
    tree.rootNode.preorder[n.id]? = some n := by
  obtain ⟨i, hi⟩ := List.mem_iff_getElem?.1 h
  have hid : (tree.rootNode.preorder.map Node.id)[i]? = some n.id := by
    rw [List.getElem?_map, hi, Option.map_some]
  rw [map_id_preorder_rootNode hn] at hid
  obtain ⟨hlt, hget⟩ := List.getElem?_eq_some_iff.1 hid
  rw [List.getElem_range] at hget
  rw [← hget, hi]

theorem nodup_preorder (hn : tree.root.NumberedFrom 0) :
    (tree.rootNode.preorder.map Node.id).Nodup := by
  rw [map_id_preorder_rootNode hn]
  exact List.nodup_range

theorem node_eq_of_id_eq (hn : tree.root.NumberedFrom 0) (ha : a ∈ tree.rootNode.preorder)
    (hb : b ∈ tree.rootNode.preorder) (h : a.id = b.id) : a = b :=
  List.inj_on_of_nodup_map (nodup_preorder hn) ha hb h

theorem beq_iff_of_mem (hn : tree.root.NumberedFrom 0) (ha : a ∈ tree.rootNode.preorder)
    (hb : b ∈ tree.rootNode.preorder) : (a == b) = true ↔ a = b := by
  rw [Node.beq_iff]
  exact ⟨node_eq_of_id_eq hn ha hb, congrArg Node.id⟩

theorem nodup_iff_countP_le_one {ns : List Node} (hn : tree.root.NumberedFrom 0)
    (h : ∀ n ∈ ns, n ∈ tree.rootNode.preorder) :
    ns.Nodup ↔ ∀ n ∈ ns, ns.countP (· == n) ≤ 1 := by
  have hids : ns.Nodup ↔ (ns.map Node.id).Nodup :=
    ⟨fun hnodup => hnodup.map_on fun a ha b hb => node_eq_of_id_eq hn (h a ha) (h b hb), .of_map _⟩
  have hcount (n : Node) : (ns.map Node.id).count n.id = ns.countP (· == n) := by
    rw [List.count, List.countP_map]
    rfl
  rw [hids, List.nodup_iff_count_le_one]
  refine ⟨fun hle n _ => hcount n ▸ hle n.id, fun hle i => ?_⟩
  by_cases hi : i ∈ ns.map Node.id
  · obtain ⟨n, hmem, rfl⟩ := List.mem_map.1 hi
    exact hcount n ▸ hle n hmem
  · rw [List.count_eq_zero_of_not_mem hi]
    exact Nat.zero_le 1

theorem parent?_mem (h : n ∈ tree.rootNode.preorder) (hp : n.parent? = some p) :
    p ∈ tree.rootNode.preorder := by
  rcases parent?_of_mem_preorderOf h with rfl | ⟨q, hmem, hq⟩
  · cases hp
  · rw [hp] at hq
    cases hq
    exact hmem

theorem parent?_eq_none_iff (h : n ∈ tree.rootNode.preorder) :
    n.parent? = none ↔ n = tree.rootNode := by
  constructor
  · intro hp
    rcases parent?_of_mem_preorderOf h with rfl | ⟨q, -, hq⟩
    · rfl
    · rw [hp] at hq
      cases hq
  · rintro rfl
    rfl

theorem id_lt_of_parent? (hn : tree.root.NumberedFrom 0) (h : n ∈ tree.rootNode.preorder)
    (hp : n.parent? = some p) : p.id < n.id := by
  have hids := (of_mem_preorderOf h hn fun _ hf => absurd hf List.not_mem_nil).2.2
  obtain ⟨source, t, path⟩ := n
  cases path with
  | nil => cases hp
  | cons frame path =>
    cases hp
    exact hids frame List.mem_cons_self

theorem id_lt_of_under (hn : tree.root.NumberedFrom 0) (h : n ∈ tree.rootNode.preorder)
    (hu : n.Under m) : m.id < n.id := by
  induction hu using Relation.TransGen.head_induction_on with
  | single hp => exact id_lt_of_parent? hn h hp
  | head hp _ ih => exact Nat.lt_trans (ih (parent?_mem h hp)) (id_lt_of_parent? hn h hp)

/-- The numbers under a node reach up to `last`. -/
theorem map_id_preorder_eq_range' (hn : tree.root.NumberedFrom 0)
    (h : n ∈ tree.rootNode.preorder) :
    n.preorder.map Node.id = List.range' n.id (n.place.last + 1 - n.id) := by
  have hnum := numbered_of_mem hn h
  have hlast := hnum.last_eq
  rw [map_id_preorder hnum]
  congr 1
  change n.tree.size = n.tree.label.last + 1 - n.id
  omega

theorem nodup_preorder_of_mem (hn : tree.root.NumberedFrom 0) (h : n ∈ tree.rootNode.preorder) :
    n.preorder.Nodup :=
  List.Nodup.of_map Node.id (map_id_preorder_eq_range' hn h ▸ List.nodup_range')

theorem nodup_descendants (hn : tree.root.NumberedFrom 0) (h : n ∈ tree.rootNode.preorder) :
    n.descendants.Nodup :=
  (List.nodup_cons.1 (n.descendants_perm.nodup_iff.2 (nodup_preorder_of_mem hn h))).2

theorem mem_preorder_iff (hn : tree.root.NumberedFrom 0) (ha : a ∈ tree.rootNode.preorder)
    (hb : b ∈ tree.rootNode.preorder) :
    b ∈ a.preorder ↔ a.id ≤ b.id ∧ b.id ≤ a.place.last := by
  have hids := map_id_preorder_eq_range' hn ha
  have hrange : b.id ∈ a.preorder.map Node.id ↔ a.id ≤ b.id ∧ b.id ≤ a.place.last := by
    rw [hids, List.mem_range'_1]
    omega
  rw [← hrange]
  constructor
  · exact fun h => List.mem_map_of_mem h
  · intro h
    obtain ⟨m, hm, hid⟩ := List.mem_map.1 h
    rwa [← node_eq_of_id_eq hn (mem_preorder_trans ha hm) hb hid]

/-- The test by numbers finds exactly the nodes from which steps up lead to a node. -/
theorem isAncestorOf_iff (hn : tree.root.NumberedFrom 0) (ha : a ∈ tree.rootNode.preorder)
    (hb : b ∈ tree.rootNode.preorder) : a.isAncestorOf b = true ↔ b.Under a := by
  rw [isAncestorOf, Bool.and_eq_true, decide_eq_true_eq, decide_eq_true_eq]
  constructor
  · rintro ⟨hlt, hle⟩
    have hmem := (mem_preorder_iff hn ha hb).2 ⟨Nat.le_of_lt hlt, hle⟩
    rcases eq_or_under_of_mem_preorder hmem with rfl | hu
    · exact absurd hlt (Nat.lt_irrefl _)
    · exact hu
  · intro hu
    exact ⟨id_lt_of_under hn hb hu, ((mem_preorder_iff hn ha hb).1 (mem_preorder_of_under hu)).2⟩

end

end SyntaxTree

end ComposeCheck
