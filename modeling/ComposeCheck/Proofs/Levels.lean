import ComposeCheck.Proofs.Backwards
import ComposeCheck.Proofs.Visits

/-!
# Level by level

A walk with a queue takes the node at the front and puts its children at the end. From the children
of a node on it makes the list `Node.descendants` (`queueWalk_children`), step by step
(`LevelWalk.answer_eq`). What carries the order is how two nodes of the queue stand to each other
(`InTurn`): the later one is as deep and has the greater number, or it is one step deeper and has
the smaller number, for it is under a node that has been taken before. So the walk gives the nodes
under a node by depth and then by number, and the first node of a kind is the highest and, of those
as high, the leftmost (`Node.descendants_by_level`).
-/

namespace ComposeCheck

namespace Node

/-- How many nodes are above a node. -/
def depth (n : Node) : Nat := n.ancestors.length

/-- Level by level one node comes before another: it is higher, or as high and has the smaller
number. -/
def LevelBefore (a b : Node) : Prop := a.depth < b.depth ∨ a.depth = b.depth ∧ a.id < b.id

/-- Two nodes are in two siblings, the first in the one before. -/
def LeftOf (a b : Node) : Prop :=
  ∃ v w, v.Precedes w ∧ (v = a ∨ a.Under v) ∧ (w = b ∨ b.Under w)

/-- How the nodes of a queue stand to the later ones. -/
def InTurn (a b : Node) : Prop :=
  a.depth = b.depth ∧ a.id < b.id ∨ b.depth = a.depth + 1 ∧ b.id < a.id

section
variable {source : Source} {path : List Frame} {parent : Place} {before ts : List (Tree Place)}
  {n m p a b : Node} {ns queue : List Node}

/-! ### Depth -/

theorem depth_of_parent? (h : n.parent? = some p) : n.depth = p.depth + 1 := by
  rw [depth, ancestors_of_parent? h, List.length_cons, depth]

theorem depth_eq_zero (h : n.parent? = none) : n.depth = 0 := by
  rw [depth, ancestors_eq_nil h, List.length_nil]

theorem depth_lt_of_under (h : n.Under m) : m.depth < n.depth := by
  induction h with
  | single hp => exact Nat.lt_of_succ_le (Nat.le_of_eq (depth_of_parent? hp).symm)
  | tail _ hp ih =>
    have := depth_of_parent? hp
    omega

theorem LevelBefore.asymm (h : a.LevelBefore b) : ¬b.LevelBefore a := by
  unfold LevelBefore at *
  omega

theorem InTurn.levelBefore (h : a.InTurn b) : a.LevelBefore b := by
  unfold InTurn at h
  unfold LevelBefore
  omega

/-! ### A queue makes levels -/

/-- Takes nodes from the front of a queue until it is empty. The children of a node that is taken
are put at the end. -/
def queueWalk : List Node → List Node
  | [] => []
  | n :: queue => n :: queueWalk (queue ++ n.children)
termination_by queue => (queue.map size).sum
decreasing_by
  have h := sum_size_children n
  simp only [List.map_append, List.map_cons, List.sum_append, List.sum_cons]
  omega

/-- The nodes in front are taken first, and then what has gathered behind them. -/
theorem queueWalk_append (as bs : List Node) :
    queueWalk (as ++ bs) = as ++ queueWalk (bs ++ as.flatMap children) := by
  induction as generalizing bs with
  | nil => rw [List.nil_append, List.flatMap_nil, List.append_nil, List.nil_append]
  | cons a as ih =>
    rw [List.cons_append, queueWalk, List.append_assoc, ih, List.flatMap_cons, List.append_assoc,
      List.cons_append]

theorem queueWalk_eq (ns : List Node) : queueWalk ns = ns ++ queueWalk (ns.flatMap children) := by
  have h := queueWalk_append ns []
  rwa [List.append_nil, List.nil_append] at h

theorem joinLevels_nil (levels : List (List Node)) : joinLevels levels [] = levels := by
  cases levels <;> rfl

theorem joinLevels_assoc (as bs cs : List (List Node)) :
    joinLevels (joinLevels as bs) cs = joinLevels as (joinLevels bs cs) := by
  induction as generalizing bs cs with
  | nil => rfl
  | cons a as ih =>
    cases bs with
    | nil => rfl
    | cons b bs =>
      cases cs with
      | nil => rfl
      | cons c cs => simp only [joinLevels, ih, List.append_assoc]

/-- The levels of the subtrees of several nodes, side by side. -/
def levelsFrom (ns : List Node) : List (List Node) :=
  ns.foldr (fun n levels => joinLevels (levelsOf n.source n.path n.tree) levels) []

theorem levelsForest_eq : levelsForest source path parent before ts =
    levelsFrom (focuses source path parent before ts) := by
  induction ts generalizing before with
  | nil => rfl
  | cons t ts ih =>
    rw [levelsForest, ih]
    rfl

theorem levelsOf_eq (n : Node) :
    levelsOf n.source n.path n.tree = [n] :: levelsFrom n.children := by
  obtain ⟨source, ⟨place, ts⟩, path⟩ := n
  rw [levelsOf, levelsForest_eq]
  rfl

theorem levelsFrom_cons (n : Node) (ns : List Node) :
    levelsFrom (n :: ns) = joinLevels ([n] :: levelsFrom n.children) (levelsFrom ns) := by
  rw [← levelsOf_eq]
  rfl

theorem levelsFrom_append (ns ms : List Node) :
    levelsFrom (ns ++ ms) = joinLevels (levelsFrom ns) (levelsFrom ms) := by
  induction ns with
  | nil => rfl
  | cons n ns ih => rw [List.cons_append, levelsFrom_cons, levelsFrom_cons, ih, joinLevels_assoc]

/-- The first level are the nodes themselves, and below them are the levels of their children. -/
theorem levelsFrom_eq (h : ns ≠ []) : levelsFrom ns = ns :: levelsFrom (ns.flatMap children) := by
  induction ns with
  | nil => exact absurd rfl h
  | cons n ns ih =>
    rw [levelsFrom_cons]
    cases ns with
    | nil => rw [List.flatMap_singleton]; exact joinLevels_nil _
    | cons m ns =>
      rw [ih (List.cons_ne_nil _ _), joinLevels, ← levelsFrom_append]
      rfl

theorem sum_size_flatMap_children (ns : List Node) :
    ((ns.flatMap children).map size).sum + ns.length = (ns.map size).sum := by
  induction ns with
  | nil => rfl
  | cons n ns ih =>
    have h := sum_size_children n
    simp only [List.flatMap_cons, List.map_append, List.sum_append, List.length_cons, List.map_cons,
      List.sum_cons]
    omega

theorem queueWalk_eq_flatten (ns : List Node) : queueWalk ns = (levelsFrom ns).flatten := by
  by_cases h : ns = []
  · subst h
    rw [queueWalk]
    rfl
  · have hsum := sum_size_flatMap_children ns
    have hlength := List.length_pos_iff.2 h
    rw [queueWalk_eq, levelsFrom_eq h, List.flatten_cons, queueWalk_eq_flatten (ns.flatMap children)]
termination_by (ns.map size).sum

theorem queueWalk_children (n : Node) : queueWalk n.children = n.descendants := by
  rw [queueWalk_eq_flatten, descendants, levelsOf_eq, List.tail_cons]

theorem exists_of_mem_queueWalk (h : m ∈ queueWalk queue) : ∃ n ∈ queue, m ∈ n.preorder := by
  induction queue using queueWalk.induct with
  | case1 =>
    rw [queueWalk] at h
    cases h
  | case2 n queue ih =>
    rw [queueWalk] at h
    rcases List.mem_cons.1 h with rfl | h
    · exact ⟨m, List.mem_cons_self, m.self_mem_preorder⟩
    obtain ⟨w, hw, hm⟩ := ih h
    rcases List.mem_append.1 hw with hw | hw
    · exact ⟨w, List.mem_cons_of_mem n hw, hm⟩
    · exact ⟨n, List.mem_cons_self, mem_preorder_trans (mem_preorder_of_mem_children hw) hm⟩

end

end Node

/-- A walk level by level: the nodes that it has come to and not given yet. -/
structure LevelWalk where
  queue : List Node

namespace LevelWalk

def start (n : Node) : LevelWalk := ⟨n.children⟩

/-- Gives the node at the front of the queue and puts its children at the end. -/
def next (walk : LevelWalk) : Option Node × LevelWalk :=
  match walk.queue with
  | [] => (none, walk)
  | n :: queue => (some n, ⟨queue ++ n.children⟩)

/-- What a walk gives after `k` other steps. -/
def answer : Nat → LevelWalk → Option Node
  | 0, walk => walk.next.1
  | k + 1, walk => answer k walk.next.2

/-- What a walk has still to give. -/
def rest (walk : LevelWalk) : List Node := Node.queueWalk walk.queue

theorem rest_start (n : Node) : (start n).rest = n.descendants := n.queueWalk_children

/-- A step gives the first of what is left and leaves the others. -/
theorem next_eq (walk : LevelWalk) :
    walk.next.1 = walk.rest.head? ∧ walk.next.2.rest = walk.rest.tail := by
  obtain ⟨queue⟩ := walk
  cases queue with
  | nil =>
    rw [rest, Node.queueWalk]
    exact ⟨rfl, Node.queueWalk.eq_1⟩
  | cons n queue =>
    rw [rest, rest, Node.queueWalk]
    exact ⟨rfl, rfl⟩

theorem answer_eq (k : Nat) (walk : LevelWalk) : walk.answer k = walk.rest[k]? := by
  induction k generalizing walk with
  | zero => rw [answer, walk.next_eq.1, List.head?_eq_getElem?]
  | succ k ih => rw [answer, ih, walk.next_eq.2, List.getElem?_tail]

end LevelWalk

namespace SyntaxTree

open Node

section
variable {tree : SyntaxTree} {n m a b : Node} {queue : List Node}

/-! ### Left and right -/

theorem last_lt_of_id_lt (hn : tree.root.NumberedFrom 0) (ha : a ∈ tree.rootNode.preorder)
    (hb : b ∈ tree.rootNode.preorder) (hdepth : a.depth = b.depth) (h : a.id < b.id) :
    a.place.last < b.id := by
  refine Nat.lt_of_not_le fun hle => ?_
  rcases eq_or_under_of_mem_preorder ((mem_preorder_iff hn ha hb).2 ⟨Nat.le_of_lt h, hle⟩) with
    rfl | hunder
  · exact Nat.lt_irrefl _ h
  · exact absurd hdepth (Nat.ne_of_lt (depth_lt_of_under hunder))

theorem precedes_iff (hn : tree.root.NumberedFrom 0) (hb : b ∈ tree.rootNode.preorder) {p : Node}
    (hp : b.parent? = some p) : a.Precedes b ↔ a.parent? = some p ∧ a.id < b.id := by
  rw [← mem_siblingsBefore_iff_precedes, mem_siblingsBefore_iff hn hb hp]

theorem id_lt_of_leftOf (hn : tree.root.NumberedFrom 0) (ha : a ∈ tree.rootNode.preorder)
    (hb : b ∈ tree.rootNode.preorder) (h : a.LeftOf b) : a.id < b.id := by
  obtain ⟨v, w, hvw, hv, hw⟩ := h
  have hwithin {c d : Node} (hd : d ∈ tree.rootNode.preorder) (h : c = d ∨ d.Under c) :
      c ∈ tree.rootNode.preorder ∧ c.id ≤ d.id ∧ d.id ≤ c.place.last := by
    rcases h with rfl | h
    · exact ⟨hd, (mem_preorder_iff hn hd hd).1 c.self_mem_preorder⟩
    · have hc := mem_of_under hd h
      exact ⟨hc, (mem_preorder_iff hn hc hd).1 (mem_preorder_of_under h)⟩
  obtain ⟨hvmem, -, hlast⟩ := hwithin ha hv
  obtain ⟨hwmem, hfirst, -⟩ := hwithin hb hw
  have ⟨p, hvp, hwp, _⟩ := hvw
  have hlt := ((precedes_iff hn hwmem hwp).1 hvw).2
  have hapart := last_lt_of_id_lt hn hvmem hwmem
    ((depth_of_parent? hvp).trans (depth_of_parent? hwp).symm) hlt
  omega

/-- The siblings that two nodes are in are found going up from both at once, as far as the two
parents are different. -/
theorem leftOf_of_id_lt (hn : tree.root.NumberedFrom 0) (ha : a ∈ tree.rootNode.preorder)
    (hb : b ∈ tree.rootNode.preorder) (hdepth : a.depth = b.depth) (hlt : a.id < b.id) :
    a.LeftOf b := by
  induction a using upward_induction generalizing b with
  | root a hnone =>
    -- At the root there is one node only.
    have hb0 : b.parent? = none := by
      cases hbp : b.parent? with
      | none => rfl
      | some q =>
        rw [depth_eq_zero hnone, depth_of_parent? hbp] at hdepth
        omega
    rw [(parent?_eq_none_iff ha).1 hnone, (parent?_eq_none_iff hb).1 hb0] at hlt
    exact absurd hlt (Nat.lt_irrefl _)
  | step a p hp ih =>
    cases hq : b.parent? with
    | none =>
      rw [depth_eq_zero hq, depth_of_parent? hp] at hdepth
      omega
    | some q =>
      have hpmem := parent?_mem ha hp
      have hqmem := parent?_mem hb hq
      have hsame : p.depth = q.depth := by
        rw [depth_of_parent? hp, depth_of_parent? hq] at hdepth
        exact Nat.succ.inj hdepth
      rcases Nat.lt_trichotomy p.id q.id with hpq | hpq | hqp
      · obtain ⟨v, w, hvw, hv, hw⟩ := ih hpmem hqmem hsame hpq
        refine ⟨v, w, hvw, .inr ?_, .inr ?_⟩
        · exact (under_iff_of_parent? hp).2 hv
        · exact (under_iff_of_parent? hq).2 hw
      · obtain rfl := node_eq_of_id_eq hn hpmem hqmem hpq
        exact ⟨a, b, (precedes_iff hn hb hq).2 ⟨hp, hlt⟩, .inl rfl, .inl rfl⟩
      · have hapart := last_lt_of_id_lt hn hqmem hpmem hsame.symm hqp
        have hbq := ((mem_preorder_iff hn hqmem hb).1 (mem_preorder_of_under (.single hq))).2
        have hap := id_lt_of_parent? hn ha hp
        omega

/-- Of two nodes that are as deep, the one with the smaller number is on the left. -/
theorem leftOf_iff (hn : tree.root.NumberedFrom 0) (ha : a ∈ tree.rootNode.preorder)
    (hb : b ∈ tree.rootNode.preorder) (hdepth : a.depth = b.depth) :
    a.LeftOf b ↔ a.id < b.id :=
  ⟨id_lt_of_leftOf hn ha hb, leftOf_of_id_lt hn ha hb hdepth⟩

/-! ### The order of the walk -/

theorem pairwise_inTurn_children (hn : tree.root.NumberedFrom 0)
    (hmem : n ∈ tree.rootNode.preorder) : n.children.Pairwise InTurn := by
  refine ((pairwise_preorder hn hmem).sublist n.children_sublist).imp_of_mem fun ha hb hlt => ?_
  refine .inl ⟨?_, hlt⟩
  rw [depth_of_parent? (parent?_of_mem_children ha), depth_of_parent? (parent?_of_mem_children hb)]

/-- When a node is taken from the queue and its children are put at the end, the nodes of the queue
stand to each other as before. -/
theorem pairwise_inTurn_step (hn : tree.root.NumberedFrom 0)
    (hmem : ∀ m ∈ n :: queue, m ∈ tree.rootNode.preorder) (h : (n :: queue).Pairwise InTurn) :
    (queue ++ n.children).Pairwise InTurn := by
  obtain ⟨hfirst, hqueue⟩ := List.pairwise_cons.1 h
  have hnmem := hmem n List.mem_cons_self
  refine List.pairwise_append.2 ⟨hqueue, pairwise_inTurn_children hn hnmem, fun m hm c hc => ?_⟩
  have hparent := parent?_of_mem_children hc
  have hdepth := depth_of_parent? hparent
  have hcmem := mem_preorder_trans hnmem (mem_preorder_of_mem_children hc)
  rcases hfirst m hm with ⟨hsame, hlt⟩ | ⟨hdeeper, hlt⟩
  · -- The other node is to the right of the parent and of all under it.
    have hapart := last_lt_of_id_lt hn hnmem (hmem m (List.mem_cons_of_mem n hm)) hsame hlt
    have hlast := ((mem_preorder_iff hn hnmem hcmem).1 (mem_preorder_of_mem_children hc)).2
    exact .inr ⟨by omega, by omega⟩
  · -- The other node is to the left of the parent.
    have hchild := id_lt_of_parent? hn hcmem hparent
    exact .inl ⟨by omega, by omega⟩

theorem pairwise_queueWalk (hn : tree.root.NumberedFrom 0)
    (hmem : ∀ m ∈ queue, m ∈ tree.rootNode.preorder) (h : queue.Pairwise InTurn) :
    (queueWalk queue).Pairwise LevelBefore := by
  induction queue using queueWalk.induct with
  | case1 =>
    rw [queueWalk]
    exact .nil
  | case2 n queue ih =>
    have hnmem := hmem n List.mem_cons_self
    have hfirst := (List.pairwise_cons.1 h).1
    rw [queueWalk]
    refine List.pairwise_cons.2 ⟨fun m hm => ?_, ih (fun m hm => ?_) (pairwise_inTurn_step hn hmem h)⟩
    · obtain ⟨w, hw, hmw⟩ := exists_of_mem_queueWalk hm
      have hnw : n.LevelBefore w := by
        rcases List.mem_append.1 hw with hw | hw
        · exact (hfirst w hw).levelBefore
        · exact .inl (depth_lt_of_under (under_of_mem_children hw))
      rcases eq_or_under_of_mem_preorder hmw with rfl | hunder
      · exact hnw
      · have := depth_lt_of_under hunder
        unfold LevelBefore at *
        omega
    · rcases List.mem_append.1 hm with hm | hm
      · exact hmem m (List.mem_cons_of_mem n hm)
      · exact mem_preorder_trans hnmem (mem_preorder_of_mem_children hm)

theorem pairwise_descendants (hn : tree.root.NumberedFrom 0) (hmem : n ∈ tree.rootNode.preorder) :
    n.descendants.Pairwise LevelBefore := by
  rw [← queueWalk_children]
  exact pairwise_queueWalk hn
    (fun m hm => mem_preorder_trans hmem (mem_preorder_of_mem_children hm))
    (pairwise_inTurn_children hn hmem)

theorem of_descendantOfKind?_eq_some (hn : tree.root.NumberedFrom 0)
    (hmem : n ∈ tree.rootNode.preorder) {kind : String} (h : n.descendantOfKind? kind = some m) :
    (m.Under n ∧ m.kind = kind) ∧
      ∀ other, other.Under n → other.kind = kind → other = m ∨ m.LevelBefore other := by
  obtain ⟨hkind, front, back, hsplit, hfront⟩ := List.find?_eq_some_iff_append.1 h
  have hsorted := pairwise_descendants hn hmem
  refine ⟨⟨mem_descendants_iff.1 (List.mem_of_find?_eq_some h), beq_iff_eq.1 hkind⟩, ?_⟩
  intro other hother hkind'
  rw [← mem_descendants_iff, hsplit] at hother
  rw [hsplit, List.pairwise_append, List.pairwise_cons] at hsorted
  rcases List.mem_append.1 hother with hother | hother
  · have := hfront other hother
    simp [hkind'] at this
  rcases List.mem_cons.1 hother with rfl | hother
  · exact .inl rfl
  · exact .inr (hsorted.2.1.1 other hother)

/-- The first node of a kind is the one that comes before all others of the kind. -/
theorem descendantOfKind?_eq_some_iff (hn : tree.root.NumberedFrom 0)
    (hmem : n ∈ tree.rootNode.preorder) {kind : String} : n.descendantOfKind? kind = some m ↔
      (m.Under n ∧ m.kind = kind) ∧
        ∀ other, other.Under n → other.kind = kind → other = m ∨ m.LevelBefore other := by
  refine ⟨of_descendantOfKind?_eq_some hn hmem, fun ⟨⟨hunder, hkind⟩, hleast⟩ => ?_⟩
  have hfound : (n.descendantOfKind? kind).isSome = true :=
    List.find?_isSome.2 ⟨m, mem_descendants_iff.2 hunder, beq_iff_eq.2 hkind⟩
  obtain ⟨found, h⟩ := Option.isSome_iff_exists.1 hfound
  obtain ⟨⟨hunder', hkind'⟩, hleast'⟩ := of_descendantOfKind?_eq_some hn hmem h
  rcases hleast' m hunder hkind with rfl | hbefore
  · exact h
  rcases hleast found hunder' hkind' with rfl | hbefore'
  · exact h
  · exact absurd hbefore hbefore'.asymm

end

end SyntaxTree

/-- The walk level by level from a node gives one node after the other and, after as many as are
under the node, nothing any more; started anew from the same node it gives the same. It gives the
nodes under the node, each once, by depth and at one depth by number. So the first node of a kind
is the highest and, of those as high, the leftmost. -/
theorem Node.descendants_by_level {parser : Parser} {text : String} {tree : SyntaxTree}
    (hread : SyntaxTree.read? parser text = some tree) {n : Node}
    (hmem : n ∈ tree.rootNode.preorder) :
    (∀ again ∈ tree.rootNode.preorder, (again == n) = true →
      ∀ k, (LevelWalk.start again).answer k = n.descendants[k]?) ∧
    n.descendants.length + 1 = n.size ∧
    (n.descendants.map id).Nodup ∧
    (∀ m, m ∈ n.descendants ↔ m.Under n) ∧
    n.descendants.Pairwise (fun a b => a.depth < b.depth ∨ a.depth = b.depth ∧ a.id < b.id) ∧
    (∀ kind m, n.descendantOfKind? kind = some m ↔ (m.Under n ∧ m.kind = kind) ∧
      ∀ other, other.Under n → other.kind = kind →
        other = m ∨ m.depth < other.depth ∨ m.depth = other.depth ∧ m.LeftOf other) ∧
    ∀ kind, n.descendantOfKind? kind = none ↔ ∀ m : Node, m.Under n → m.kind ≠ kind := by
  have hn := SyntaxTree.numberedFrom_of_read? hread
  refine ⟨fun again hagain hsame k => ?_, ?_, ?_, fun m => mem_descendants_iff,
    SyntaxTree.pairwise_descendants hn hmem, fun kind m => ?_, fun kind => ?_⟩
  · obtain rfl := (SyntaxTree.beq_iff_of_mem hn hagain hmem).1 hsame
    rw [LevelWalk.answer_eq, LevelWalk.rest_start]
  · rw [← List.length_cons, n.descendants_perm.length_eq, ← List.length_map (f := id),
      map_id_preorder (SyntaxTree.numbered_of_mem hn hmem), List.length_range']
  · refine (SyntaxTree.nodup_descendants hn hmem).map_on fun a ha b hb =>
      SyntaxTree.node_eq_of_id_eq hn ?_ ?_
    · exact mem_preorder_trans hmem (mem_preorder_of_mem_descendants ha)
    · exact mem_preorder_trans hmem (mem_preorder_of_mem_descendants hb)
  · rw [SyntaxTree.descendantOfKind?_eq_some_iff hn hmem]
    refine and_congr_right fun ⟨hunder, _⟩ => forall_congr' fun other => forall_congr' fun hother =>
      imp_congr_right fun _ => or_congr_right (or_congr_right (and_congr_right fun hdepth => ?_))
    have hin {m : Node} (h : m.Under n) : m ∈ tree.rootNode.preorder :=
      mem_preorder_trans hmem (mem_preorder_of_under h)
    exact (SyntaxTree.leftOf_iff hn (hin hunder) (hin hother) hdepth).symm
  · rw [descendantOfKind?, List.find?_eq_none]
    simp only [mem_descendants_iff, beq_iff_eq, ne_eq]

/-- Under the block the first name is in the loop: the variable of the loop has a smaller number but
is deeper, and the name of the call behind the loop is as deep but on the right. -/
theorem Node.descendants_by_level_shade :
    (shadeNode 13).descendants.map Node.id =
      [14, 15, 30, 47, 16, 17, 18, 20, 21, 22, 23, 31, 32, 19, 24, 25, 33, 26, 27, 29, 34, 35, 38,
        39, 46, 28, 36, 40, 41, 37, 42, 43, 45, 44] ∧
    (∀ k, (LevelWalk.start (shadeNode 13)).answer k = (shadeNode 13).descendants[k]?) ∧
    (shadeNode 13).descendantOfKind? "identifier" = some (shadeNode 21) ∧
    (shadeNode 21).depth < (shadeNode 19).depth ∧ (shadeNode 21).LeftOf (shadeNode 31) := by
  have hread : SyntaxTree.read? shadeParser shadeFile = some shadeTree := (Option.some_get _).symm
  have hn := SyntaxTree.numberedFrom_of_read? hread
  obtain ⟨hanswer, -, -, -, -, hfirst, -⟩ := descendants_by_level hread (shadeNode_mem 13)
  have hunder (i : Fin 48) (h : (shadeNode 13).isAncestorOf (shadeNode i) = true) :
      (shadeNode i).Under (shadeNode 13) :=
    (SyntaxTree.isAncestorOf_iff hn (shadeNode_mem 13) (shadeNode_mem i)).1 h
  have hfound : (shadeNode 13).descendantOfKind? "identifier" = some (shadeNode 21) := by
    obtain ⟨m, hm, hid⟩ : ∃ m ∈ (shadeNode 13).descendantOfKind? "identifier",
        m.id = (shadeNode 21).id := by decide +kernel
    have hmem := mem_preorder_of_under ((hfirst _ _).1 hm).1.1
    rw [← SyntaxTree.node_eq_of_id_eq hn (mem_preorder_trans (shadeNode_mem 13) hmem)
      (shadeNode_mem 21) hid]
    exact hm
  have hdepth : (shadeNode 21).depth < (shadeNode 19).depth := by decide +kernel
  refine ⟨by decide +kernel, hanswer _ (shadeNode_mem 13) (beq_iff.2 rfl), hfound, hdepth, ?_⟩
  rcases ((hfirst _ _).1 hfound).2 (shadeNode 31) (hunder 31 (by decide +kernel))
    (by decide +kernel) with heq | hlt | ⟨-, hleft⟩
  · exact absurd (congrArg Node.id heq) (by decide +kernel)
  · exact absurd hlt (by decide +kernel)
  · exact hleft

end ComposeCheck
