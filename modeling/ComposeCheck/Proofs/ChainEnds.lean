import ComposeCheck.Proofs.Handing
import ComposeCheck.Proofs.Settling
import ComposeCheck.Rules.ModifierClickableOrder

/-!
# Ends of chains

A chain leads from a whole expression down to its root, and its calls are those of the nodes on that
way (`Node.chainCalls_eq`). A node on it sees the part below, which starts with the same calls. A
click before a shape is looked for from each call of a chain that does not stand in a navigation,
whether the chain ends there or goes on: as a half of a call with a trailing lambda, in parentheses,
or as what is called. All of these lookouts that have the shape below them report the same click
(`Rules.mem_lookouts_iff`).
-/

namespace ComposeCheck

namespace Node

/-- What a link of a chain is applied to. -/
def inner? (n : Node) : Option Node := if n.isChainLink then n.firstNamedChild? else none

section
variable {n m p q k inner : Node}

theorem firstNamedChild?_of_inner? (h : n.inner? = some m) : n.firstNamedChild? = some m :=
  (Option.ite_none_right_eq_some.1 h).2

theorem size_lt_of_inner? (h : n.inner? = some m) : m.size < n.size :=
  size_lt_of_firstNamedChild? (firstNamedChild?_of_inner? h)

theorem parent?_of_inner? (h : n.inner? = some m) : m.parent? = some n :=
  parent?_of_firstNamedChild? (firstNamedChild?_of_inner? h)

theorem mem_preorder_of_inner? (h : n.inner? = some m) : m ∈ n.preorder :=
  mem_preorder_of_firstNamedChild? (firstNamedChild?_of_inner? h)

/-- The nodes of a chain, from the whole of it to its root. -/
def chainNodes (n : Node) : List Node :=
  match _h : n.inner? with
  | some inner => n :: chainNodes inner
  | none => [n]
termination_by n.size
decreasing_by exact size_lt_of_inner? _h

theorem chainNodes_of_some (h : n.inner? = some m) : n.chainNodes = n :: m.chainNodes := by
  rw [chainNodes]
  split
  case h_1 inner hinner => rw [Option.some.inj (h.symm.trans hinner)]
  case h_2 hnone => exact absurd (h.symm.trans hnone) (Option.some_ne_none m)

theorem chainNodes_of_none (h : n.inner? = none) : n.chainNodes = [n] := by
  rw [chainNodes]
  split
  case h_1 inner hinner => exact absurd (hinner.symm.trans h) (Option.some_ne_none inner)
  case h_2 => rfl

theorem chainRoot_of_some (h : n.inner? = some m) : n.chainRoot = m.chainRoot := by
  obtain ⟨hlink, hfirst⟩ := Option.ite_none_right_eq_some.1 h
  rw [chainRoot, if_pos hlink]
  split
  case h_1 inner hinner => rw [Option.some.inj (hfirst.symm.trans hinner)]
  case h_2 hnone => exact absurd (hfirst.symm.trans hnone) (Option.some_ne_none m)

/-- The calls of a chain are those of its nodes, the innermost first. -/
theorem chainCalls_eq (n : Node) :
    n.chainCalls = (n.chainNodes.filterMap Call.ofNode?).reverse := by
  fun_induction chainNodes n with
  | case1 n inner h ih =>
    obtain ⟨hlink, hfirst⟩ := Option.ite_none_right_eq_some.1 h
    have hcalls : n.chainCalls = inner.chainCalls ++ (Call.ofNode? n).toList := by
      rw [chainCalls, if_pos hlink]
      split
      case h_1 inner' hinner => rw [Option.some.inj (hfirst.symm.trans hinner)]
      case h_2 hnone => exact absurd (hfirst.symm.trans hnone) (Option.some_ne_none inner)
    rw [hcalls, ih, List.filterMap_cons]
    cases Call.ofNode? n with
    | none => simp
    | some c => simp
  | case2 n h =>
    have hcalls : n.chainCalls = (Call.ofNode? n).toList := by
      rw [chainCalls]
      split
      case isTrue hlink =>
        rw [inner?, if_pos hlink] at h
        split
        case h_1 inner hinner => exact absurd (hinner.symm.trans h) (Option.some_ne_none inner)
        case h_2 => rfl
      case isFalse => rfl
    rw [hcalls, List.filterMap_cons]
    cases Call.ofNode? n with
    | none => rfl
    | some c => rfl

theorem self_mem_chainNodes (n : Node) : n ∈ n.chainNodes := by
  cases h : n.inner? with
  | some inner => exact chainNodes_of_some h ▸ List.mem_cons_self
  | none => exact chainNodes_of_none h ▸ List.mem_cons_self

/-- A node of a chain has the part of it below. -/
theorem exists_append_of_mem (h : m ∈ n.chainNodes) :
    ∃ above, n.chainNodes = above ++ m.chainNodes := by
  fun_induction chainNodes n with
  | case1 n inner hinner ih =>
    rcases List.mem_cons.1 h with rfl | h
    · exact ⟨[], (chainNodes_of_some hinner).symm⟩
    · obtain ⟨above, heq⟩ := ih h
      exact ⟨n :: above, by rw [heq, List.cons_append]⟩
  | case2 n hinner =>
    obtain rfl := List.mem_singleton.1 h
    exact ⟨[], (chainNodes_of_none hinner).symm⟩

theorem mem_chainNodes_trans (hk : k ∈ m.chainNodes) (hm : m ∈ n.chainNodes) :
    k ∈ n.chainNodes := by
  obtain ⟨above, heq⟩ := exists_append_of_mem hm
  exact heq ▸ List.mem_append_right above hk

theorem chainRoot_of_mem (h : m ∈ n.chainNodes) : m.chainRoot = n.chainRoot := by
  fun_induction chainNodes n with
  | case1 n inner hinner ih =>
    rcases List.mem_cons.1 h with rfl | h
    · rfl
    · rw [ih h, chainRoot_of_some hinner]
  | case2 n => rw [List.mem_singleton.1 h]

theorem mem_preorder_of_mem_chainNodes (h : m ∈ n.chainNodes) : m ∈ n.preorder := by
  fun_induction chainNodes n with
  | case1 n inner hinner ih =>
    rcases List.mem_cons.1 h with rfl | h
    · exact m.self_mem_preorder
    · exact mem_preorder_trans (mem_preorder_of_inner? hinner) (ih h)
  | case2 n => exact List.mem_singleton.1 h ▸ n.self_mem_preorder

theorem size_le_of_mem_chainNodes (h : m ∈ n.chainNodes) : m.size ≤ n.size := by
  fun_induction chainNodes n with
  | case1 n inner hinner ih =>
    rcases List.mem_cons.1 h with rfl | h
    · exact Nat.le_refl _
    · exact Nat.le_of_lt (Nat.lt_of_le_of_lt (ih h) (size_lt_of_inner? hinner))
  | case2 n => rw [List.mem_singleton.1 h]

theorem nodup_chainNodes (n : Node) : n.chainNodes.Nodup := by
  fun_induction chainNodes n with
  | case1 n inner hinner ih =>
    refine List.nodup_cons.2 ⟨fun h => ?_, ih⟩
    exact Nat.not_lt.2 (size_le_of_mem_chainNodes h) (size_lt_of_inner? hinner)
  | case2 n => exact List.nodup_singleton n

theorem mem_chainNodes_iff :
    m ∈ n.chainNodes ↔ Relation.ReflTransGen (fun m n => n.inner? = some m) m n := by
  constructor
  · intro h
    fun_induction chainNodes n with
    | case1 n inner hinner ih =>
      rcases List.mem_cons.1 h with rfl | h
      · exact .refl
      · exact (ih h).tail hinner
    | case2 n => exact List.mem_singleton.1 h ▸ .refl
  · intro h
    induction h with
    | refl => exact self_mem_chainNodes _
    | tail _ hinner ih => exact chainNodes_of_some hinner ▸ List.mem_cons_of_mem _ ih

/-- Two chains with a node in common run into each other. -/
theorem mem_chainNodes_total (hn : k ∈ n.chainNodes) (hm : k ∈ m.chainNodes) :
    n ∈ m.chainNodes ∨ m ∈ n.chainNodes := by
  simp only [mem_chainNodes_iff] at *
  exact Relation.ReflTransGen.total_of_right_unique (fun _ _ _ h h' =>
    Option.some.inj ((parent?_of_inner? h).symm.trans (parent?_of_inner? h'))) hn hm

/-- Whether a chain is not applied to anything else: no link goes on from it. -/
def IsWholeChain (n : Node) : Prop := ∀ p : Node, p.inner? ≠ some n

theorem isWholeChain_of_parent? (h : n.parent?.any isChainLink = false) : n.IsWholeChain := by
  intro p hp
  rw [parent?_of_inner? hp, Option.any_some, (Option.ite_none_right_eq_some.1 hp).1] at h
  cases h

theorem IsWholeChain.eq_of_mem (h : n.IsWholeChain) (hmem : n ∈ m.chainNodes) : m = n := by
  rcases Relation.ReflTransGen.cases_head (mem_chainNodes_iff.1 hmem) with rfl | ⟨p, hp, -⟩
  · rfl
  · exact absurd hp (h p)

theorem exists_isWholeChain {tree : SyntaxTree} {n : Node} (h : n ∈ tree.rootNode.preorder) :
    ∃ chain ∈ tree.rootNode.preorder, chain.IsWholeChain ∧ n ∈ chain.chainNodes := by
  by_cases hwhole : n.IsWholeChain
  · exact ⟨n, h, hwhole, n.self_mem_chainNodes⟩
  obtain ⟨p, hp⟩ := not_forall_not.1 hwhole
  have hparent := parent?_of_inner? hp
  -- the way up gets shorter, which carries the induction
  have hlength := length_path_of_parent? hparent
  obtain ⟨chain, hmem, hchain, hnode⟩ := exists_isWholeChain (SyntaxTree.parent?_mem h hparent)
  have hn : n ∈ p.chainNodes := chainNodes_of_some hp ▸ List.mem_cons_of_mem _ n.self_mem_chainNodes
  exact ⟨chain, hmem, hchain, mem_chainNodes_trans hn hnode⟩
termination_by n.path.length

end

/-! ### The calls of a chain -/

section
variable {n m whole : Node} {c : Call}

theorem mem_chainCalls_iff :
    c ∈ n.chainCalls ↔ c.node ∈ n.chainNodes ∧ Call.ofNode? c.node = some c := by
  rw [chainCalls_eq, List.mem_reverse, List.mem_filterMap]
  constructor
  · rintro ⟨m, hm, hc⟩
    obtain rfl := Call.node_of_ofNode? hc
    exact ⟨hm, hc⟩
  · rintro ⟨hm, hc⟩
    exact ⟨c.node, hm, hc⟩

theorem nodup_chainCalls (n : Node) : n.chainCalls.Nodup := by
  rw [chainCalls_eq, List.nodup_reverse]
  refine List.Nodup.filterMap (fun m m' c hm hm' => ?_) n.nodup_chainNodes
  exact (Call.node_of_ofNode? hm).symm.trans (Call.node_of_ofNode? hm')

theorem exists_chainCalls_append (h : m ∈ whole.chainNodes) :
    ∃ later, whole.chainCalls = m.chainCalls ++ later := by
  obtain ⟨above, hnodes⟩ := exists_append_of_mem h
  refine ⟨(above.filterMap Call.ofNode?).reverse, ?_⟩
  rw [chainCalls_eq, chainCalls_eq, hnodes, List.filterMap_append, List.reverse_append]

end

end Node

namespace Rules

open Node

section
variable {calls xs ys : List Call} {click shape c : Call} {r : Call × Call} {n e whole : Node}

/-- The first clickable one of some calls, and the first one after it that gives a shape. -/
def clickIn? (calls : List Call) : Option (Call × Call) :=
  match calls.dropWhile fun call => !isClickable call with
  | [] => none
  | click :: later => (later.find? setsShape).map fun shape => (click, shape)

theorem clickBeforeShape?_eq : clickBeforeShape? n = clickIn? n.chainCalls := rfl

theorem clickIn?_eq_some_iff : clickIn? calls = some (click, shape) ↔
    ∃ before between after, calls = before ++ click :: (between ++ shape :: after) ∧
      (∀ c ∈ before, isClickable c = false) ∧ isClickable click = true ∧
      (∀ c ∈ between, setsShape c = false) ∧ setsShape shape = true := by
  constructor
  · intro h
    rw [clickIn?] at h
    split at h
    · cases h
    case h_2 click' later hdrop =>
    obtain ⟨shape', hfind, heq⟩ := Option.map_eq_some_iff.1 h
    obtain ⟨rfl, rfl⟩ := Prod.mk.inj heq
    obtain ⟨hshape, between, after, hlater, hbetween⟩ := List.find?_eq_some_iff_append.1 hfind
    refine ⟨calls.takeWhile fun call => !isClickable call, between, after, ?_, fun c hc => ?_, ?_,
      fun c hc => ?_, hshape⟩
    · rw [← hlater, ← hdrop, List.takeWhile_append_dropWhile]
    · exact (Bool.not_eq_true' _).mp (List.all_eq_true.1 List.all_takeWhile c hc)
    · have hhead := List.head_dropWhile_not (fun call => !isClickable call) (l := calls)
        (by rw [hdrop]; exact List.cons_ne_nil _ _)
      simpa only [hdrop, List.head_cons, Bool.not_eq_false'] using hhead
    · exact (Bool.not_eq_true' _).mp (hbetween c hc)
  · rintro ⟨before, between, after, rfl, hbefore, hclick, hbetween, hshape⟩
    have hdrop : (before ++ click :: (between ++ shape :: after)).dropWhile
        (fun call => !isClickable call) = click :: (between ++ shape :: after) := by
      rw [List.dropWhile_append_of_pos fun c hc => by rw [hbefore c hc]; rfl,
        List.dropWhile_cons_of_neg (by rw [hclick]; exact Bool.false_ne_true)]
    have hfind : (between ++ shape :: after).find? setsShape = some shape :=
      List.find?_eq_some_iff_append.2 ⟨hshape, between, after, rfl, fun c hc => by
        rw [hbetween c hc]; rfl⟩
    rw [clickIn?, hdrop]
    dsimp only
    rw [hfind]
    rfl

theorem clickIn?_append (h : clickIn? xs = some r) : clickIn? (xs ++ ys) = some r := by
  obtain ⟨click, shape⟩ := r
  obtain ⟨before, between, after, rfl, hfound⟩ := clickIn?_eq_some_iff.1 h
  exact clickIn?_eq_some_iff.2 ⟨before, between, after ++ ys, by simp, hfound⟩

/-- The calls up to the shape are enough to find it. -/
theorem clickIn?_of_append (hnodup : (xs ++ ys).Nodup)
    (h : clickIn? (xs ++ ys) = some (click, shape)) (hmem : shape ∈ xs) :
    clickIn? xs = some (click, shape) := by
  obtain ⟨before, between, after, hsplit, hfound⟩ := clickIn?_eq_some_iff.1 h
  have hsplit : xs ++ ys = (before ++ click :: between) ++ shape :: after := by
    rw [hsplit, List.append_assoc, List.cons_append]
  rw [hsplit] at hnodup
  have hnot : shape ∉ before ++ click :: between := fun hshape =>
    (List.nodup_append.1 hnodup).2.2 shape hshape shape List.mem_cons_self rfl
  rcases List.append_eq_append_iff.1 hsplit with ⟨rest, hfront, -⟩ | ⟨rest, hxs, hback⟩
  · exact absurd (hfront ▸ List.mem_append_left rest hmem) hnot
  · cases rest with
    | nil => exact absurd (by rwa [hxs, List.append_nil] at hmem) hnot
    | cons shape' rest =>
      obtain ⟨rfl, -⟩ := List.cons.inj hback
      exact clickIn?_eq_some_iff.2 ⟨before, between, rest, by rw [hxs]; simp, hfound⟩

/-- What is found in a chain is found from every node of it that has the shape below. -/
theorem clickBeforeShape?_iff_of_mem (hwhole : clickBeforeShape? whole = some (click, shape))
    (h : e ∈ whole.chainNodes) :
    clickBeforeShape? e = some r ↔ shape.node ∈ e.chainNodes ∧ r = (click, shape) := by
  rw [clickBeforeShape?_eq] at *
  obtain ⟨later, hcalls⟩ := exists_chainCalls_append h
  rw [hcalls] at hwhole
  have hshape : shape ∈ e.chainCalls ++ later := by
    obtain ⟨before, between, after, hsplit, -⟩ := clickIn?_eq_some_iff.1 hwhole
    rw [hsplit]
    simp
  constructor
  · intro hfound
    obtain rfl := Option.some.inj (hwhole.symm.trans (clickIn?_append hfound))
    obtain ⟨before, between, after, hsplit, -⟩ := clickIn?_eq_some_iff.1 hfound
    have hmem : shape ∈ e.chainCalls := by
      rw [hsplit]
      simp
    exact ⟨(mem_chainCalls_iff.1 hmem).1, rfl⟩
  · rintro ⟨hnode, rfl⟩
    have hof := (mem_chainCalls_iff.1 (hcalls ▸ hshape)).2
    have hnodup := hcalls ▸ whole.nodup_chainCalls
    exact clickIn?_of_append hnodup hwhole (mem_chainCalls_iff.2 ⟨hnode, hof⟩)

end

/-! ### Reports -/

/-- A chain that starts at a modifier and is not applied to anything else. -/
structure IsWholeModifierChain (chain : Node) : Prop where
  whole : chain.IsWholeChain
  root : chain.chainRoot.kind = "identifier"
  named : looksLikeModifier chain.chainRoot.text = true

/-- Whether a call stands in something else than a navigation. -/
def standsApart (n : Node) : Bool :=
  n.kind == "call_expression" && n.parent?.any (·.kind != "navigation_expression")

/-- The places of a chain at which it is looked at and a call is seen on it. -/
def lookouts (chain : Node) (call : Call) : List Node :=
  chain.chainNodes.filter fun n => standsApart n && n.chainNodes.any (· == call.node)

/-- The nodes that are reported in a file. -/
def reportedClicks (tree : SyntaxTree) : List Node :=
  ((tree.rootNode.descendants.filter isModifierChain).filterMap clickBeforeShape?).map (·.1.node)

section
variable {tree : SyntaxTree} {click shape : Call} {r : Call × Call} {n e chain : Node}

theorem reported_modifierClickableOrder (tree : SyntaxTree) (occasion : Occasion)
    (backend : Backend) (memo : Memo) :
    (modifierClickableOrder.report (.file tree.rootNode) occasion backend memo).1.findings.map
      (·.node) = reportedClicks tree := by
  simp only [modifierClickableOrder]
  exact List.map_map

theorem mem_descendants_rootNode_iff : n ∈ tree.rootNode.descendants ↔
    n ∈ tree.rootNode.preorder ∧ n.parent?.isSome = true := by
  rw [mem_descendants_iff]
  constructor
  · intro h
    refine ⟨mem_preorder_of_under h, ?_⟩
    obtain ⟨p, hp, -⟩ := Relation.TransGen.head'_iff.1 h
    rw [hp]
    rfl
  · rintro ⟨hmem, hparent⟩
    refine (eq_or_under_of_mem_preorder hmem).resolve_left ?_
    rintro rfl
    rw [(SyntaxTree.parent?_eq_none_iff hmem).2 rfl] at hparent
    cases hparent

theorem mem_filter_isModifierChain_iff :
    e ∈ tree.rootNode.descendants.filter isModifierChain ↔ e ∈ tree.rootNode.preorder ∧
      standsApart e = true ∧ e.chainRoot.kind = "identifier" ∧
        looksLikeModifier e.chainRoot.text = true := by
  rw [List.mem_filter, mem_descendants_rootNode_iff, isModifierChain, standsApart]
  cases e.parent? with
  | none => simp
  | some p => simp [and_assoc]

theorem nodes_mem_of_clickBeforeShape? (h : clickBeforeShape? n = some r) :
    r.1.node ∈ n.chainNodes ∧ r.2.node ∈ n.chainNodes := by
  obtain ⟨before, between, after, hsplit, -⟩ := clickIn?_eq_some_iff.1 h
  constructor
  · exact (mem_chainCalls_iff.1 (by rw [hsplit]; simp)).1
  · exact (mem_chainCalls_iff.1 (by rw [hsplit]; simp)).1

/-- A chain that is looked at is part of a whole one, in which the same is found. -/
theorem exists_whole_of_mem (h : e ∈ tree.rootNode.descendants.filter isModifierChain)
    (hfound : clickBeforeShape? e = some r) : ∃ chain ∈ tree.rootNode.preorder,
      IsWholeModifierChain chain ∧ clickBeforeShape? chain = some r ∧ e ∈ chain.chainNodes := by
  obtain ⟨hmem, -, hroot, hnamed⟩ := mem_filter_isModifierChain_iff.1 h
  obtain ⟨chain, hchain, hwhole, he⟩ := exists_isWholeChain hmem
  rw [chainRoot_of_mem he] at hroot hnamed
  refine ⟨chain, hchain, ⟨hwhole, hroot, hnamed⟩, ?_, he⟩
  obtain ⟨later, hcalls⟩ := exists_chainCalls_append he
  rw [clickBeforeShape?_eq] at hfound ⊢
  exact hcalls ▸ clickIn?_append hfound

/-- The click of a whole chain is reported from its lookouts over the shape, and from nowhere
else. -/
theorem mem_lookouts_iff (hn : tree.root.NumberedFrom 0) (hmem : chain ∈ tree.rootNode.preorder)
    (hchain : IsWholeModifierChain chain) (hfound : clickBeforeShape? chain = some (click, shape)) :
    e ∈ lookouts chain shape ↔ e ∈ tree.rootNode.descendants.filter isModifierChain ∧
      ∃ r, clickBeforeShape? e = some r ∧ r.1.node = click.node := by
  have htree {n m : Node} (hm : m ∈ n.chainNodes) (h : n ∈ tree.rootNode.preorder) :
      m ∈ tree.rootNode.preorder := mem_preorder_trans h (mem_preorder_of_mem_chainNodes hm)
  have hseen (he : e ∈ chain.chainNodes) :
      e.chainNodes.any (· == shape.node) = true ↔ shape.node ∈ e.chainNodes := by
    have hshape := htree (nodes_mem_of_clickBeforeShape? hfound).2 hmem
    rw [List.any_eq_true]
    constructor
    · rintro ⟨m, hm, heq⟩
      exact (SyntaxTree.beq_iff_of_mem hn (htree hm (htree he hmem)) hshape).1 heq ▸ hm
    · exact fun hm => ⟨shape.node, hm, Node.beq_iff.2 rfl⟩
  rw [lookouts, List.mem_filter, Bool.and_eq_true]
  constructor
  · rintro ⟨he, hapart, hany⟩
    have hroot := chainRoot_of_mem he
    refine ⟨mem_filter_isModifierChain_iff.2 ⟨htree he hmem, hapart, hroot ▸ hchain.root,
      hroot ▸ hchain.named⟩, (click, shape), ?_, rfl⟩
    exact (clickBeforeShape?_iff_of_mem hfound he).2 ⟨(hseen he).1 hany, rfl⟩
  · rintro ⟨hlooked, r, hr, hnode⟩
    obtain ⟨whole, -, hwhole, hfound', he⟩ := exists_whole_of_mem hlooked hr
    -- the two whole chains meet at the click
    have hclick : click.node ∈ whole.chainNodes :=
      hnode ▸ (nodes_mem_of_clickBeforeShape? hfound').1
    obtain rfl : whole = chain := by
      rcases mem_chainNodes_total hclick (nodes_mem_of_clickBeforeShape? hfound).1 with h | h
      · exact (hwhole.whole.eq_of_mem h).symm
      · exact hchain.whole.eq_of_mem h
    have hshape := ((clickBeforeShape?_iff_of_mem hfound he).1 hr).1
    exact ⟨he, (mem_filter_isModifierChain_iff.1 hlooked).2.1, (hseen he).2 hshape⟩

theorem exists_whole_of_reported {k : Node} (h : k ∈ reportedClicks tree) :
    ∃ chain ∈ tree.rootNode.preorder, IsWholeModifierChain chain ∧
      ∃ click shape, clickBeforeShape? chain = some (click, shape) ∧ click.node = k := by
  obtain ⟨⟨click, shape⟩, hr, rfl⟩ := List.mem_map.1 h
  obtain ⟨e, he, hfound⟩ := List.mem_filterMap.1 hr
  obtain ⟨chain, hmem, hchain, hfound, -⟩ := exists_whole_of_mem he hfound
  exact ⟨chain, hmem, hchain, click, shape, hfound, rfl⟩

theorem click_mem_preorder (h : n ∈ tree.rootNode.preorder) (hfound : clickBeforeShape? n = some r) :
    r.1.node ∈ tree.rootNode.preorder :=
  mem_preorder_trans h (mem_preorder_of_mem_chainNodes (nodes_mem_of_clickBeforeShape? hfound).1)

theorem countP_reportedClicks (hn : tree.root.NumberedFrom 0)
    (hmem : chain ∈ tree.rootNode.preorder) (hchain : IsWholeModifierChain chain)
    (hfound : clickBeforeShape? chain = some (click, shape)) :
    (reportedClicks tree).countP (· == click.node) = (lookouts chain shape).length := by
  rw [reportedClicks, List.countP_map, List.countP_filterMap, List.countP_eq_length_filter]
  refine List.Perm.length_eq ((List.perm_ext_iff_of_nodup ?_ ?_).2 fun e => ?_)
  · exact ((SyntaxTree.nodup_descendants hn tree.rootNode.self_mem_preorder).filter _).filter _
  · exact chain.nodup_chainNodes.filter _
  · rw [mem_lookouts_iff hn hmem hchain hfound, List.mem_filter]
    refine and_congr_right fun he => ?_
    cases hr : clickBeforeShape? e with
    | none => simp
    | some r =>
      have hnode := click_mem_preorder (mem_filter_isModifierChain_iff.1 he).1 hr
      simpa using SyntaxTree.beq_iff_of_mem hn hnode (click_mem_preorder hmem hfound)

/-- Every report is of the click before a shape in a whole chain that starts at a modifier, and the
click of such a chain is reported once from each lookout over the shape. So no node is reported
twice iff there are never two lookouts. -/
theorem clicks_reported_per_lookout {parser : Parser} {text : String} {tree : SyntaxTree}
    (hread : SyntaxTree.read? parser text = some tree) (occasion : Occasion) (backend : Backend)
    (memo : Memo) :
    let reported := (modifierClickableOrder.report (.file tree.rootNode) occasion backend
      memo).1.findings.map (·.node)
    (∀ k ∈ reported, ∃ chain ∈ tree.rootNode.preorder, IsWholeModifierChain chain ∧
      ∃ click shape, clickBeforeShape? chain = some (click, shape) ∧ click.node = k) ∧
    (∀ chain ∈ tree.rootNode.preorder, IsWholeModifierChain chain → ∀ click shape,
      clickBeforeShape? chain = some (click, shape) →
        reported.countP (· == click.node) = (lookouts chain shape).length) ∧
    (reported.Nodup ↔ ∀ chain ∈ tree.rootNode.preorder, IsWholeModifierChain chain →
      ∀ click shape, clickBeforeShape? chain = some (click, shape) →
        (lookouts chain shape).length ≤ 1) := by
  intro reported
  have hn := SyntaxTree.numberedFrom_of_read? hread
  have hreported : reported = reportedClicks tree :=
    reported_modifierClickableOrder tree occasion backend memo
  have hnodes : ∀ k ∈ reportedClicks tree, k ∈ tree.rootNode.preorder := by
    intro k hk
    obtain ⟨chain, hmem, -, click, shape, hfound, rfl⟩ := exists_whole_of_reported hk
    exact click_mem_preorder hmem hfound
  rw [hreported]
  refine ⟨fun k => exists_whole_of_reported,
    fun chain hmem hchain click shape => countP_reportedClicks hn hmem hchain, ?_⟩
  rw [SyntaxTree.nodup_iff_countP_le_one hn hnodes]
  constructor
  · intro h chain hmem hchain click shape hfound
    rw [← countP_reportedClicks hn hmem hchain hfound]
    rcases Nat.eq_zero_or_pos ((reportedClicks tree).countP (· == click.node)) with hnone | hsome
    · exact hnone ▸ Nat.zero_le 1
    · obtain ⟨k, hk, hsame⟩ := List.countP_pos_iff.1 hsome
      obtain rfl := (SyntaxTree.beq_iff_of_mem hn (hnodes k hk)
        (click_mem_preorder hmem hfound)).1 hsame
      exact h _ hk
  · intro h k hk
    obtain ⟨chain, hmem, hchain, click, shape, hfound, rfl⟩ := exists_whole_of_reported hk
    rw [countP_reportedClicks hn hmem hchain hfound]
    exact h chain hmem hchain click shape hfound

end

section
open ParseTree

/-- A chain that ends in a call with an argument and a trailing lambda. -/
def gestureFile : String := "fun a() \x7b\n" ++
  "    val m = Modifier.clickable \x7b \x7d.clip(S).pointerInput(Unit) \x7b \x7d\n\x7d\n"

def gestureRoot : ParseTree :=
  let lambda (start : Nat) : ParseTree := named "annotated_lambda" start (start + 3)
    [named "lambda_literal" start (start + 3)
      [token "\x7b" start (start + 1), token "\x7d" (start + 2) (start + 3)]]
  let argument (start stop : Nat) : ParseTree := named "value_arguments" start stop
    [token "(" start (start + 1),
      named "value_argument" (start + 1) (stop - 1) [name (start + 1) (stop - 1)],
      token ")" (stop - 1) stop]
  let navigation (stop : Nat) (receiver : ParseTree) : ParseTree :=
    named "navigation_expression" 22 stop
      [receiver, token "." receiver.label.stop (receiver.label.stop + 1),
        name (receiver.label.stop + 1) stop]
  let click := named "call_expression" 22 44 [navigation 40 (name 22 30), lambda 41]
  let clip := named "call_expression" 22 52 [navigation 49 click, argument 49 52]
  let gesture := named "call_expression" 22 75
    [named "call_expression" 22 71 [navigation 65 clip, argument 65 71], lambda 72]
  let property := named "property_declaration" 14 75 [token "val" 14 17,
    named "variable_declaration" 18 19 [name 18 19], token "=" 20 21, gesture]
  named "source_file" 0 78 [named "function_declaration" 0 77 [token "fun" 0 3, name 4 5,
    named "function_value_parameters" 5 7 [token "(" 5 6, token ")" 6 7],
    named "function_body" 8 77 [named "block" 8 77
      [token "\x7b" 8 9, property, token "\x7d" 76 77]]]]

def gestureParser : Parser := fun text =>
  if text = gestureFile then some ⟨gestureRoot, false⟩ else none

def gestureTree : SyntaxTree := (SyntaxTree.read? gestureParser gestureFile).get (by decide +kernel)

def gestureChain : Node :=
  (gestureTree.rootNode.preorder.find? (·.kind == "call_expression")).get (by decide +kernel)

def gestureReported : List Node :=
  (modifierClickableOrder.report (.file gestureTree.rootNode) .plain (fun _ => none)
    .empty).1.findings.map (·.node)

/-- Both halves of the last call are lookouts, so the click is reported twice. -/
theorem clicks_reported_per_lookout_gesture :
    SyntaxTree.read? gestureParser gestureFile = some gestureTree ∧
    gestureChain ∈ gestureTree.rootNode.preorder ∧ IsWholeModifierChain gestureChain ∧
    ∃ click shape : Call, clickBeforeShape? gestureChain = some (click, shape) ∧
      click.node.text = "Modifier.clickable \x7b \x7d" ∧
      (lookouts gestureChain shape).map (·.text) =
        ["Modifier.clickable \x7b \x7d.clip(S).pointerInput(Unit) \x7b \x7d",
          "Modifier.clickable \x7b \x7d.clip(S).pointerInput(Unit)"] ∧
      gestureReported.countP (· == click.node) = 2 ∧ ¬gestureReported.Nodup := by
  have hread : SyntaxTree.read? gestureParser gestureFile = some gestureTree :=
    (Option.some_get _).symm
  have hmem : gestureChain ∈ gestureTree.rootNode.preorder :=
    List.mem_of_find?_eq_some (Option.some_get _).symm
  have hchain : IsWholeModifierChain gestureChain :=
    ⟨isWholeChain_of_parent? (by decide +kernel), by decide +kernel, by decide +kernel⟩
  have hfound : (clickBeforeShape? gestureChain).map (fun found =>
      (found.1.node.text, (lookouts gestureChain found.2).map (·.text))) =
      some ("Modifier.clickable \x7b \x7d",
        ["Modifier.clickable \x7b \x7d.clip(S).pointerInput(Unit) \x7b \x7d",
          "Modifier.clickable \x7b \x7d.clip(S).pointerInput(Unit)"]) := by
    decide +kernel
  obtain ⟨⟨click, shape⟩, hfound, hseen⟩ := Option.map_eq_some_iff.1 hfound
  obtain ⟨hclick, hlookouts⟩ := Prod.mk.inj hseen
  have htwo : (lookouts gestureChain shape).length = 2 := by
    simpa using congrArg List.length hlookouts
  obtain ⟨-, hcount, hnodup⟩ := clicks_reported_per_lookout hread .plain (fun _ => none) .empty
  refine ⟨hread, hmem, hchain, click, shape, hfound, hclick, hlookouts, ?_, fun h => ?_⟩
  · rw [gestureReported, hcount gestureChain hmem hchain click shape hfound, htwo]
  · have hle := hnodup.1 h gestureChain hmem hchain click shape hfound
    rw [htwo] at hle
    exact absurd hle (by decide)

end

end Rules

end ComposeCheck
