import ComposeCheck.Proofs.Branches
import ComposeCheck.Proofs.Scopes

/-!
# What shadows a name

A name is shadowed at its use exactly if it is a parameter of a callable around the use, or a
property that stands before the use in a node around it, below the boundary in both cases
(`isShadowed_reads_declarations`). Such a property is a local if the node around the use is a block;
the properties of a class body count as well. The variable of a `for` does not count: where no loop
and no class body binds the name, it is shadowed exactly if something binds it on the way to the
boundary (`BoundBetween`).
-/

namespace ComposeCheck

namespace Node

/-- A declared variable has this name. -/
def IsVariable (name : String) (v : Node) : Prop :=
  ∃ identifier, v.childOfKind? "identifier" = some identifier ∧ identifier.text = name

/-- A variable declared in a node has this name; several may be declared at once. -/
def BindsVariable (name : String) (holder : Node) : Prop :=
  ∃ v, (holder.childOfKind? "variable_declaration" = some v ∨
      ∃ several, holder.childOfKind? "multi_variable_declaration" = some several ∧
        v ∈ several.childrenOfKind "variable_declaration") ∧
    IsVariable name v

/-- A lambda has a parameter of this name, or destructures one into a part of this name. -/
def LambdaTakes (name : String) (callable : Node) : Prop :=
  callable.kind = "lambda_literal" ∧
    ∃ list, callable.childOfKind? "lambda_parameters" = some list ∧
      ∃ v : Node, v.Under list ∧ v.kind = "variable_declaration" ∧ IsVariable name v

/-- A function, anonymous or not, has a parameter of this name. -/
def FunctionTakes (name : String) (callable : Node) : Prop :=
  (callable.kind = "anonymous_function" ∨ callable.kind = "function_declaration") ∧
    ∃ list, callable.childOfKind? "function_value_parameters" = some list ∧
      ∃ p ∈ Parameter.allIn list, p.name? = some name

section
variable (use : Node) (name : String) (boundary : Node)

/-- The name is a parameter of a callable around the use, below the boundary. -/
def BoundByParameter : Prop :=
  ∃ callable, use.Under callable ∧ callable.Under boundary ∧
    (LambdaTakes name callable ∨ FunctionTakes name callable)

/-- A property of this name stands before the use, directly in a node around it; the use is not in
the property itself. -/
def BoundBefore (block : Node) : Prop :=
  use.Under block ∧ (block = boundary ∨ block.Under boundary) ∧
    ∃ p, p.parent? = some block ∧ p.kind = "property_declaration" ∧ p.id < use.id ∧
      ¬use.Under p ∧ BindsVariable name p

/-- The name is a local declared before the use in a block around it; the statements of a lambda
stand in the lambda itself. -/
def BoundByLocal : Prop :=
  ∃ block, (block.kind = "block" ∨ block.kind = "lambda_literal") ∧
    BoundBefore use name boundary block

/-- The name is a property declared before the use in what is no block, the body of a class. -/
def BoundByMember : Prop :=
  ∃ block, ¬(block.kind = "block" ∨ block.kind = "lambda_literal") ∧
    BoundBefore use name boundary block

/-- The name is a variable of a `for` in whose body the use stands. -/
def BoundByLoop : Prop :=
  ∃ loop body, loop.kind = "for_statement" ∧ loop.Under boundary ∧
    (loop.childrenFrom ")").find? isContent = some body ∧ use ∈ body.preorder ∧
    BindsVariable name loop

/-- Something declared between the use and the boundary has the name. -/
def BoundBetween : Prop :=
  BoundByParameter use name boundary ∨ BoundByLocal use name boundary ∨
    BoundByLoop use name boundary

end

section
variable {n m p callable : Node} {name : String}

/-! ### Steps up -/

theorem under_iff_of_parent? (h : n.parent? = some p) : n.Under m ↔ m = p ∨ p.Under m := by
  constructor
  · intro hm
    obtain ⟨q, hq, hreach⟩ := Relation.TransGen.head'_iff.1 hm
    obtain rfl : p = q := Option.some.inj (h.symm.trans hq)
    exact Relation.reflTransGen_iff_eq_or_transGen.1 hreach
  · rintro (rfl | hm)
    · exact .single h
    · exact .head h hm

/-- A node around another one has a child there, and that is the node or around it. -/
theorem exists_child_of_under (h : n.Under m) :
    ∃ w, w.parent? = some m ∧ (w = n ∨ n.Under w) := by
  obtain ⟨w, hreach, hparent⟩ := Relation.TransGen.tail'_iff.1 h
  exact ⟨w, hparent, Relation.reflTransGen_iff_eq_or_transGen.1 hreach⟩

/-! ### Siblings -/

theorem children_eq_of_parent? (h : n.parent? = some p) :
    p.children = n.siblingsBefore.reverse ++ n :: n.siblingsAfter := by
  obtain ⟨source, t, path⟩ := n
  cases path with
  | nil => cases h
  | cons frame path =>
    cases h
    exact go (n := ⟨source, t, frame :: path⟩) frame.before t frame.after
where
  go {n : Node} {path : List Frame} {parent : Place} (before : List (Tree Place)) (t : Tree Place)
      (after : List (Tree Place)) :
      focuses n.source path parent [] (before.reverse ++ t :: after) =
        (siblingsBefore.go n path parent t after before).reverse ++
          focuses n.source path parent before (t :: after) := by
    induction before generalizing t after with
    | nil => rfl
    | cons u before ih =>
      rw [List.reverse_cons, List.append_assoc, List.singleton_append, ih, siblingsBefore.go,
        List.reverse_cons, List.append_assoc]
      rfl

theorem focuses_sublist {source : Source} {path : List Frame} {parent : Place}
    {before ts : List (Tree Place)} :
    (focuses source path parent before ts).Sublist
      (preorderForest source path parent before ts) := by
  induction ts generalizing before with
  | nil => exact .slnil
  | cons t ts ih =>
    obtain ⟨place, us⟩ := t
    rw [focuses, preorderForest, preorderOf, List.cons_append]
    exact (ih.trans (List.sublist_append_right _ _)).cons_cons _

theorem children_sublist (n : Node) : n.children.Sublist n.preorder := by
  obtain ⟨source, ⟨place, ts⟩, path⟩ := n
  exact focuses_sublist.cons _

/-! ### Declared names -/

theorem mem_declaredNames_iff : name ∈ callable.declaredNames ↔
    LambdaTakes name callable ∨ FunctionTakes name callable := by
  unfold declaredNames
  split
  case isTrue hkind =>
    have hfunction : ¬FunctionTakes name callable := by
      rintro ⟨h, -⟩
      simp [hkind] at h
    rw [or_iff_left hfunction]
    split
    case h_1 hnone => simp [LambdaTakes, hnone]
    case h_2 list hlist =>
      rw [List.mem_filterMap]
      constructor
      · rintro ⟨v, hv, hname⟩
        obtain ⟨hv, hvkind⟩ := List.mem_filter.1 hv
        exact ⟨hkind, list, hlist, v, mem_descendants_iff.1 hv,
          beq_iff_eq.1 hvkind, Option.map_eq_some_iff.1 hname⟩
      · rintro ⟨-, list', hlist', v, hv, hvkind, hname⟩
        obtain rfl : list = list' := Option.some.inj (hlist.symm.trans hlist')
        exact ⟨v, List.mem_filter.2 ⟨mem_descendants_iff.2 hv,
          beq_iff_eq.2 hvkind⟩, Option.map_eq_some_iff.2 hname⟩
  case isFalse hlambda =>
    rw [or_iff_right fun h : LambdaTakes name callable => hlambda h.1]
    split
    case isTrue hkind =>
      split
      case h_1 hnone => simp [FunctionTakes, hnone]
      case h_2 list hlist => simp [FunctionTakes, hkind, hlist]
    case isFalse hkind => simp [FunctionTakes, hkind]

theorem bindsVariable_iff {p : Property} :
    (p.name? == some name || p.destructuredNames.contains name) = true ↔
      BindsVariable name p.node := by
  rw [Bool.or_eq_true, beq_iff_eq, List.contains_iff_mem]
  constructor
  · rintro (h | h)
    · obtain ⟨v, hv, hname⟩ := Option.bind_eq_some_iff.1 h
      exact ⟨v, .inl hv, Option.map_eq_some_iff.1 hname⟩
    · unfold Property.destructuredNames at h
      split at h
      case h_1 => cases h
      case h_2 several hseveral =>
        obtain ⟨v, hv, hname⟩ := List.mem_filterMap.1 h
        exact ⟨v, .inr ⟨several, hseveral, hv⟩, Option.map_eq_some_iff.1 hname⟩
  · rintro ⟨v, hv | ⟨several, hseveral, hv⟩, hname⟩
    · exact .inl (Option.bind_eq_some_iff.2 ⟨v, hv, Option.map_eq_some_iff.2 hname⟩)
    · right
      rw [Property.destructuredNames, hseveral]
      exact List.mem_filterMap.2 ⟨v, hv, Option.map_eq_some_iff.2 hname⟩

end

end Node

namespace SyntaxTree

open Node

section
variable {tree : SyntaxTree} {n m p s w x use boundary : Node} {name : String}

theorem pairwise_preorder (hn : tree.root.NumberedFrom 0) (hmem : n ∈ tree.rootNode.preorder) :
    n.preorder.Pairwise (·.id < ·.id) := by
  have h : (n.preorder.map Node.id).Pairwise (· < ·) := by
    rw [map_id_preorder_eq_range' hn hmem]
    exact List.pairwise_lt_range'
  exact List.pairwise_map.1 h

/-- The siblings before a node are those with a smaller number. -/
theorem mem_siblingsBefore_iff (hn : tree.root.NumberedFrom 0)
    (hmem : w ∈ tree.rootNode.preorder) (hp : w.parent? = some p) :
    s ∈ w.siblingsBefore ↔ s.parent? = some p ∧ s.id < w.id := by
  have hsorted := (pairwise_preorder hn (parent?_mem hmem hp)).sublist p.children_sublist
  have hchildren := children_eq_of_parent? hp
  rw [hchildren, List.pairwise_append, List.pairwise_cons] at hsorted
  obtain ⟨-, ⟨hafter, -⟩, hbefore⟩ := hsorted
  constructor
  · intro hs
    have hs := List.mem_reverse.2 hs
    have hchild : s ∈ p.children := hchildren ▸ List.mem_append_left _ hs
    exact ⟨parent?_of_mem_children hchild, hbefore s hs w List.mem_cons_self⟩
  · rintro ⟨hparent, hlt⟩
    have hchild := mem_children_of_parent? hparent
    rw [hchildren] at hchild
    rcases List.mem_append.1 hchild with hs | hs
    · exact List.mem_reverse.1 hs
    rcases List.mem_cons.1 hs with rfl | hs
    · exact absurd hlt (Nat.lt_irrefl _)
    · exact absurd hlt (Nat.lt_asymm (hafter s hs))

/-! ### The walk backwards -/

theorem mem_ancestorsBelow_iff (hn : tree.root.NumberedFrom 0)
    (hmem : use ∈ tree.rootNode.preorder) (hunder : use.Under boundary) :
    m ∈ use.ancestorsBelow boundary ↔ use.Under m ∧ m.Under boundary := by
  induction hunder using Relation.TransGen.head_induction_on with
  | single hp =>
    rw [ancestorsBelow, ancestors_of_parent? hp, List.takeWhile_cons_of_neg (by simp [beq_iff])]
    constructor
    · exact fun h => absurd h List.not_mem_nil
    · rintro ⟨hm, hbelow⟩
      rcases (under_iff_of_parent? hp).1 hm with rfl | hm
      · exact absurd hbelow not_under_self
      · exact absurd (hm.trans hbelow) not_under_self
  | @head n p hp hunder ih =>
    have hpmem := parent?_mem hmem hp
    have hne : (p == boundary) = false := Bool.eq_false_iff.2 fun heq =>
      Nat.ne_of_gt (id_lt_of_under hn hpmem hunder) (beq_iff.1 heq)
    rw [ancestorsBelow, ancestors_of_parent? hp,
      List.takeWhile_cons_of_pos (by rw [hne]; rfl), List.mem_cons,
      under_iff_of_parent? hp, or_and_right]
    refine or_congr ⟨?_, And.left⟩ (ih hpmem)
    rintro rfl
    exact ⟨rfl, hunder⟩

theorem mem_walkBackwards_iff (hn : tree.root.NumberedFrom 0)
    (hmem : use ∈ tree.rootNode.preorder) (hunder : use.Under boundary) :
    x ∈ use.walkBackwards (some boundary) ↔ (use.Under x ∧ x.Under boundary) ∨
      ∃ w, (w = use ∨ use.Under w) ∧ w.Under boundary ∧ x ∈ w.siblingsBefore := by
  rw [walkBackwards, ← ancestorsBelow_eq, List.mem_append, List.mem_flatMap]
  constructor
  · rintro (h | ⟨w, hw, h⟩)
    · exact .inr ⟨use, .inl rfl, hunder, h⟩
    · have hw := (mem_ancestorsBelow_iff hn hmem hunder).1 hw
      rcases List.mem_cons.1 h with rfl | h
      · exact .inl hw
      · exact .inr ⟨w, .inr hw.1, hw.2, h⟩
  · rintro (h | ⟨w, rfl | hw, hbelow, h⟩)
    · exact .inr ⟨x, (mem_ancestorsBelow_iff hn hmem hunder).2 h, List.mem_cons_self⟩
    · exact .inl h
    · exact .inr ⟨w, (mem_ancestorsBelow_iff hn hmem hunder).2 ⟨hw, hbelow⟩,
        List.mem_cons_of_mem _ h⟩

/-- Apart from what is around the use, the walk backwards meets what stands before the use directly
in a node around it. -/
theorem mem_walkBackwards_beside_iff (hn : tree.root.NumberedFrom 0)
    (hmem : use ∈ tree.rootNode.preorder) (hunder : use.Under boundary) :
    x ∈ use.walkBackwards (some boundary) ∧ x.isAncestorOf use = false ↔
      ∃ block, use.Under block ∧ (block = boundary ∨ block.Under boundary) ∧
        x.parent? = some block ∧ x.id < use.id ∧ ¬use.Under x := by
  constructor
  · rintro ⟨hx, hbeside⟩
    have hbeside : ¬use.Under x := fun h => by
      rw [(isAncestorOf_iff hn (mem_of_under hmem h) hmem).2 h] at hbeside
      cases hbeside
    rcases (mem_walkBackwards_iff hn hmem hunder).1 hx with ⟨haround, -⟩ | ⟨w, hw, hbelow, hs⟩
    · exact absurd haround hbeside
    obtain ⟨block, hblock, -⟩ := Relation.TransGen.head'_iff.1 hbelow
    obtain ⟨hwmem, hwunder, hle⟩ : w ∈ tree.rootNode.preorder ∧ use.Under block ∧
        w.id ≤ use.id := by
      rcases hw with rfl | hw
      · exact ⟨hmem, .single hblock, Nat.le_refl _⟩
      · exact ⟨mem_of_under hmem hw, hw.tail hblock, Nat.le_of_lt (id_lt_of_under hn hmem hw)⟩
    obtain ⟨hparent, hlt⟩ := (mem_siblingsBefore_iff hn hwmem hblock).1 hs
    exact ⟨block, hwunder, ((under_iff_of_parent? hblock).1 hbelow).imp_left Eq.symm, hparent,
      Nat.lt_of_lt_of_le hlt hle, hbeside⟩
  · rintro ⟨block, hblock, hbelow, hparent, hlt, hbeside⟩
    obtain ⟨w, hw, haround⟩ := exists_child_of_under hblock
    have hwmem : w ∈ tree.rootNode.preorder := by
      rcases haround with rfl | haround
      · exact hmem
      · exact mem_of_under hmem haround
    have hxmem : x ∈ tree.rootNode.preorder := mem_preorder_trans (parent?_mem hwmem hw)
      (mem_preorder_of_mem_children (mem_children_of_parent? hparent))
    have hinside : use ∈ w.preorder := by
      rcases haround with rfl | haround
      · exact self_mem_preorder _
      · exact mem_preorder_of_under haround
    have hwbelow : w.Under boundary := (under_iff_of_parent? hw).2 (hbelow.imp_left Eq.symm)
    -- From the child around the use to the use there are only nodes of that child.
    have hbefore : x.id < w.id := by
      refine Nat.lt_of_not_le fun hle => ?_
      have hlast := ((mem_preorder_iff hn hwmem hmem).1 hinside).2
      have hxinside := (mem_preorder_iff hn hwmem hxmem).2 ⟨hle, by omega⟩
      rcases eq_or_under_of_mem_preorder hxinside with rfl | hxunder
      · rcases haround with rfl | haround
        · exact Nat.lt_irrefl _ hlt
        · exact hbeside haround
      · have hlength := length_path_lt_of_under hxunder
        rw [length_path_of_parent? hw, length_path_of_parent? hparent] at hlength
        exact Nat.lt_irrefl _ hlength
    refine ⟨(mem_walkBackwards_iff hn hmem hunder).2 (.inr ⟨w, haround, hwbelow, ?_⟩), ?_⟩
    · exact (mem_siblingsBefore_iff hn hwmem hw).2 ⟨hparent, hbefore⟩
    · exact Bool.eq_false_iff.2 fun h => hbeside ((isAncestorOf_iff hn hxmem hmem).1 h)

/-! ### Shadowed names -/

theorem isShadowed_iff (hn : tree.root.NumberedFrom 0) (hmem : use ∈ tree.rootNode.preorder)
    (hunder : use.Under boundary) : use.isShadowed name boundary = true ↔
      BoundByParameter use name boundary ∨ ∃ block, BoundBefore use name boundary block := by
  rw [isShadowed, Bool.or_eq_true, List.any_eq_true, List.any_eq_true]
  refine or_congr (exists_congr fun callable => ?_) ?_
  · rw [mem_ancestorsBelow_iff hn hmem hunder, and_assoc]
    refine and_congr_right fun _ => and_congr_right fun _ => ?_
    rw [List.contains_iff_mem, mem_declaredNames_iff]
  constructor
  · rintro ⟨p, hp, hname⟩
    obtain ⟨x, hx, hp⟩ := List.mem_filterMap.1 hp
    obtain ⟨hx, hbeside⟩ := List.mem_filter.1 hx
    obtain ⟨rfl, hkind⟩ := Property.ofNode?_eq_some_iff.1 hp
    obtain ⟨block, hblock, hbelow, hparent, hlt, hbeside⟩ :=
      (mem_walkBackwards_beside_iff hn hmem hunder).1 ⟨hx, by simpa using hbeside⟩
    exact ⟨block, hblock, hbelow, p.node, hparent, hkind, hlt, hbeside, bindsVariable_iff.1 hname⟩
  · rintro ⟨block, hblock, hbelow, x, hparent, hkind, hlt, hbeside, hname⟩
    obtain ⟨hx, hbeside⟩ := (mem_walkBackwards_beside_iff hn hmem hunder).2
      ⟨block, hblock, hbelow, hparent, hlt, hbeside⟩
    refine ⟨⟨x⟩, List.mem_filterMap.2 ⟨x, List.mem_filter.2 ⟨hx, ?_⟩, ?_⟩,
      bindsVariable_iff.2 hname⟩
    · rw [hbeside, Bool.not_false]
    · exact Property.ofNode?_eq_some_iff.2 ⟨rfl, hkind⟩

end

end SyntaxTree

namespace Node

theorem BoundByLoop.exists_loop {use boundary : Node} {name : String}
    (h : BoundByLoop use name boundary) : ∃ loop, use.Under loop ∧ loop.kind = "for_statement" := by
  obtain ⟨loop, body, hkind, -, hbody, huse, -⟩ := h
  have hchild := (List.dropWhile_sublist _).mem (List.mem_of_find?_eq_some hbody)
  refine ⟨loop, ?_, hkind⟩
  rcases eq_or_under_of_mem_preorder huse with rfl | hunder
  · exact under_of_mem_children hchild
  · exact hunder.trans (under_of_mem_children hchild)

theorem BoundBefore.exists_property {tree : SyntaxTree} {use boundary block : Node} {name : String}
    (hmem : use ∈ tree.rootNode.preorder) (h : BoundBefore use name boundary block) :
    ∃ p ∈ tree.rootNode.preorder, p.kind = "property_declaration" := by
  obtain ⟨hblock, -, p, hparent, hkind, -⟩ := h
  exact ⟨p, mem_preorder_trans (SyntaxTree.mem_of_under hmem hblock)
    (mem_preorder_of_mem_children (mem_children_of_parent? hparent)), hkind⟩

/-- A name is shadowed exactly by the parameters, the locals and the members of a class that bind it
between its use and the boundary. This is all that binds it there but for loops and if no class body
does. -/
theorem isShadowed_reads_declarations {parser : Parser} {text : String} {tree : SyntaxTree}
    (hread : SyntaxTree.read? parser text = some tree) {use boundary : Node}
    (hmem : use ∈ tree.rootNode.preorder) (hunder : use.Under boundary) (name : String) :
    (use.isShadowed name boundary = true ↔ BoundByParameter use name boundary ∨
      BoundByLocal use name boundary ∨ BoundByMember use name boundary) ∧
    (¬BoundByLoop use name boundary → ¬BoundByMember use name boundary →
      (use.isShadowed name boundary = true ↔ BoundBetween use name boundary)) := by
  have hiff : use.isShadowed name boundary = true ↔ BoundByParameter use name boundary ∨
      BoundByLocal use name boundary ∨ BoundByMember use name boundary := by
    rw [SyntaxTree.isShadowed_iff (SyntaxTree.numberedFrom_of_read? hread) hmem hunder,
      BoundByLocal, BoundByMember, ← exists_or]
    refine or_congr_right (exists_congr fun block => ?_)
    rw [← or_and_right, and_iff_right (Classical.em _)]
  refine ⟨hiff, fun hloop hmember => ?_⟩
  rw [hiff, BoundBetween, or_iff_left hmember, or_iff_left hloop]

end Node

/-- A parameter, the variable of a loop and the parameter of a lambda have one name. -/
def shadeFile : String := "fun A(c: C) \x7b for (c in x) T(c); f \x7b c -> T(c) \x7d \x7d"

def shadeParser : Parser := fun text =>
  if text = shadeFile then
    let named (kind : String) (start stop : Nat) (ts : List ParseTree) : ParseTree :=
      .node ⟨kind, true, false, start, stop⟩ ts
    let token (kind : String) (start : Nat) : ParseTree :=
      .node ⟨kind, false, false, start, start + kind.length⟩ []
    let letter (start : Nat) : ParseTree := named "identifier" start (start + 1) []
    let declared (start : Nat) : ParseTree :=
      named "variable_declaration" start (start + 1) [letter start]
    let call (start : Nat) : ParseTree := named "call_expression" start (start + 4)
      [letter start, named "value_arguments" (start + 1) (start + 4) [token "(" (start + 1),
        named "value_argument" (start + 2) (start + 3) [letter (start + 2)],
        token ")" (start + 3)]]
    let parameters := named "function_value_parameters" 5 11 [token "(" 5,
      named "parameter" 6 10 [letter 6, token ":" 7, named "user_type" 9 10 [letter 9]],
      token ")" 10]
    let loop := named "for_statement" 14 31 [token "for" 14, token "(" 18, declared 19,
      token "in" 21, letter 24, token ")" 25, call 27]
    let lambda := named "lambda_literal" 35 48 [token "\x7b" 35,
      named "lambda_parameters" 37 38 [declared 37], token "->" 39, call 42, token "\x7d" 47]
    let block := named "block" 12 50 [token "\x7b" 12, loop, named "call_expression" 33 48
      [letter 33, named "annotated_lambda" 35 48 [lambda]], token "\x7d" 49]
    let function := named "function_declaration" 0 50
      [token "fun" 0, letter 4, parameters, named "function_body" 12 50 [block]]
    some ⟨named "source_file" 0 50 [function], false⟩
  else none

def shadeTree : SyntaxTree := (SyntaxTree.read? shadeParser shadeFile).get (by decide +kernel)

def shadeNode (i : Fin 48) : Node :=
  shadeTree.rootNode.preorder.get (Fin.castLE (by decide +kernel) i)

theorem shadeNode_mem (i : Fin 48) : shadeNode i ∈ shadeTree.rootNode.preorder :=
  List.get_mem _ _

open Node in
/-- The name is shadowed in the lambda; in the loop it is not, though the loop binds it. -/
theorem Node.isShadowed_reads_declarations_shade :
    (shadeNode 44).isShadowed "c" (shadeNode 1) = true ∧
    BoundBetween (shadeNode 44) "c" (shadeNode 1) ∧
    (shadeNode 28).isShadowed "c" (shadeNode 1) = false ∧
    BoundByLoop (shadeNode 28) "c" (shadeNode 1) := by
  have hread : SyntaxTree.read? shadeParser shadeFile = some shadeTree := (Option.some_get _).symm
  have hn := SyntaxTree.numberedFrom_of_read? hread
  have hunder (i j : Fin 48) (h : (shadeNode i).isAncestorOf (shadeNode j) = true) :
      (shadeNode j).Under (shadeNode i) :=
    (SyntaxTree.isAncestorOf_iff hn (shadeNode_mem i) (shadeNode_mem j)).1 h
  have hnoloop : ¬BoundByLoop (shadeNode 44) "c" (shadeNode 1) := by
    intro h
    obtain ⟨loop, haround, hkind⟩ := h.exists_loop
    have hnone : ∀ a ∈ (shadeNode 44).ancestors, a.kind ≠ "for_statement" := by decide +kernel
    exact hnone loop (mem_ancestors_iff.2 haround) hkind
  have hnomember : ¬BoundByMember (shadeNode 44) "c" (shadeNode 1) := by
    rintro ⟨block, -, h⟩
    obtain ⟨p, hp, hkind⟩ := h.exists_property (shadeNode_mem 44)
    have hnone : ∀ n ∈ shadeTree.rootNode.preorder, n.kind ≠ "property_declaration" := by
      decide +kernel
    exact hnone p hp hkind
  have hshadowed : (shadeNode 44).isShadowed "c" (shadeNode 1) = true := by decide +kernel
  have hbound := isShadowed_reads_declarations hread (shadeNode_mem 44)
    (hunder 1 44 (by decide +kernel)) "c"
  refine ⟨hshadowed, (hbound.2 hnoloop hnomember).1 hshadowed, by decide +kernel, ?_⟩
  obtain ⟨body, hbody, hid⟩ : ∃ body ∈ ((shadeNode 15).childrenFrom ")").find? isContent,
      body.id = (shadeNode 23).id := by decide +kernel
  obtain ⟨v, hv, identifier, hidentifier, hname⟩ :
      ∃ v ∈ (shadeNode 15).childOfKind? "variable_declaration",
        ∃ identifier ∈ v.childOfKind? "identifier", identifier.text = "c" := by decide +kernel
  have hchild := (List.dropWhile_sublist _).mem (List.mem_of_find?_eq_some hbody)
  have hbodymem := mem_preorder_trans (shadeNode_mem 15) (mem_preorder_of_mem_children hchild)
  have huse : shadeNode 28 ∈ body.preorder := by
    rw [SyntaxTree.node_eq_of_id_eq hn hbodymem (shadeNode_mem 23) hid]
    exact mem_preorder_of_under (hunder 23 28 (by decide +kernel))
  exact ⟨shadeNode 15, body, by decide +kernel, hunder 1 15 (by decide +kernel), hbody, huse, v,
    .inl hv, identifier, hidentifier, hname⟩

end ComposeCheck
