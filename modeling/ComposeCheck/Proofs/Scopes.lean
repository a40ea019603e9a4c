import ComposeCheck.Kotlin.Shadowing
import ComposeCheck.Proofs.Family

/-!
# Scopes

The scopes of a name that is used are the nodes around the use (`Node.mem_ancestors_iff`), up to a
boundary. Besides them the walk backwards meets the siblings before a node, which have its parent
(`Node.exists_parent_of_mem_siblingsBefore`).
-/

namespace ComposeCheck

namespace Tree

theorem ForestNumberedFrom.last_lt_id {before after : List (Tree Place)} {s t : Tree Place}
    {next : Nat} (hn : ForestNumberedFrom next (before ++ t :: after)) (hs : s ∈ before) :
    s.label.last < t.label.id := by
  induction before generalizing next with
  | nil => cases hs
  | cons u before ih =>
    rw [List.cons_append] at hn
    rcases List.mem_cons.1 hs with rfl | hs
    · have ht := (Below.numbered_of_mem hn.2 (List.mem_append_right _ List.mem_cons_self)).1
      have hlast := hn.1.last_eq
      omega
    · exact ih hn.2 hs

end Tree

namespace Node

section
variable {n m p s boundary : Node}

theorem ancestors_of_parent? (h : n.parent? = some p) : n.ancestors = p :: p.ancestors := by
  obtain ⟨source, t, path⟩ := n
  cases path with
  | nil => cases h
  | cons frame path =>
    cases h
    rfl

theorem under_of_mem_ancestorsOf {source : Source} {t : Tree Place} {path : List Frame}
    (h : m ∈ ancestorsOf source t path) : Under ⟨source, t, path⟩ m := by
  induction path generalizing t with
  | nil => cases h
  | cons frame path ih =>
    rcases List.mem_cons.1 h with rfl | h
    · exact .single rfl
    · exact .head rfl (ih h)

theorem mem_ancestors_iff : m ∈ n.ancestors ↔ n.Under m := by
  refine ⟨under_of_mem_ancestorsOf, fun h => ?_⟩
  induction h using Relation.TransGen.head_induction_on with
  | single hp =>
    rw [ancestors_of_parent? hp]
    exact List.mem_cons_self
  | head hp _ ih =>
    rw [ancestors_of_parent? hp]
    exact List.mem_cons_of_mem _ ih

/-- A sibling before a node has the same parent. -/
theorem exists_parent_of_mem_siblingsBefore (h : s ∈ n.siblingsBefore) :
    ∃ p, n.parent? = some p ∧ s.parent? = some p := by
  obtain ⟨source, t, path⟩ := n
  cases path with
  | nil => cases h
  | cons frame path => exact ⟨_, rfl, go h⟩
where
  go {n s : Node} {t : Tree Place} {path : List Frame} {parent : Place}
      {before after : List (Tree Place)} (h : s ∈ siblingsBefore.go n path parent t after before) :
      s.parent? = some ⟨n.source, .node parent (before.reverse ++ t :: after), path⟩ := by
    induction before generalizing t after with
    | nil => cases h
    | cons u before ih =>
      rcases List.mem_cons.1 h with rfl | h
      · simp [parent?]
      · rw [ih h, List.reverse_cons, List.append_assoc, List.singleton_append]

theorem ancestorsBelow_eq :
    n.ancestorsBelow boundary = n.ancestors.takeWhile fun a => !(some boundary).any (· == a) := by
  rw [ancestorsBelow]
  congr 1
  funext a
  have hcomm : (a == boundary) = (boundary == a) := by
    rw [Bool.eq_iff_iff, beq_iff, beq_iff, eq_comm]
  rw [Option.any_some, hcomm]

end

end Node

theorem Property.ofNode?_eq_some_iff {n : Node} {p : Property} :
    ofNode? n = some p ↔ p.node = n ∧ n.kind = "property_declaration" := by
  obtain ⟨m⟩ := p
  rw [ofNode?, Option.ite_none_right_eq_some, Option.some.injEq, mk.injEq, and_comm, eq_comm]

namespace SyntaxTree

open Node

section
variable {tree : SyntaxTree} {n m : Node}

theorem mem_of_under (hmem : n ∈ tree.rootNode.preorder) (h : n.Under m) :
    m ∈ tree.rootNode.preorder := by
  induction h using Relation.TransGen.head_induction_on with
  | single hp => exact parent?_mem hmem hp
  | head hp _ ih => exact ih (parent?_mem hmem hp)

end

end SyntaxTree

end ComposeCheck
