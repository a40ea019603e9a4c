import ComposeCheck.Proofs.Spans
import ComposeCheck.Tree.Node

/-!
# Numbers of nodes

`Tree.NumberedFrom` says that the nodes of a tree carry the numbers from `next` on in preorder, and
that `last` is the last number of each subtree. `SyntaxTree.number` makes such trees and changes
nothing else.
-/

namespace ComposeCheck

namespace Tree

mutual

/-- The nodes are numbered in preorder from `next` on. -/
def NumberedFrom (next : Nat) : Tree Place → Prop
  | node place ts =>
    place.id = next ∧ place.last = next + forestSize ts ∧ ForestNumberedFrom (next + 1) ts

/-- The nodes of several trees are numbered from `next` on, one tree after the other. -/
def ForestNumberedFrom (next : Nat) : List (Tree Place) → Prop
  | [] => True
  | t :: ts => NumberedFrom next t ∧ ForestNumberedFrom (next + t.size) ts

end

section
variable {next : Nat} {t : Tree Place} {ts : List (Tree Place)}

theorem numberedFrom_iff : NumberedFrom next t ↔ t.label.id = next ∧
    t.label.last + 1 = next + t.size ∧ ForestNumberedFrom (next + 1) t.children := by
  cases t with
  | node place ts =>
    have h : place.last = next + forestSize ts ↔ place.last + 1 = next + (node place ts).size := by
      simp only [size]
      omega
    simp only [NumberedFrom, label, children, h]

theorem NumberedFrom.id_eq (h : NumberedFrom next t) : t.label.id = next := (numberedFrom_iff.1 h).1

theorem NumberedFrom.last_eq (h : NumberedFrom next t) : t.label.last + 1 = next + t.size :=
  (numberedFrom_iff.1 h).2.1

theorem NumberedFrom.children (h : NumberedFrom next t) :
    ForestNumberedFrom (next + 1) t.children := (numberedFrom_iff.1 h).2.2

mutual

theorem NumberedFrom.of_mem_preorder {place : Place} :
    {t : Tree Place} → {next : Nat} → NumberedFrom next t → place ∈ t.preorder →
      next ≤ place.id ∧ place.id < next + t.size
  | node _ ts, next, h, hm => by
    rcases List.mem_cons.1 hm with rfl | hm
    · have h₁ := h.1
      have h₂ := size_pos (node place ts)
      omega
    · have h₁ := ForestNumberedFrom.of_mem_preorder h.2.2 hm
      simp only [size]
      omega

theorem ForestNumberedFrom.of_mem_preorder {place : Place} :
    {ts : List (Tree Place)} → {next : Nat} → ForestNumberedFrom next ts →
      place ∈ forestPreorder ts → next ≤ place.id ∧ place.id < next + forestSize ts
  | [], _, _, hm => by simp at hm
  | t :: ts, next, h, hm => by
    simp only [forestSize]
    rcases List.mem_append.1 hm with hm | hm
    · have := NumberedFrom.of_mem_preorder h.1 hm
      omega
    · have := ForestNumberedFrom.of_mem_preorder h.2 hm
      omega

end

/-- A subtree's numbers run from its own to `last`. -/
theorem NumberedFrom.id_mem_range {place : Place} (h : NumberedFrom next t)
    (hm : place ∈ t.preorder) : t.label.id ≤ place.id ∧ place.id ≤ t.label.last := by
  have h₁ := h.of_mem_preorder hm
  have h₂ := h.id_eq
  have h₃ := h.last_eq
  omega

end

end Tree

namespace SyntaxTree

open Tree

mutual

theorem numberedFrom_number (source : Source) :
    (next : Nat) → (t : ParseTree) → (number source next t).NumberedFrom next
  | next, .node _ ts => by
    refine ⟨rfl, ?_, numberedFrom_numberForest source (next + 1) ts⟩
    rw [forestSize_numberForest source (next + 1) ts]

theorem numberedFrom_numberForest (source : Source) :
    (next : Nat) → (ts : List ParseTree) → ForestNumberedFrom next (numberForest source next ts)
  | _, [] => trivial
  | next, t :: ts => by
    refine ⟨numberedFrom_number source next t, ?_⟩
    rw [size_number source next t]
    exact numberedFrom_numberForest source (next + t.size) ts

theorem size_number (source : Source) :
    (next : Nat) → (t : ParseTree) → (number source next t).size = t.size
  | next, .node _ ts => by simp [number, Tree.size, forestSize_numberForest source (next + 1) ts]

theorem forestSize_numberForest (source : Source) :
    (next : Nat) → (ts : List ParseTree) → forestSize (numberForest source next ts) = forestSize ts
  | _, [] => rfl
  | next, t :: ts => by
    simp [numberForest, forestSize, size_number source next t,
      forestSize_numberForest source (next + t.size) ts]

end

mutual

theorem map_toShape_number (source : Source) :
    (next : Nat) → (t : ParseTree) → (number source next t).map Place.toShape = t
  | next, .node _ ts => by simp [number, Tree.map, mapForest_toShape_numberForest source _ ts]

theorem mapForest_toShape_numberForest (source : Source) :
    (next : Nat) → (ts : List ParseTree) →
      mapForest Place.toShape (numberForest source next ts) = ts
  | _, [] => rfl
  | next, t :: ts => by
    simp [numberForest, map_toShape_number source next t,
      mapForest_toShape_numberForest source (next + t.size) ts]

end

end SyntaxTree

end ComposeCheck
