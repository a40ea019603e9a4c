/-!
# Ordered trees

A node carries a label and an ordered list of subtrees. `preorder` lists the labels with each node
before its subtrees, which is the order in which nodes are numbered.
-/

namespace ComposeCheck

/-- An ordered tree with labels. -/
inductive Tree (α : Type) where
  | node (label : α) (children : List (Tree α))

namespace Tree

variable {α β : Type}

def label : Tree α → α
  | node a _ => a

/-- The subtrees below the root. -/
def children : Tree α → List (Tree α)
  | node _ ts => ts

mutual

def size : Tree α → Nat
  | node _ ts => forestSize ts + 1

/-- The number of nodes of several trees. -/
def forestSize : List (Tree α) → Nat
  | [] => 0
  | t :: ts => size t + forestSize ts

end

mutual

/-- Applies a function to every label. -/
def map (f : α → β) : Tree α → Tree β
  | node a ts => node (f a) (mapForest f ts)

/-- Applies a function to every label of several trees. -/
def mapForest (f : α → β) : List (Tree α) → List (Tree β)
  | [] => []
  | t :: ts => map f t :: mapForest f ts

end

mutual

/-- The labels, each before the labels of its subtrees. -/
def preorder : Tree α → List α
  | node a ts => a :: forestPreorder ts

/-- The labels of several trees, one tree after the other. -/
def forestPreorder : List (Tree α) → List α
  | [] => []
  | t :: ts => preorder t ++ forestPreorder ts

end

def leftmost : Tree α → α
  | node a [] => a
  | node _ (t :: _) => leftmost t

theorem size_pos (t : Tree α) : 0 < t.size := by
  cases t; simp [size]

theorem size_le_forestSize {t : Tree α} {ts : List (Tree α)} (h : t ∈ ts) :
    t.size ≤ forestSize ts := by
  induction ts with
  | nil => simp at h
  | cons u us ih =>
    rcases List.mem_cons.1 h with rfl | h
    · simp [forestSize]
    · have := ih h
      simp only [forestSize]
      omega

theorem size_lt_of_mem {a : α} {t : Tree α} {ts : List (Tree α)} (h : t ∈ ts) :
    t.size < (node a ts).size := by
  have := size_le_forestSize h
  simp only [size]
  omega

end Tree

end ComposeCheck
