import ComposeCheck.Proofs.Numbering
import Mathlib.Algebra.GroupWithZero.Nat

/-!
# Nodes of a tree

A node of a tree is one that the walk in preorder from the root meets. Walks from such a node down
the tree stay among the nodes of the tree; its subtree is a subtree of the whole tree, and the
numbers above it are smaller than its own.
-/

namespace ComposeCheck

namespace Tree

variable {α : Type}

/-- `Below t u`: the tree `u` is a subtree of `t`, perhaps `t` itself. -/
inductive Below : Tree α → Tree α → Prop
  | refl {t : Tree α} : Below t t
  | child {t c u : Tree α} (hc : c ∈ t.children) (h : Below c u) : Below t u

namespace Below

variable {t u v : Tree α}

theorem trans (h₁ : Below t u) (h₂ : Below u v) : Below t v := by
  induction h₁ with
  | refl => exact h₂
  | child hc _ ih => exact .child hc (ih h₂)

theorem mem_preorder {a : α} (h : Below t u) (ha : a ∈ u.preorder) : a ∈ t.preorder := by
  induction h with
  | refl => exact ha
  | @child t c u hc _ ih =>
    cases t with
    | node b ts => exact List.mem_cons_of_mem _ (mem_forestPreorder.2 ⟨c, hc, ih ha⟩)

theorem label_mem (h : Below t u) : u.label ∈ t.preorder := h.mem_preorder u.label_mem_preorder

theorem map {β : Type} (f : α → β) (h : Below t u) : Below (t.map f) (u.map f) := by
  induction h with
  | refl => exact .refl
  | child hc _ ih =>
    refine .child ?_ ih
    rw [children_map, mapForest_eq_map]
    exact List.mem_map_of_mem hc

theorem nested {t u : ParseTree} {lo hi : Nat} (h : Below t u) (hn : Nested lo hi t) :
    Nested lo hi u := by
  induction h generalizing lo hi with
  | refl => exact hn
  | child hc _ ih => exact (ih (hn.children.nested_of_mem hc)).mono hn.lo_le hn.le_hi

theorem eq_or_size_lt (h : Below t u) : u = t ∨ u.size < t.size := by
  induction h with
  | refl => exact .inl rfl
  | @child t c u hc _ ih =>
    right
    have hlt : c.size < t.size := by
      cases t with
      | node _ ts => exact size_lt_of_mem hc
    rcases ih with rfl | ih
    · exact hlt
    · exact Nat.lt_trans ih hlt

theorem antisymm (h₁ : Below t u) (h₂ : Below u t) : t = u := by
  rcases h₁.eq_or_size_lt with h | h
  · exact h.symm
  rcases h₂.eq_or_size_lt with h' | h'
  · exact h'
  · exact absurd h (Nat.lt_asymm h')

section
variable {root t u c d : Tree Place} {ts : List (Tree Place)} {next i : Nat}

theorem numbered_of_mem (hn : ForestNumberedFrom next ts) (hc : c ∈ ts) :
    next ≤ c.label.id ∧ NumberedFrom c.label.id c := by
  induction ts generalizing next with
  | nil => simp at hc
  | cons t ts ih =>
    rcases List.mem_cons.1 hc with rfl | hc
    · exact ⟨Nat.le_of_eq hn.1.id_eq.symm, hn.1.id_eq ▸ hn.1⟩
    · obtain ⟨hle, hc⟩ := ih hn.2 hc
      exact ⟨Nat.le_trans (Nat.le_add_right _ _) hle, hc⟩

theorem numbered (h : Below t u) (hn : NumberedFrom next t) : NumberedFrom u.label.id u := by
  induction h generalizing next with
  | refl => exact hn.id_eq ▸ hn
  | child hc _ ih => exact ih (numbered_of_mem hn.children hc).2

theorem id_le_id (h : Below t u) (hn : NumberedFrom next t) :
    t.label.id ≤ u.label.id ∧ u.label.id ≤ t.label.last := hn.id_mem_range h.label_mem

theorem last_le_last (h : Below t u) (hn : NumberedFrom next t) : u.label.last ≤ t.label.last := by
  induction h generalizing next with
  | refl => exact Nat.le_refl _
  | @child t c u hc _ ih =>
    have hnum := (numbered_of_mem hn.children hc).2
    refine Nat.le_trans (ih hnum) ?_
    have hmem := of_mem_children hn.children hc
    have hsize : t.size = forestSize t.children + 1 := by
      cases t
      rfl
    have h₁ := hnum.last_eq
    have h₂ := hn.last_eq
    omega
where
  of_mem_children {ts : List (Tree Place)} {c : Tree Place} {next : Nat}
      (hn : ForestNumberedFrom next ts) (hc : c ∈ ts) :
      c.label.id + c.size ≤ next + forestSize ts := by
    induction ts generalizing next with
    | nil => simp at hc
    | cons t ts ih =>
      rw [forestSize]
      rcases List.mem_cons.1 hc with rfl | hc
      · have := hn.1.id_eq
        omega
      · have := ih hn.2 hc
        omega

/-- The ranges of numbers of two siblings are apart. -/
theorem eq_of_mem_ranges (hn : ForestNumberedFrom next ts) (hc : c ∈ ts) (hd : d ∈ ts)
    (h₁ : c.label.id ≤ i) (h₂ : i ≤ c.label.last) (h₃ : d.label.id ≤ i) (h₄ : i ≤ d.label.last) :
    c = d := by
  induction ts generalizing next with
  | nil => simp at hc
  | cons t ts ih =>
    have hid := hn.1.id_eq
    have hlast := hn.1.last_eq
    rcases List.mem_cons.1 hc with rfl | hc' <;> rcases List.mem_cons.1 hd with rfl | hd'
    · rfl
    · have := (numbered_of_mem hn.2 hd').1
      omega
    · have := (numbered_of_mem hn.2 hc').1
      omega
    · exact ih hn.2 hc' hd'

/-- Subtrees whose numbers lie in the range of another one's are below it. -/
theorem of_ids (ht : Below root t) (hu : Below root u) (hn : NumberedFrom next root)
    (h₁ : t.label.id ≤ u.label.id) (h₂ : u.label.id ≤ t.label.last) : Below t u := by
  induction ht generalizing next with
  | refl => exact hu
  | @child root c t hc ht ih =>
    obtain ⟨hle, hnum⟩ := numbered_of_mem hn.children hc
    have hct := ht.id_le_id hnum
    have hlast := ht.last_le_last hnum
    have hroot := hn.id_eq
    cases hu with
    | refl => omega
    | @child _ d _ hd hu =>
      have hdu := hu.id_le_id (numbered_of_mem hn.children hd).2
      obtain rfl := eq_of_mem_ranges hn.children hc hd (by omega) (by omega) hdu.1 hdu.2
      exact ih hu hnum h₁ h₂

theorem eq_of_id_eq (ht : Below root t) (hu : Below root u) (hn : NumberedFrom next root)
    (h : t.label.id = u.label.id) : t = u := by
  have h₁ := (ht.numbered hn).last_eq
  have h₂ := (hu.numbered hn).last_eq
  have h₃ := t.size_pos
  have h₄ := u.size_pos
  exact (ht.of_ids hu hn (by omega) (by omega)).antisymm (hu.of_ids ht hn (by omega) (by omega))

end

end Below

end Tree

namespace Node

open Tree

section
variable {source : Source} {path : List Frame} {parent : Place} {before ts : List (Tree Place)}
  {t : Tree Place} {n m : Node}

theorem beq_iff : (n == m) = true ↔ n.id = m.id :=
  show (n.id == m.id) = true ↔ _ from beq_iff_eq

theorem self_mem_preorderOf : ⟨source, t, path⟩ ∈ preorderOf source path t := by
  cases t; simp [preorderOf]

theorem self_mem_preorder (n : Node) : n ∈ n.preorder := self_mem_preorderOf

theorem mem_preorderOf_iff {place : Place} : m ∈ preorderOf source path (.node place ts) ↔
    m = ⟨source, .node place ts, path⟩ ∨ m ∈ preorderForest source path place [] ts := by
  simp [preorderOf]

theorem mem_preorderForest_cons :
    m ∈ preorderForest source path parent before (t :: ts) ↔
      m ∈ preorderOf source (⟨parent, before, ts⟩ :: path) t ∨
        m ∈ preorderForest source path parent (t :: before) ts := by
  simp [preorderForest]

mutual

theorem mem_preorderOf_trans {source : Source} {m n : Node} :
    {path : List Frame} → {t : Tree Place} → n ∈ preorderOf source path t → m ∈ n.preorder →
      m ∈ preorderOf source path t
  | path, .node place ts, hn, hm => by
    rcases mem_preorderOf_iff.1 hn with rfl | hn
    · exact hm
    · exact mem_preorderOf_iff.2 (.inr (mem_preorderForest_trans hn hm))

theorem mem_preorderForest_trans {source : Source} {m n : Node} :
    {path : List Frame} → {parent : Place} → {before ts : List (Tree Place)} →
      n ∈ preorderForest source path parent before ts → m ∈ n.preorder →
      m ∈ preorderForest source path parent before ts
  | _, _, _, [], hn, _ => by simp [preorderForest] at hn
  | path, parent, before, t :: ts, hn, hm => by
    rcases mem_preorderForest_cons.1 hn with hn | hn
    · exact mem_preorderForest_cons.2 (.inl (mem_preorderOf_trans hn hm))
    · exact mem_preorderForest_cons.2 (.inr (mem_preorderForest_trans hn hm))

end

/-- What the walk from a node meets below one of its nodes, it meets itself. -/
theorem mem_preorder_trans {r : Node} (hn : n ∈ r.preorder) (hm : m ∈ n.preorder) :
    m ∈ r.preorder := mem_preorderOf_trans hn hm

theorem mem_preorderForest_of_mem_focuses (h : m ∈ focuses source path parent before ts) :
    m ∈ preorderForest source path parent before ts := by
  induction ts generalizing before with
  | nil => simp [focuses] at h
  | cons t ts ih =>
    rw [mem_preorderForest_cons]
    rcases List.mem_cons.1 h with rfl | h
    · exact .inl self_mem_preorderOf
    · exact .inr (ih h)

theorem mem_preorder_of_mem_children (h : m ∈ n.children) : m ∈ n.preorder := by
  obtain ⟨source, t, path⟩ := n
  cases t with
  | node place ts => exact mem_preorderOf_iff.2 (.inr (mem_preorderForest_of_mem_focuses h))

theorem sum_size_focuses (before ts : List (Tree Place)) :
    ((focuses source path parent before ts).map size).sum = forestSize ts := by
  induction ts generalizing before with
  | nil => rfl
  | cons t ts ih => simp [focuses, forestSize, ih, size]

theorem sum_size_children (n : Node) : (n.children.map size).sum + 1 = n.size := by
  obtain ⟨source, ⟨place, ts⟩, path⟩ := n
  simp [children, sum_size_focuses, Tree.children, size, Tree.size]

theorem flatten_joinLevels_perm (as bs : List (List Node)) :
    (joinLevels as bs).flatten.Perm (as.flatten ++ bs.flatten) := by
  induction as generalizing bs with
  | nil => exact .refl _
  | cons a as ih =>
    cases bs with
    | nil => simp [joinLevels]
    | cons b bs =>
      simp only [joinLevels, List.flatten_cons, List.append_assoc]
      refine List.Perm.append_left a ?_
      exact ((ih bs).append_left b).trans (List.perm_append_comm_assoc _ _ _)

mutual

theorem flatten_levelsOf_perm (source : Source) : (path : List Frame) → (t : Tree Place) →
    (levelsOf source path t).flatten.Perm (preorderOf source path t)
  | path, .node place ts => (flatten_levelsForest_perm source path place [] ts).cons _

theorem flatten_levelsForest_perm (source : Source) : (path : List Frame) → (parent : Place) →
    (before ts : List (Tree Place)) →
      (levelsForest source path parent before ts).flatten.Perm
        (preorderForest source path parent before ts)
  | _, _, _, [] => .refl _
  | path, parent, before, t :: ts => by
    rw [levelsForest, preorderForest]
    exact (flatten_joinLevels_perm _ _).trans ((flatten_levelsOf_perm source _ t).append
      (flatten_levelsForest_perm source path parent (t :: before) ts))

end

/-- Level by level a node and the nodes below it are met once each, as in the walk in preorder. -/
theorem descendants_perm (n : Node) : (n :: n.descendants).Perm n.preorder := by
  obtain ⟨source, ⟨place, ts⟩, path⟩ := n
  exact flatten_levelsOf_perm source path (.node place ts)

theorem mem_preorder_of_mem_descendants (h : m ∈ n.descendants) : m ∈ n.preorder :=
  n.descendants_perm.subset (List.mem_cons_of_mem n h)

mutual

/-- What is known of every node that the walk down a tree meets. -/
theorem of_mem_preorderOf {source : Source} {m : Node} :
    {path : List Frame} → {t : Tree Place} → {next : Nat} → m ∈ preorderOf source path t →
      t.NumberedFrom next → (∀ frame ∈ path, frame.parent.id < next) →
      m.source = source ∧ Below t m.tree ∧ ∀ frame ∈ m.path, frame.parent.id < m.id
  | path, .node place ts, next, hm, hn, hp => by
    rcases mem_preorderOf_iff.1 hm with rfl | hm
    · refine ⟨rfl, .refl, fun frame hf => ?_⟩
      exact Nat.lt_of_lt_of_eq (hp frame hf) hn.id_eq.symm
    · obtain ⟨hs, ⟨c, hc, hb⟩, hi⟩ := of_mem_preorderForest hm hn.children
        (Nat.lt_succ_of_le (Nat.le_of_eq hn.id_eq))
        fun frame hf => Nat.lt_succ_of_lt (hp frame hf)
      exact ⟨hs, .child hc hb, hi⟩

theorem of_mem_preorderForest {source : Source} {m : Node} :
    {path : List Frame} → {parent : Place} → {before ts : List (Tree Place)} → {next : Nat} →
      m ∈ preorderForest source path parent before ts → ForestNumberedFrom next ts →
      parent.id < next → (∀ frame ∈ path, frame.parent.id < next) →
      m.source = source ∧ (∃ c ∈ ts, Below c m.tree) ∧
        ∀ frame ∈ m.path, frame.parent.id < m.id
  | _, _, _, [], _, hm, _, _, _ => by simp [preorderForest] at hm
  | path, parent, before, t :: ts, next, hm, hn, hpar, hp => by
    rcases mem_preorderForest_cons.1 hm with hm | hm
    · obtain ⟨hs, hb, hi⟩ := of_mem_preorderOf hm hn.1 (by
        rintro frame hf
        rcases List.mem_cons.1 hf with rfl | hf
        · exact hpar
        · exact hp frame hf)
      exact ⟨hs, ⟨t, List.mem_cons_self, hb⟩, hi⟩
    · have hle : next ≤ next + t.size := Nat.le_add_right _ _
      obtain ⟨hs, ⟨c, hc, hb⟩, hi⟩ := of_mem_preorderForest hm hn.2 (Nat.lt_of_lt_of_le hpar hle)
        fun frame hf => Nat.lt_of_lt_of_le (hp frame hf) hle
      exact ⟨hs, ⟨c, List.mem_cons_of_mem _ hc, hb⟩, hi⟩

end

end

end Node

/-- Views of some things stand in the order of these. -/
theorem map_filterMap_sublist {α β : Type} {view? : α → Option β} {viewed : β → α}
    (h : ∀ a b, view? a = some b → viewed b = a) (as : List α) :
    ((as.filterMap view?).map viewed).Sublist as := by
  induction as with
  | nil => exact .slnil
  | cons a as ih =>
    rw [List.filterMap_cons]
    cases hview : view? a with
    | none => exact ih.cons a
    | some b =>
      rw [List.map_cons, h a b hview]
      exact ih.cons_cons a

end ComposeCheck
