import ComposeCheck.Proofs.Carried
import ComposeCheck.Proofs.Scopes

/-!
# Texts woven from those of the children

The text of a node that is not rewritten itself is woven from the texts of its children, whatever
has been written into them, and the gaps between them in the source (`currentText_eq_weave`). An
edit of one child changes its own text and none of its siblings' (`currentText_apply_child`).
-/

namespace ComposeCheck

open Tree
open Rewrites hiding none

namespace Node

section
variable {source : Source} {path : List Frame} {parent : Place} {before ts : List (Tree Place)}

theorem map_tree_focuses : (focuses source path parent before ts).map Node.tree = ts := by
  induction ts generalizing before with
  | nil => rfl
  | cons t ts ih => rw [focuses, List.map_cons, ih]

theorem map_tree_children (n : Node) : n.children.map Node.tree = n.tree.children := by
  obtain ⟨source, ⟨place, ts⟩, path⟩ := n
  exact map_tree_focuses

/-- The source from `cursor` to `stop` with other texts in place of nodes on the way. -/
def weave (source : Source) (texts : Node → String) (cursor stop : Nat) : List Node → String
  | [] => source.textBetween cursor stop
  | c :: cs => source.textBetween cursor c.start ++ texts c ++
      weave source texts (max cursor c.stop) stop cs

theorem decoded_bytesOfForest {text : String} {r : Rewrites} {cs : List Node} {cursor stop : Nat}
    (hs : source = .ofText text) (hc : Cuts source (cs.map Node.tree))
    (hcursor : source.CutsAt cursor) (hstop : source.CutsAt stop) (hle : cursor ≤ stop)
    (hn : NestedForest cursor stop (mapForest Place.toShape (cs.map Node.tree)))
    (htexts : ∀ c ∈ cs, c.currentText r = Source.decoded (bytesOf r source c.tree)) :
    Source.decoded (bytesOfForest r source cursor stop (cs.map Node.tree)) =
      weave source (currentText r) cursor stop cs := by
  induction cs generalizing cursor with
  | nil => rfl
  | cons c cs ih =>
    have hnested := hn.1
    have hn' := hn.2
    have hlo := hnested.lo_le
    have hlos := hnested.lo_le_stop
    have hhi := hnested.le_hi
    simp only [label_map] at hn' hlo hlos hhi
    have hhead : Cuts source [c.tree] := hc.of_mem List.mem_cons_self
    have hrest : Cuts source (cs.map Node.tree) := fun place hp =>
      hc place (List.mem_append_right _ hp)
    have hslice : (source.slice cursor c.start).IsValidUTF8 := by
      subst hs
      exact hcursor.isValidUTF8_slice hhead.label.1 hlo
    have hbytes : (bytesOf r source c.tree).IsValidUTF8 := isValidUTF8_bytesOf hs hhead hnested
    have hforest : (bytesOfForest r source c.stop stop (cs.map Node.tree)).IsValidUTF8 :=
      isValidUTF8_bytesOfForest hs hrest hhead.label.2 hstop hhi hn'
    have hmax : max cursor c.stop = c.stop := Nat.max_eq_right hlos
    rw [List.map_cons, bytesOfForest, weave, htexts c List.mem_cons_self]
    change Source.decoded (source.slice cursor c.start ++ bytesOf r source c.tree ++
      bytesOfForest r source (max cursor c.stop) stop (cs.map Node.tree)) = _
    rw [hmax, Source.decoded_append (hslice.append hbytes) hforest,
      Source.decoded_append hslice hbytes, Source.textBetween_eq]
    exact congrArg _
      (ih hrest hhead.label.2 hhi hn' fun d hd => htexts d (List.mem_cons_of_mem c hd))

end

end Node

namespace SyntaxTree

section
variable {tree : SyntaxTree} {r : Rewrites} {n c d p : Node} {front back : List Node} {id : Nat}
  {text : String} {edit : Edit}

/-- The text of a node that is not rewritten itself is woven from the texts of its children. -/
theorem currentText_eq_weave (h : tree.WellFormed) (hn : n ∈ tree.rootNode.preorder)
    (hfree : r.find? n.id = .none) :
    n.currentText r = Node.weave n.source (Node.currentText r) n.start n.stop n.children := by
  obtain ⟨hsource, hbelow, -⟩ := mem_rootNode_preorder h hn
  have hcuts := h.cuts_bytes hbelow
  have hnested := h.nested hbelow
  have htree : bytesOf r tree.source n.tree =
      bytesOfForest r tree.source n.start n.stop (n.children.map Node.tree) := by
    rw [Node.map_tree_children]
    obtain ⟨source, ⟨place, ts⟩, path⟩ := n
    exact bytesOf_of_find?_none hfree
  rw [currentText_eq_decoded_bytesOf h hn, htree, hsource]
  refine Node.decoded_bytesOfForest h.source_eq ?_ hcuts.label.1 hcuts.label.2 ?_ ?_ fun c hc => ?_
  · rw [Node.map_tree_children]
    exact hcuts.children
  · have := hnested.start_le_stop
    rwa [label_map] at this
  · have := hnested.children
    rwa [label_map, children_map, ← Node.map_tree_children] at this
  · exact currentText_eq_decoded_bytesOf h
      (Node.mem_preorder_trans hn (Node.mem_preorder_of_mem_children hc)) r

theorem currentText_set (h : tree.WellFormed) (hn : n ∈ tree.rootNode.preorder) :
    n.currentText (r.set n.id text) = text := by
  have hfind : (r.set n.id text).find? n.id = some text := by rw [find?_set, if_pos rfl]
  have hbytes : bytesOf (r.set n.id text) tree.source n.tree = text.toUTF8 := by
    obtain ⟨source, ⟨place, ts⟩, path⟩ := n
    exact bytesOf_of_find?_some hfind
  rw [currentText_eq_decoded_bytesOf h hn, hbytes, Source.decoded_toUTF8]

/-- A rewrite outside of a node's subtree does not change its text. -/
theorem currentText_set_of_apart (h : tree.WellFormed) (hn : n ∈ tree.rootNode.preorder)
    (hapart : id < n.id ∨ n.place.last < id) :
    n.currentText (r.set id text) = n.currentText r := by
  have hnum := (h.below hn).numbered h.numbered
  rw [currentText_eq_decoded_bytesOf h hn, currentText_eq_decoded_bytesOf h hn]
  refine congrArg _ (bytesOf_congr tree.source n.tree fun u hu => ?_)
  have hrange := hu.toBelow.id_le_id hnum
  have hne : u.label.id ≠ id := by
    rcases hapart with hbefore | hafter
    · exact fun heq => absurd hbefore (Nat.not_lt.2 (heq ▸ hrange.1))
    · exact fun heq => absurd hafter (Nat.not_lt.2 (heq ▸ hrange.2))
  rw [find?_set, if_neg hne]

/-- The numbers of a node's children and of the nodes below them are in order. -/
theorem id_of_children (h : tree.WellFormed) (hp : p ∈ tree.rootNode.preorder)
    (hchildren : p.children = front ++ c :: back) :
    p.id < c.id ∧ (∀ d ∈ front, d.place.last < c.id) ∧ ∀ d ∈ back, c.id < d.id := by
  have hnum := ((h.below hp).numbered h.numbered).children
  have htrees : p.tree.children = front.map Node.tree ++ c.tree :: back.map Node.tree := by
    rw [← Node.map_tree_children, hchildren, List.map_append, List.map_cons]
  rw [htrees] at hnum
  refine ⟨(Below.numbered_of_mem hnum (List.mem_append_right _ List.mem_cons_self)).1, ?_, ?_⟩
  · exact fun d hd => hnum.last_lt_id (List.mem_map_of_mem hd)
  · intro d hd
    obtain ⟨between, rest, rfl⟩ := List.append_of_mem hd
    rw [List.map_append, List.map_cons, ← List.cons_append, ← List.append_assoc] at hnum
    have hlast := hnum.last_lt_id (List.mem_append_right _ List.mem_cons_self)
    have hself := (Below.numbered_of_mem hnum (List.mem_append_left _
      (List.mem_append_right _ List.mem_cons_self))).2.last_eq
    have hpos := c.tree.size_pos
    change c.tree.label.id < d.tree.label.id
    omega

/-- No other child has the number of a child. -/
theorem id_ne_of_children (h : tree.WellFormed) (hp : p ∈ tree.rootNode.preorder)
    (hchildren : p.children = front ++ c :: back) (hd : d ∈ front ++ back) : d.id ≠ c.id := by
  obtain ⟨-, hfront, hback⟩ := id_of_children h hp hchildren
  rcases List.mem_append.1 hd with hd | hd
  · have hmem : d ∈ p.children := hchildren ▸ List.mem_append_left _ hd
    have hlast := h.last_eq (Node.mem_preorder_trans hp (Node.mem_preorder_of_mem_children hmem))
    have hpos : 0 < d.size := d.tree.size_pos
    have hlt := hfront d hd
    omega
  · exact Nat.ne_of_gt (hback d hd)

/-- An edit of a child changes its own text and none of its siblings'. -/
theorem currentText_apply_child (h : tree.WellFormed) (hp : p ∈ tree.rootNode.preorder)
    (hedit : edit.node ∈ p.children) (hd : d ∈ p.children) :
    d.currentText (edit.apply r) =
      if d == edit.node then edit.newText r else d.currentText r := by
  obtain ⟨front, back, hchildren⟩ := List.append_of_mem hedit
  obtain ⟨-, hfront, hback⟩ := id_of_children h hp hchildren
  have hpreorder := Node.mem_preorder_trans hp (Node.mem_preorder_of_mem_children hd)
  rw [Edit.apply_eq_set]
  rw [hchildren, List.mem_append, List.mem_cons] at hd
  rcases hd with hd | rfl | hd
  · have hne := id_ne_of_children h hp hchildren (List.mem_append_left back hd)
    rw [if_neg fun heq => hne (Node.beq_iff.1 heq)]
    exact currentText_set_of_apart h hpreorder (.inr (hfront d hd))
  · rw [if_pos (Node.beq_iff.2 rfl)]
    exact currentText_set h hpreorder
  · have hne := id_ne_of_children h hp hchildren (List.mem_append_right front hd)
    rw [if_neg fun heq => hne (Node.beq_iff.1 heq)]
    exact currentText_set_of_apart h hpreorder (.inl (hback d hd))

/-- An edit of a child leaves its parent woven from the children. -/
theorem currentText_apply_eq_weave (h : tree.WellFormed) (hp : p ∈ tree.rootNode.preorder)
    (hedit : edit.node ∈ p.children) (hfree : r.find? p.id = .none) :
    p.currentText (edit.apply r) = Node.weave p.source (Node.currentText (edit.apply r)) p.start
      p.stop p.children := by
  obtain ⟨front, back, hchildren⟩ := List.append_of_mem hedit
  refine currentText_eq_weave h hp ?_
  rw [Edit.apply_eq_set, find?_set,
    if_neg (Nat.ne_of_lt (id_of_children h hp hchildren).1), hfree]

end

end SyntaxTree

end ComposeCheck
