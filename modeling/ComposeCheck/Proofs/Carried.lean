import ComposeCheck.Proofs.Open
import ComposeCheck.Rule

/-!
# What becomes of an edit

Edits of one tree are made one after the other. The text of an edit stands at a node, its carrier:
first at the node that was edited, and after an addition to a node above at that node. The text is
lost if a node above was edited before, or if the carrier or a node above is replaced afterwards.
`Edit.carrier?` follows the carrier through the edits, with the invariant `Stands`, and a text with
a carrier is in the rendered file (`shows_render`).
-/

namespace ComposeCheck

open Tree
open Rewrites hiding none

/-- Whether a node is `n` or below it. -/
def Node.covers (n m : Node) : Bool := n == m || n.isAncestorOf m

namespace Edit

def node : Edit → Node
  | .replace node _ => node
  | .append node _ => node
  | .prepend node _ => node

def text : Edit → String
  | .replace _ text => text
  | .append _ text => text
  | .prepend _ text => text

/-- Whether the edit drops the text that the node had. -/
def isReplacement : Edit → Bool
  | .replace .. => true
  | _ => false

/-- Where a text stands after one more edit. -/
def carry (carrier : Option Node) (next : Edit) : Option Node :=
  carrier.bind fun m =>
    if next.node.covers m then
      if next.isReplacement then none else some next.node
    else some m

theorem foldl_carry_none (edits : List Edit) : edits.foldl carry none = none := by
  induction edits with
  | nil => rfl
  | cons f edits ih => rw [List.foldl_cons]; exact ih

/-- Where the text of an edit stands after all edits, given the ones before and after it. -/
def carrier? (before : List Edit) (edit : Edit) (after : List Edit) : Option Node :=
  after.foldl carry
    (if before.any (·.node.isAncestorOf edit.node) then none else some edit.node)

def newText (rewrites : Rewrites) : Edit → String
  | .replace _ text => text
  | .append node text => node.currentText rewrites ++ text
  | .prepend node text => text ++ node.currentText rewrites

theorem apply_eq_set (rewrites : Rewrites) (edit : Edit) :
    edit.apply rewrites = rewrites.set edit.node.id (edit.newText rewrites) := by
  cases edit <;> rfl

end Edit

/-- A text that stands in another. -/
def Shows (whole part : String) : Prop := ∃ before after, whole = before ++ part ++ after

theorem Shows.refl (text : String) : Shows text text := ⟨"", "", by simp⟩

theorem Shows.trans {a b c : String} (h₁ : Shows b a) (h₂ : Shows c b) : Shows c a := by
  obtain ⟨x, y, rfl⟩ := h₁
  obtain ⟨x', y', rfl⟩ := h₂
  exact ⟨x' ++ x, y ++ y', by simp only [String.append_assoc]⟩

theorem Shows.append {whole part : String} (h : Shows whole part) (before after : String) :
    Shows (before ++ whole ++ after) part := h.trans ⟨before, after, rfl⟩

theorem Edit.shows_newText (rewrites : Rewrites) (edit : Edit) :
    Shows (edit.newText rewrites) edit.text := by
  cases edit with
  | replace n text => exact .refl text
  | append n text => exact ⟨n.currentText rewrites, "", by simp [newText, Edit.text]⟩
  | prepend n text => exact ⟨"", n.currentText rewrites, by simp [newText, Edit.text]⟩

/-- Additions keep the text that the node had. -/
theorem Edit.shows_newText_currentText (rewrites : Rewrites) {edit : Edit}
    (h : edit.isReplacement = false) :
    Shows (edit.newText rewrites) (edit.node.currentText rewrites) := by
  cases edit with
  | replace n text => cases h
  | append n text => exact ⟨"", text, by simp [newText, Edit.node]⟩
  | prepend n text => exact ⟨text, "", by simp [newText, Edit.node]⟩

namespace SyntaxTree

section
variable {tree : SyntaxTree} {r r' : Rewrites} {n m : Node} {edit : Edit} {edits : List Edit}
  {u : Tree Place}

theorem WellFormed.below (h : tree.WellFormed) (hn : n ∈ tree.rootNode.preorder) :
    Below tree.root n.tree := (mem_rootNode_preorder h hn).2.1

theorem WellFormed.last_eq (h : tree.WellFormed) (hn : n ∈ tree.rootNode.preorder) :
    n.place.last + 1 = n.id + n.size := ((h.below hn).numbered h.numbered).last_eq

theorem covers_iff (h : tree.WellFormed) (hn : n ∈ tree.rootNode.preorder) :
    n.covers m = true ↔ n.id ≤ m.id ∧ m.id ≤ n.place.last := by
  have hlast := h.last_eq hn
  have hpos : 0 < n.size := n.tree.size_pos
  rw [Node.covers, Bool.or_eq_true, Node.beq_iff, Node.isAncestorOf, Bool.and_eq_true,
    decide_eq_true_iff, decide_eq_true_iff]
  omega

theorem WellFormed.cuts_bytes (h : tree.WellFormed) (hn : Below tree.root u) :
    Cuts tree.source [u] := by
  intro place hp
  rw [forestPreorder_cons, forestPreorder_nil, List.append_nil] at hp
  exact h.cuts (hn.mem_preorder hp)

/-- A rewritten node that rendering comes to is seen in the texts of the nodes on the way. -/
theorem shows_currentText (h : tree.WellFormed) (hn : n ∈ tree.rootNode.preorder)
    {text : String} (hreach : r.Reaches n.tree m.tree)
    (hfind : r.find? m.id = some text) : Shows (n.currentText r) text := by
  have hb := h.below hn
  obtain ⟨before, after, hbytes⟩ := hreach.around h.source_eq (h.cuts_bytes hb) (h.nested hb)
  have hinner : bytesOf r tree.source m.tree = text.toUTF8 := by
    cases hm' : m.tree with
    | node place ts =>
      have hid : m.id = place.id := by rw [Node.id, Node.place, hm']; rfl
      exact bytesOf_of_find?_some (hid ▸ hfind)
  refine ⟨before, after, ?_⟩
  rw [currentText_eq_decoded_bytesOf h hn, hbytes, hinner]
  simp only [String.toUTF8_eq_toByteArray, ← String.toByteArray_append]
  exact Source.decoded_toUTF8 _

theorem shows_render_of_reaches (h : tree.WellFormed) {text : String}
    (hreach : r.Reaches tree.root m.tree) (hfind : r.find? m.id = some text) :
    Shows (tree.render r) text := by
  have hroot := Node.self_mem_preorder tree.rootNode
  have hshows := shows_currentText h hroot hreach hfind
  have hcuts := h.cuts (h.below hroot).label_mem
  have hn := h.fits.nested
  have hle := hn.le_hi
  rw [label_map] at hle
  have hvalid : (bytesOf r tree.source tree.root).IsValidUTF8 :=
    isValidUTF8_bytesOf h.source_eq (h.cuts_bytes (h.below hroot)) hn
  have hfirst : (tree.source.slice 0 tree.root.label.start).IsValidUTF8 := by
    rw [h.source_eq] at hcuts ⊢
    exact Source.cutsAt_zero.isValidUTF8_slice hcuts.1 (Nat.zero_le _)
  have hlast : (tree.source.slice tree.root.label.stop tree.source.bytes.size).IsValidUTF8 := by
    rw [h.source_eq] at hcuts hle ⊢
    exact hcuts.2.isValidUTF8_slice Source.cutsAt_size hle
  have hrender : tree.render r = Source.decoded (tree.source.slice 0 tree.root.label.start) ++
      tree.rootNode.currentText r ++
      Source.decoded (tree.source.slice tree.root.label.stop tree.source.bytes.size) := by
    have htext : tree.rootNode.currentText r = Source.decoded (bytesOf r tree.source tree.root) :=
      currentText_eq_decoded_bytesOf h hroot r
    rw [render_eq_decoded h, htext,
      Source.decoded_append (hfirst.append hvalid) hlast, Source.decoded_append hfirst hvalid]
  rw [hrender]
  exact hshows.append _ _

/-- Rewrites are not taken back, and they come from edits. -/
theorem isSome_find?_foldl (edits : List Edit) (r : Rewrites) (id : Nat) :
    ((edits.foldl Edit.apply r).find? id).isSome =
      (edits.any (·.node.id == id) || (r.find? id).isSome) := by
  induction edits generalizing r with
  | nil => simp
  | cons edit edits ih =>
    rw [List.foldl_cons, ih, Edit.apply_eq_set, find?_set, List.any_cons]
    by_cases hid : id = edit.node.id
    · simp [hid]
    · have hne : (edit.node.id == id) = false := by
        rw [beq_eq_false_iff_ne]
        exact Ne.symm hid
      simp [hid, hne]

/-- A text stands at a node that rendering comes to. -/
structure Stands (tree : SyntaxTree) (r : Rewrites) (m : Node) (text : String) : Prop where
  mem : m ∈ tree.rootNode.preorder
  reached : r.Reaches tree.root m.tree
  written : ∃ whole, r.find? m.id = some whole ∧ Shows whole text

theorem Stands.shows_render {text : String} (hs : Stands tree r m text) (h : tree.WellFormed) :
    Shows (tree.render r) text := by
  obtain ⟨whole, hfind, hwhole⟩ := hs.written
  exact hwhole.trans (shows_render_of_reaches h hs.reached hfind)

/-- A node that is not covered by an edit stays reached. -/
theorem reaches_apply (h : tree.WellFormed) (hn : edit.node ∈ tree.rootNode.preorder)
    (hreach : r.Reaches tree.root m.tree)
    (hcover : edit.node.isAncestorOf m = false) :
    (edit.apply r).Reaches tree.root m.tree := by
  rw [Edit.apply_eq_set]
  refine hreach.set h.numbered fun a ha h₁ h₂ hid => ?_
  have hsame : a = edit.node.tree := ha.eq_of_id_eq (h.below hn) h.numbered hid
  subst hsame
  have hup : edit.node.isAncestorOf m = true := by
    rw [Node.isAncestorOf, Bool.and_eq_true, decide_eq_true_iff, decide_eq_true_iff]
    exact ⟨h₁, h₂⟩
  exact absurd hup (by rw [hcover]; exact Bool.false_ne_true)

/-- One more edit leaves a text where it is, or takes it along, or buries it. -/
theorem Stands.apply {text : String} {m' : Node} (hs : Stands tree r m text) (h : tree.WellFormed)
    (hn : edit.node ∈ tree.rootNode.preorder) (hcarry : Edit.carry (some m) edit = some m') :
    Stands tree (edit.apply r) m' text := by
  obtain ⟨whole, hfind, hwhole⟩ := hs.written
  rw [Edit.carry, Option.bind_some] at hcarry
  by_cases hcover : edit.node.covers m = true
  · rw [if_pos hcover] at hcarry
    split at hcarry
    · cases hcarry
    case isFalse hadd =>
      obtain rfl := Option.some.inj hcarry
      obtain ⟨hlo, hhi⟩ := (covers_iff h hn).1 hcover
      have hb := (h.below hn).of_ids (h.below hs.mem) h.numbered hlo hhi
      obtain ⟨hfront, hback⟩ := hs.reached.split h.numbered (h.below hn) hb
      have hself : edit.node.isAncestorOf edit.node = false := by simp [Node.isAncestorOf]
      refine ⟨hn, reaches_apply h hn hfront hself, edit.newText r, ?_, ?_⟩
      · rw [Edit.apply_eq_set, find?_set, if_pos rfl]
      · have hcurrent := shows_currentText h hn hback hfind
        exact hwhole.trans (hcurrent.trans
          (Edit.shows_newText_currentText r (Bool.eq_false_iff.2 hadd)))
  · rw [if_neg hcover] at hcarry
    obtain rfl := Option.some.inj hcarry
    have hcover := Bool.eq_false_iff.2 hcover
    rw [Node.covers, Bool.or_eq_false_iff] at hcover
    have hid : m.id ≠ edit.node.id := fun hid =>
      Bool.eq_false_iff.1 hcover.1 (Node.beq_iff.2 hid.symm)
    refine ⟨hs.mem, reaches_apply h hn hs.reached hcover.2, whole, ?_, hwhole⟩
    rw [Edit.apply_eq_set, find?_set, if_neg hid, hfind]

/-- What has been rewritten above a node has been edited there. -/
theorem find?_eq_none_of_not_any (h : tree.WellFormed)
    (hedits : ∀ f ∈ edits, f.node ∈ tree.rootNode.preorder)
    (hfree : edits.any (·.node.isAncestorOf n) = false) {a : Tree Place} (ha : Below tree.root a)
    (h₁ : a.label.id < n.id) (h₂ : n.id ≤ a.label.last) :
    (edits.foldl Edit.apply .none).find? a.label.id = none := by
  rw [← Option.isNone_iff_eq_none, ← Option.not_isSome, isSome_find?_foldl, Bool.not_eq_true',
    Bool.or_eq_false_iff]
  refine ⟨List.any_eq_false.2 fun f hf hid => ?_, rfl⟩
  have hb := h.below (hedits f hf)
  have hsame : a = f.node.tree := ha.eq_of_id_eq hb h.numbered (beq_iff_eq.1 hid).symm
  subst hsame
  refine List.any_eq_false.1 hfree f hf ?_
  rw [Node.isAncestorOf, Bool.and_eq_true, decide_eq_true_iff, decide_eq_true_iff]
  exact ⟨h₁, h₂⟩

/-- The text of a new edit stands at its node if nothing above has been rewritten. -/
theorem stands_apply (h : tree.WellFormed) (hn : edit.node ∈ tree.rootNode.preorder)
    (hedits : ∀ f ∈ edits, f.node ∈ tree.rootNode.preorder)
    (hfree : edits.any (·.node.isAncestorOf edit.node) = false) :
    Stands tree (edit.apply (edits.foldl Edit.apply .none)) edit.node edit.text := by
  have hself : edit.node.isAncestorOf edit.node = false := by simp [Node.isAncestorOf]
  have hreach : (edits.foldl Edit.apply .none).Reaches tree.root edit.node.tree :=
    .of_forall (h.below hn) h.numbered fun a ha h₁ h₂ =>
      find?_eq_none_of_not_any h hedits hfree ha h₁ h₂
  refine ⟨hn, reaches_apply h hn hreach hself, edit.newText (edits.foldl Edit.apply .none), ?_,
    edit.shows_newText _⟩
  rw [Edit.apply_eq_set, find?_set, if_pos rfl]

theorem stands_foldl {text : String} (h : tree.WellFormed) (hs : Stands tree r m text)
    (hedits : ∀ f ∈ edits, f.node ∈ tree.rootNode.preorder) {m' : Node}
    (hcarry : edits.foldl Edit.carry (some m) = some m') :
    Stands tree (edits.foldl Edit.apply r) m' text := by
  induction edits generalizing r m with
  | nil =>
    obtain rfl := Option.some.inj hcarry
    exact hs
  | cons f edits ih =>
    rw [List.foldl_cons] at hcarry ⊢
    cases hnext : Edit.carry (some m) f with
    | none =>
      rw [hnext, Edit.foldl_carry_none] at hcarry
      cases hcarry
    | some next =>
      rw [hnext] at hcarry
      exact ih (hs.apply h (hedits f List.mem_cons_self) hnext)
        (fun g hg => hedits g (List.mem_cons_of_mem f hg)) hcarry

theorem shows_render (h : tree.WellFormed) {before after : List Edit}
    (hedits : ∀ f ∈ before ++ edit :: after, f.node ∈ tree.rootNode.preorder)
    (hcarrier : Edit.carrier? before edit after = some m) :
    Shows (tree.render ((before ++ edit :: after).foldl Edit.apply .none)) edit.text := by
  rw [Edit.carrier?] at hcarrier
  by_cases hfree : before.any (·.node.isAncestorOf edit.node) = true
  · rw [if_pos hfree, Edit.foldl_carry_none] at hcarrier
    cases hcarrier
  · rw [if_neg hfree] at hcarrier
    have hself := hedits edit (List.mem_append_right before List.mem_cons_self)
    have hbefore : ∀ f ∈ before, f.node ∈ tree.rootNode.preorder :=
      fun f hf => hedits f (List.mem_append_left _ hf)
    have hafter : ∀ f ∈ after, f.node ∈ tree.rootNode.preorder :=
      fun f hf => hedits f (List.mem_append_right before (List.mem_cons_of_mem edit hf))
    have hstands := stands_apply h hself hbefore (Bool.eq_false_iff.2 hfree)
    rw [List.foldl_append, List.foldl_cons]
    exact (stands_foldl h hstands hafter hcarrier).shows_render h

end

end SyntaxTree

end ComposeCheck
