import ComposeCheck.Proofs.Carried

/-!
# Edits that are lost

An edit without a carrier is buried: a node above had been edited before, or afterwards the node or
one above it is replaced (`carrier?_eq_none_iff`). Its text leaves no trace in the rendered file
(`render_withText`): two runs that differ in this text only agree wherever rendering comes to, but
for the carrier (`AgreeBut`), and in the end there is none.
-/

namespace ComposeCheck

open Tree
open Rewrites hiding none

namespace Edit

def withText (text : String) : Edit → Edit
  | .replace node _ => .replace node text
  | .append node _ => .append node text
  | .prepend node _ => .prepend node text

/-- Whether the text of an edit gets lost: a node above has been edited before, or afterwards the
node or one above it is replaced before anything is added above that. -/
def IsBuried (before : List Edit) (edit : Edit) (after : List Edit) : Prop :=
  (∃ f ∈ before, f.node.isAncestorOf edit.node = true) ∨
    ∃ between f rest, after = between ++ f :: rest ∧ f.isReplacement = true ∧
      f.node.covers edit.node = true ∧ ∀ g ∈ between, g.node.isAncestorOf f.node = false

theorem carry_eq_some {n m : Node} {f : Edit} (h : carry (some n) f = some m) :
    (f.node.covers n = true ∧ f.isReplacement = false ∧ m = f.node) ∨
      (f.node.covers n = false ∧ m = n) := by
  rw [carry, Option.bind_some] at h
  split at h
  case isTrue hcover =>
    split at h
    · cases h
    case isFalse hadd => exact .inl ⟨hcover, Bool.eq_false_iff.2 hadd, (Option.some.inj h).symm⟩
  case isFalse hcover => exact .inr ⟨Bool.eq_false_iff.2 hcover, (Option.some.inj h).symm⟩

theorem exists_of_foldl_carry_eq_none {n : Node} {edits : List Edit}
    (h : edits.foldl carry (some n) = none) :
    ∃ between f rest m, edits = between ++ f :: rest ∧ between.foldl carry (some n) = some m ∧
      f.isReplacement = true ∧ f.node.covers m = true := by
  induction edits generalizing n with
  | nil => cases h
  | cons f edits ih =>
    rw [List.foldl_cons] at h
    cases hnext : carry (some n) f with
    | none =>
      refine ⟨[], f, edits, n, rfl, rfl, ?_⟩
      rw [carry, Option.bind_some] at hnext
      split at hnext
      case isTrue hcover =>
        split at hnext
        case isTrue hrep => exact ⟨hrep, hcover⟩
        case isFalse => cases hnext
      case isFalse => cases hnext
    | some next =>
      rw [hnext] at h
      obtain ⟨between, g, rest, m, rfl, hm, hg⟩ := ih h
      exact ⟨f :: between, g, rest, m, rfl, by rw [List.foldl_cons, hnext, hm], hg⟩

@[simp] theorem node_withText (edit : Edit) (text : String) :
    (edit.withText text).node = edit.node := by
  cases edit <;> rfl

end Edit

namespace SyntaxTree

section
variable {tree : SyntaxTree} {r r' : Rewrites} {n m : Node} {edit : Edit} {edits : List Edit}
  {carrier : Option Node}

/-! ### When a text is buried -/

theorem covers_trans {a b c : Node} (h : tree.WellFormed) (ha : a ∈ tree.rootNode.preorder)
    (hb : b ∈ tree.rootNode.preorder) (hab : a.covers b = true) (hbc : b.covers c = true) :
    a.covers c = true := by
  rw [covers_iff h ha] at hab ⊢
  rw [covers_iff h hb] at hbc
  have hbelow := (h.below ha).of_ids (h.below hb) h.numbered hab.1 hab.2
  have hlast : b.place.last ≤ a.place.last :=
    hbelow.last_le_last ((h.below ha).numbered h.numbered)
  omega

theorem covers_or_covers {a b c : Node} (h : tree.WellFormed) (ha : a ∈ tree.rootNode.preorder)
    (hb : b ∈ tree.rootNode.preorder) (hac : a.covers c = true) (hbc : b.covers c = true) :
    a.covers b = true ∨ b.covers a = true := by
  rw [covers_iff h ha] at hac ⊢
  rw [covers_iff h hb] at hbc ⊢
  omega

/-- A carrier moves up. -/
theorem covers_foldl_carry (h : tree.WellFormed) (hn : n ∈ tree.rootNode.preorder)
    (hedits : ∀ f ∈ edits, f.node ∈ tree.rootNode.preorder)
    (hcarry : edits.foldl Edit.carry (some n) = some m) :
    m ∈ tree.rootNode.preorder ∧ m.covers n = true ∧ (m = n ∨ ∃ f ∈ edits, m = f.node) := by
  induction edits generalizing n with
  | nil =>
    obtain rfl := Option.some.inj hcarry
    exact ⟨hn, by simp [Node.covers, Node.beq_iff], .inl rfl⟩
  | cons f edits ih =>
    have hf := hedits f List.mem_cons_self
    have hrest : ∀ g ∈ edits, g.node ∈ tree.rootNode.preorder :=
      fun g hg => hedits g (List.mem_cons_of_mem f hg)
    rw [List.foldl_cons] at hcarry
    cases hnext : Edit.carry (some n) f with
    | none =>
      rw [hnext, Edit.foldl_carry_none] at hcarry
      cases hcarry
    | some next =>
      rw [hnext] at hcarry
      rcases Edit.carry_eq_some hnext with ⟨hcover, -, rfl⟩ | ⟨-, rfl⟩
      · obtain ⟨hm, hmf, hwhere⟩ := ih hf hrest hcarry
        refine ⟨hm, covers_trans h hm hf hmf hcover, .inr ?_⟩
        rcases hwhere with rfl | ⟨g, hg, rfl⟩
        · exact ⟨f, List.mem_cons_self, rfl⟩
        · exact ⟨g, List.mem_cons_of_mem f hg, rfl⟩
      · obtain ⟨hm, hmn, hwhere⟩ := ih hn hrest hcarry
        refine ⟨hm, hmn, hwhere.imp_right ?_⟩
        rintro ⟨g, hg, rfl⟩
        exact ⟨g, List.mem_cons_of_mem f hg, rfl⟩

/-- Edits at or above a node end at or below its carrier. -/
theorem carrier_covers (h : tree.WellFormed) (hn : n ∈ tree.rootNode.preorder)
    (hedits : ∀ f ∈ edits, f.node ∈ tree.rootNode.preorder)
    (hcarry : edits.foldl Edit.carry (some n) = some m) {f : Edit} (hf : f ∈ edits)
    (hcover : f.node.covers n = true) : m.covers f.node = true := by
  induction edits generalizing n with
  | nil => exact absurd hf List.not_mem_nil
  | cons g edits ih =>
    have hg := hedits g List.mem_cons_self
    have hrest : ∀ g ∈ edits, g.node ∈ tree.rootNode.preorder :=
      fun g hg => hedits g (List.mem_cons_of_mem _ hg)
    rw [List.foldl_cons] at hcarry
    cases hnext : Edit.carry (some n) g with
    | none =>
      rw [hnext, Edit.foldl_carry_none] at hcarry
      cases hcarry
    | some next =>
      rw [hnext] at hcarry
      rcases Edit.carry_eq_some hnext with ⟨hgn, -, rfl⟩ | ⟨hgn, rfl⟩
      · obtain ⟨hm, hmg, -⟩ := covers_foldl_carry h hg hrest hcarry
        rcases List.mem_cons.1 hf with rfl | hf
        · exact hmg
        rcases covers_or_covers h (hrest f hf) hg hcover hgn with hfg | hgf
        · exact ih hg hrest hcarry hf hfg
        · exact covers_trans h hm hg hmg hgf
      · rcases List.mem_cons.1 hf with rfl | hf
        · exact absurd hcover (by rw [hgn]; exact Bool.false_ne_true)
        · exact ih hn hrest hcarry hf hcover

theorem carrier?_eq_none_iff (h : tree.WellFormed) {before after : List Edit}
    (hedits : ∀ f ∈ before ++ edit :: after, f.node ∈ tree.rootNode.preorder) :
    Edit.carrier? before edit after = none ↔ Edit.IsBuried before edit after := by
  have hself := hedits edit (List.mem_append_right before List.mem_cons_self)
  have hafter : ∀ f ∈ after, f.node ∈ tree.rootNode.preorder :=
    fun f hf => hedits f (List.mem_append_right before (List.mem_cons_of_mem edit hf))
  rw [Edit.carrier?, Edit.IsBuried]
  by_cases hfree : before.any (·.node.isAncestorOf edit.node) = true
  · rw [if_pos hfree, Edit.foldl_carry_none]
    exact iff_of_true rfl (.inl (List.any_eq_true.1 hfree))
  rw [if_neg hfree]
  constructor
  · intro hnone
    obtain ⟨between, f, rest, m, rfl, hm, hrep, hcover⟩ := Edit.exists_of_foldl_carry_eq_none hnone
    have hbetween : ∀ g ∈ between, g.node ∈ tree.rootNode.preorder :=
      fun g hg => hafter g (List.mem_append_left _ hg)
    have hf := hafter f (List.mem_append_right between List.mem_cons_self)
    obtain ⟨hmem, hmn, -⟩ := covers_foldl_carry h hself hbetween hm
    have hfn := covers_trans h hf hmem hcover hmn
    refine .inr ⟨between, f, rest, rfl, hrep, hfn, fun g hg => Bool.eq_false_iff.2 fun hup => ?_⟩
    have hgf : g.node.covers f.node = true := by rw [Node.covers, hup, Bool.or_true]
    have hmg := carrier_covers h hself hbetween hm hg
      (covers_trans h (hbetween g hg) hf hgf hfn)
    rw [covers_iff h hmem] at hmg
    rw [covers_iff h hf] at hcover
    rw [Node.isAncestorOf, Bool.and_eq_true, decide_eq_true_iff] at hup
    omega
  · rintro (hany | ⟨between, f, rest, rfl, hrep, hfn, hnot⟩)
    · exact absurd (List.any_eq_true.2 hany) hfree
    have hbetween : ∀ g ∈ between, g.node ∈ tree.rootNode.preorder :=
      fun g hg => hafter g (List.mem_append_left _ hg)
    have hf := hafter f (List.mem_append_right between List.mem_cons_self)
    rw [List.foldl_append, List.foldl_cons]
    cases hm : between.foldl Edit.carry (some edit.node) with
    | none => rw [show Edit.carry none f = none from rfl, Edit.foldl_carry_none]
    | some m =>
      obtain ⟨hmem, hmn, hwhere⟩ := covers_foldl_carry h hself hbetween hm
      have hcover : f.node.covers m = true := by
        rcases hwhere with rfl | ⟨g, hg, rfl⟩
        · exact hfn
        rcases covers_or_covers h hf hmem hfn hmn with hfg | hgf
        · exact hfg
        rw [Node.covers, hnot g hg, Bool.or_false, Node.beq_iff] at hgf
        rw [Node.covers, Node.beq_iff.2 hgf.symm, Bool.true_or]
      rw [Edit.carry, Option.bind_some, if_pos hcover, if_pos hrep, Edit.foldl_carry_none]

/-! ### Texts that are buried -/

/-- Two runs rewrite the same nodes. Where rendering comes to they differ at the carrier only. -/
structure AgreeBut (tree : SyntaxTree) (carrier : Option Node) (r r' : Rewrites) : Prop where
  written : ∀ id, (r.find? id).isSome = (r'.find? id).isSome
  same : ∀ u, r.Reaches tree.root u → (∀ m, carrier = some m → u.label.id ≠ m.id) →
    r.find? u.label.id = r'.find? u.label.id

theorem AgreeBut.render_eq (ha : AgreeBut tree none r r') (h : tree.WellFormed) :
    tree.render r = tree.render r' := by
  have hbytes := bytesOf_congr tree.source tree.root fun u hu =>
    ha.same u hu fun _ hm => absurd hm (Option.some_ne_none _).symm
  rw [render_eq_decoded h, render_eq_decoded h, hbytes]

/-- An edit gives its node the same text in both runs, unless the carrier's text goes into it. -/
theorem AgreeBut.newText_eq (ha : AgreeBut tree carrier r r') (h : tree.WellFormed)
    (hn : edit.node ∈ tree.rootNode.preorder) (hreach : r.Reaches tree.root edit.node.tree)
    (hcarry : ∀ m, Edit.carry carrier edit = some m → edit.node.id ≠ m.id) :
    edit.newText r = edit.newText r' := by
  by_cases hrep : edit.isReplacement = true
  · cases edit with
    | replace n text => rfl
    | append n text => cases hrep
    | prepend n text => cases hrep
  have hcurrent : edit.node.currentText r = edit.node.currentText r' := by
    rw [currentText_eq_decoded_bytesOf h hn, currentText_eq_decoded_bytesOf h hn]
    refine congrArg Source.decoded (bytesOf_congr tree.source _ fun u hu => ?_)
    refine ha.same u (hreach.trans hu) fun m hm hid => ?_
    -- The carrier lies below an addition, which takes its text along.
    have hrange := hu.toBelow.id_le_id ((h.below hn).numbered h.numbered)
    have hcover : edit.node.covers m = true := (covers_iff h hn).2 (hid ▸ hrange)
    refine hcarry edit.node ?_ rfl
    rw [Edit.carry, hm, Option.bind_some, if_pos hcover, if_neg hrep]
  cases edit with
  | replace n text => rfl
  | append n text => exact congrArg (· ++ text) hcurrent
  | prepend n text => exact congrArg (text ++ ·) hcurrent

/-- One more edit, made in both runs, keeps them in agreement outside the carrier. -/
theorem AgreeBut.apply (ha : AgreeBut tree carrier r r') (h : tree.WellFormed)
    (hn : edit.node ∈ tree.rootNode.preorder) :
    AgreeBut tree (Edit.carry carrier edit) (edit.apply r) (edit.apply r') := by
  constructor
  · intro id
    rw [Edit.apply_eq_set, Edit.apply_eq_set, find?_set, find?_set]
    split
    · rfl
    · exact ha.written id
  intro u hu hcarry
  have hreach : r.Reaches tree.root u := by
    refine hu.mono fun id hid => ?_
    rw [Edit.apply_eq_set, find?_set] at hid
    split at hid
    · cases hid
    · exact hid
  rw [Edit.apply_eq_set, Edit.apply_eq_set, find?_set, find?_set]
  by_cases hid : u.label.id = edit.node.id
  · obtain rfl := hreach.toBelow.eq_of_id_eq (h.below hn) h.numbered hid
    rw [if_pos hid, if_pos hid, ha.newText_eq h hn hreach hcarry]
  rw [if_neg hid, if_neg hid]
  refine ha.same u hreach fun m hm hum => ?_
  by_cases hcover : edit.node.covers m = true
  · -- Rendering does not come to what lies below the edited node.
    obtain ⟨hlo, hhi⟩ := (covers_iff h hn).1 hcover
    have hlt : edit.node.tree.label.id < u.label.id := by
      have : edit.node.id = edit.node.tree.label.id := rfl
      omega
    have hunwritten := hu.find?_eq_none h.numbered (h.below hn) hlt (hum ▸ hhi)
    rw [Edit.apply_eq_set, find?_set] at hunwritten
    exact absurd ((if_pos rfl).symm.trans hunwritten) (Option.some_ne_none _)
  · refine hcarry m ?_ hum
    rw [Edit.carry, hm, Option.bind_some, if_neg hcover]

theorem AgreeBut.foldl (ha : AgreeBut tree carrier r r') (h : tree.WellFormed)
    (hedits : ∀ f ∈ edits, f.node ∈ tree.rootNode.preorder) :
    AgreeBut tree (edits.foldl Edit.carry carrier) (edits.foldl Edit.apply r)
      (edits.foldl Edit.apply r') := by
  induction edits generalizing carrier r r' with
  | nil => exact ha
  | cons f edits ih =>
    rw [List.foldl_cons, List.foldl_cons, List.foldl_cons]
    exact ih (ha.apply h (hedits f List.mem_cons_self))
      fun g hg => hedits g (List.mem_cons_of_mem f hg)

/-- Two runs that first differ in the text of one edit. -/
theorem agreeBut_withText (h : tree.WellFormed) (edit : Edit)
    (hedits : ∀ f ∈ edits, f.node ∈ tree.rootNode.preorder) (text : String) :
    AgreeBut tree
      (if edits.any (·.node.isAncestorOf edit.node) then none else some edit.node)
      (edit.apply (edits.foldl Edit.apply .none))
      ((edit.withText text).apply (edits.foldl Edit.apply .none)) := by
  constructor
  · intro id
    rw [Edit.apply_eq_set, Edit.apply_eq_set, Edit.node_withText, find?_set, find?_set]
    split <;> rfl
  intro u hu hcarrier
  rw [Edit.apply_eq_set, Edit.apply_eq_set, Edit.node_withText, find?_set, find?_set]
  by_cases hid : u.label.id = edit.node.id
  · split at hcarrier
    case isTrue hany =>
      -- Rendering does not come to a node below one that has been edited before.
      obtain ⟨f, hf, hup⟩ := List.any_eq_true.1 hany
      rw [Node.isAncestorOf, Bool.and_eq_true, decide_eq_true_iff, decide_eq_true_iff] at hup
      have hfn := h.below (hedits f hf)
      have hunwritten := hu.find?_eq_none h.numbered hfn (hid ▸ hup.1) (hid ▸ hup.2)
      have hwritten : ((edits.foldl Edit.apply .none).find? f.node.id).isSome = true := by
        rw [isSome_find?_foldl, Bool.or_eq_true]
        exact .inl (List.any_eq_true.2 ⟨f, hf, beq_self_eq_true f.node.id⟩)
      have hne : f.node.id ≠ edit.node.id := Nat.ne_of_lt hup.1
      rw [Edit.apply_eq_set, find?_set] at hunwritten
      have hnone : (edits.foldl Edit.apply .none).find? f.node.id = none :=
        (if_neg hne).symm.trans hunwritten
      rw [hnone] at hwritten
      cases hwritten
    case isFalse => exact absurd hid (hcarrier edit.node rfl)
  · rw [if_neg hid, if_neg hid]

/-- A buried text leaves no trace in the rendered file. -/
theorem render_withText (h : tree.WellFormed) {before after : List Edit}
    (hedits : ∀ f ∈ before ++ edit :: after, f.node ∈ tree.rootNode.preorder)
    (hcarrier : Edit.carrier? before edit after = none) (text : String) :
    tree.render ((before ++ edit.withText text :: after).foldl Edit.apply .none) =
      tree.render ((before ++ edit :: after).foldl Edit.apply .none) := by
  have hself := hedits edit (List.mem_append_right before List.mem_cons_self)
  have hbefore : ∀ f ∈ before, f.node ∈ tree.rootNode.preorder :=
    fun f hf => hedits f (List.mem_append_left _ hf)
  have hafter : ∀ f ∈ after, f.node ∈ tree.rootNode.preorder :=
    fun f hf => hedits f (List.mem_append_right before (List.mem_cons_of_mem edit hf))
  have hagree := (agreeBut_withText h edit hbefore text).foldl h hafter
  rw [Edit.carrier?] at hcarrier
  rw [hcarrier] at hagree
  rw [List.foldl_append, List.foldl_cons, List.foldl_append, List.foldl_cons]
  exact (hagree.render_eq h).symm

end

end SyntaxTree

end ComposeCheck
