import ComposeCheck.Proofs.Rendering

/-!
# Nodes that rendering comes to

Rendering walks down until it meets a rewritten node. `Rewrites.Reaches` is that walk: from a tree
to a subtree through nodes that are not rewritten. What a tree renders to contains what the reached
subtrees render to (`exists_bytesOf`), and it depends on nothing but the rewrites at reached nodes
(`bytesOf_congr`). In a numbered tree a subtree is reached if no rewritten number lies above it.
-/

namespace ComposeCheck

open Tree

namespace Rewrites

/-- Rendering `t` comes to the subtree `u`. -/
inductive Reaches (rewrites : Rewrites) : Tree Place → Tree Place → Prop
  | refl {t : Tree Place} : Reaches rewrites t t
  | child {t c u : Tree Place} (hw : rewrites.find? t.label.id = .none) (hc : c ∈ t.children)
      (h : Reaches rewrites c u) : Reaches rewrites t u

section
variable {r r' : Rewrites} {t u v a : Tree Place} {next : Nat}

namespace Reaches

theorem toBelow (h : r.Reaches t u) : Below t u := by
  induction h with
  | refl => exact .refl
  | child _ hc _ ih => exact .child hc ih

theorem trans (h₁ : r.Reaches t u) (h₂ : r.Reaches u v) : r.Reaches t v := by
  induction h₁ with
  | refl => exact h₂
  | child hw hc _ ih => exact .child hw hc (ih h₂)

theorem mono (h : r.Reaches t u) (hr : ∀ id, r.find? id = .none → r'.find? id = .none) :
    r'.Reaches t u := by
  induction h with
  | refl => exact .refl
  | child hw hc _ ih => exact .child (hr _ hw) hc ih

/-- On the way to a reached subtree nothing is rewritten. -/
theorem find?_eq_none (h : r.Reaches t u) (hn : NumberedFrom next t) (ha : Below t a)
    (h₁ : a.label.id < u.label.id) (h₂ : u.label.id ≤ a.label.last) :
    r.find? a.label.id = .none := by
  induction h generalizing next with
  | refl =>
    have := ha.id_le_id hn
    omega
  | @child t c u hw hc h ih =>
    cases ha with
    | refl => exact hw
    | @child _ d _ hd ha =>
      have hcn := (Below.numbered_of_mem hn.children hc).2
      have hdn := (Below.numbered_of_mem hn.children hd).2
      have hcu := h.toBelow.id_le_id hcn
      have hda := ha.id_le_id hdn
      have hlast := ha.last_le_last hdn
      obtain rfl := Below.eq_of_mem_ranges hn.children hc hd hcu.1 hcu.2 (by omega) (by omega)
      exact ih hcn ha h₁ h₂

/-- A subtree above which nothing is rewritten is reached. -/
theorem of_forall (h : Below t u) (hn : NumberedFrom next t)
    (hw : ∀ a, Below t a → a.label.id < u.label.id → u.label.id ≤ a.label.last →
      r.find? a.label.id = .none) : r.Reaches t u := by
  induction h generalizing next with
  | refl => exact .refl
  | @child t c u hc h ih =>
    have hcn := Below.numbered_of_mem hn.children hc
    have hcu := h.id_le_id hcn.2
    have htu := (Below.child hc h).id_le_id hn
    have htid := hn.id_eq
    refine .child (hw t .refl (by omega) htu.2) hc ?_
    exact ih hcn.2 fun a ha h₁ h₂ => hw a (.child hc ha) h₁ h₂

/-- The walk to a reached subtree goes through every node above it. -/
theorem split (h : r.Reaches t u) (hn : NumberedFrom next t) (hta : Below t a) (hau : Below a u) :
    r.Reaches t a ∧ r.Reaches a u := by
  have han := hta.numbered hn
  have hu := hau.id_le_id han
  constructor
  · refine of_forall hta hn fun b hb h₁ h₂ => ?_
    have hba := hb.of_ids hta hn (Nat.le_of_lt h₁) h₂
    have hlast := hba.last_le_last (hb.numbered hn)
    exact h.find?_eq_none hn hb (by omega) (by omega)
  · exact of_forall hau han fun b hb h₁ h₂ => h.find?_eq_none hn (hta.trans hb) h₁ h₂

/-- A rewrite that is not above a subtree does not keep rendering from it. -/
theorem set (h : r.Reaches t u) (hn : NumberedFrom next t) {id : Nat} {text : String}
    (hid : ∀ a, Below t a → a.label.id < u.label.id → u.label.id ≤ a.label.last →
      a.label.id ≠ id) : (r.set id text).Reaches t u := by
  refine of_forall h.toBelow hn fun a ha h₁ h₂ => ?_
  rw [find?_set, if_neg (hid a ha h₁ h₂)]
  exact h.find?_eq_none hn ha h₁ h₂

end Reaches

/-! ### What rendering depends on -/

mutual

theorem bytesOf_congr (source : Source) : (t : Tree Place) →
    (∀ u, r.Reaches t u → r.find? u.label.id = r'.find? u.label.id) →
      bytesOf r source t = bytesOf r' source t
  | .node place ts, h => by
    have hroot : r.find? place.id = r'.find? place.id := h (.node place ts) .refl
    cases hf : r.find? place.id with
    | some text => rw [bytesOf_of_find?_some hf, bytesOf_of_find?_some (hroot ▸ hf)]
    | none =>
      rw [bytesOf_of_find?_none hf, bytesOf_of_find?_none (hroot ▸ hf)]
      exact bytesOfForest_congr source ts fun c hc u hu => h u (.child hf hc hu)

theorem bytesOfForest_congr (source : Source) : (ts : List (Tree Place)) → {cursor stop : Nat} →
    (∀ c ∈ ts, ∀ u, r.Reaches c u → r.find? u.label.id = r'.find? u.label.id) →
      bytesOfForest r source cursor stop ts = bytesOfForest r' source cursor stop ts
  | [], _, _, _ => rfl
  | t :: ts, cursor, stop, h => by
    rw [bytesOfForest, bytesOfForest, bytesOf_congr source t (h t List.mem_cons_self),
      bytesOfForest_congr source ts fun c hc => h c (List.mem_cons_of_mem t hc)]

end

/-! ### What rendering contains -/

mutual

theorem of_mem_patchesIn {p : Patch} : {t : Tree Place} → p ∈ patchesIn r t →
    p.bytes.IsValidUTF8 ∧ ∃ place ∈ t.preorder, p.start = place.start ∧ p.stop = place.stop
  | .node place ts, h => by
    cases hf : r.find? place.id with
    | some text =>
      rw [patchesIn_of_find?_some hf, List.mem_singleton] at h
      subst h
      exact ⟨text.isValidUTF8, place, List.mem_cons_self, rfl, rfl⟩
    | none =>
      rw [patchesIn_of_find?_none hf] at h
      obtain ⟨hvalid, q, hq, hspan⟩ := of_mem_patchesInForest h
      exact ⟨hvalid, q, List.mem_cons_of_mem _ hq, hspan⟩

theorem of_mem_patchesInForest {p : Patch} : {ts : List (Tree Place)} →
    p ∈ patchesInForest r ts → p.bytes.IsValidUTF8 ∧
      ∃ place ∈ forestPreorder ts, p.start = place.start ∧ p.stop = place.stop
  | [], h => by simp [patchesInForest] at h
  | t :: ts, h => by
    rcases List.mem_append.1 h with h | h
    · obtain ⟨hvalid, q, hq, hspan⟩ := of_mem_patchesIn h
      exact ⟨hvalid, q, List.mem_append_left _ hq, hspan⟩
    · obtain ⟨hvalid, q, hq, hspan⟩ := of_mem_patchesInForest h
      exact ⟨hvalid, q, List.mem_append_right _ hq, hspan⟩

end

end

section
variable {r : Rewrites} {source : Source} {text : String} {t u : Tree Place}
  {ts : List (Tree Place)} {cursor stop lo hi : Nat}

/-- All spans of several trees cut a text between characters. -/
def Cuts (source : Source) (ts : List (Tree Place)) : Prop :=
  ∀ place ∈ forestPreorder ts, source.CutsAt place.start ∧ source.CutsAt place.stop

theorem Cuts.of_mem (h : Cuts source ts) (ht : t ∈ ts) : Cuts source [t] := by
  intro place hp
  rw [forestPreorder_cons, forestPreorder_nil, List.append_nil] at hp
  exact h place (mem_forestPreorder.2 ⟨t, ht, hp⟩)

theorem Cuts.children (h : Cuts source [t]) : Cuts source t.children := by
  intro place hp
  refine h place ?_
  cases t with
  | node _ ts => exact List.mem_append_left _ (List.mem_cons_of_mem _ hp)

theorem Cuts.label (h : Cuts source [t]) :
    source.CutsAt t.label.start ∧ source.CutsAt t.label.stop :=
  h t.label (by simpa using t.label_mem_preorder)

theorem isValidUTF8_bytesOfForest (hs : source = .ofText text) (hc : Cuts source ts)
    (hcursor : source.CutsAt cursor) (hstop : source.CutsAt stop) (hle : cursor ≤ stop)
    (hn : NestedForest cursor stop (mapForest Place.toShape ts)) :
    (bytesOfForest r source cursor stop ts).IsValidUTF8 := by
  rw [bytesOfForest_eq_splice r source ts hle hn]
  refine isValidUTF8_splice hs hcursor hstop (ordered_patchesInForest r ts hle hn) fun p hp => ?_
  obtain ⟨hvalid, place, hplace, hstart, hend⟩ := of_mem_patchesInForest hp
  rw [hstart, hend]
  exact ⟨(hc place hplace).1, (hc place hplace).2, hvalid⟩

theorem isValidUTF8_bytesOf (hs : source = .ofText text) (hc : Cuts source [t])
    (hn : Nested lo hi (t.map Place.toShape)) : (bytesOf r source t).IsValidUTF8 := by
  cases t with
  | node place ts =>
    cases hf : r.find? place.id with
    | some new => rw [bytesOf_of_find?_some hf]; exact new.isValidUTF8
    | none =>
      rw [bytesOf_of_find?_none hf]
      exact isValidUTF8_bytesOfForest hs hc.children hc.label.1 hc.label.2 hn.start_le_stop
        hn.children

/-- Bytes with texts before and behind others. -/
def Around (inner outer : ByteArray) : Prop :=
  ∃ before after : String, outer = before.toUTF8 ++ inner ++ after.toUTF8

theorem around_refl (b : ByteArray) : Around b b :=
  ⟨"", "", by
    have hempty : "".toUTF8 = ByteArray.empty := rfl
    rw [hempty, ByteArray.empty_append, ByteArray.append_empty]⟩

theorem Around.trans {a b c : ByteArray} (h₁ : Around a b) (h₂ : Around b c) : Around a c := by
  obtain ⟨x, y, rfl⟩ := h₁
  obtain ⟨x', y', rfl⟩ := h₂
  refine ⟨x' ++ x, y ++ y', ?_⟩
  simp only [String.toUTF8_eq_toByteArray, String.toByteArray_append, ByteArray.append_assoc]

theorem around_append {a b c : ByteArray} (ha : a.IsValidUTF8) (hc : c.IsValidUTF8) :
    Around b (a ++ b ++ c) :=
  ⟨Source.decoded a, Source.decoded c, by
    rw [Source.toUTF8_decoded ha, Source.toUTF8_decoded hc]⟩

theorem around_bytesOfForest (hs : source = .ofText text) (hc : Cuts source ts)
    (hcursor : source.CutsAt cursor) (hstop : source.CutsAt stop)
    (hn : NestedForest cursor stop (mapForest Place.toShape ts)) (ht : t ∈ ts) :
    Around (bytesOf r source t) (bytesOfForest r source cursor stop ts) := by
  induction ts generalizing cursor with
  | nil => simp at ht
  | cons c ts ih =>
    have hcuts := (hc.of_mem List.mem_cons_self).label
    have hrest : Cuts source ts := fun p hp => hc p (List.mem_append_right _ hp)
    have hn' := hn.2
    have hlo := hn.1.lo_le
    have hlos := hn.1.lo_le_stop
    have hhi := hn.1.le_hi
    simp only [label_map] at hn' hlo hlos hhi
    have hslice : (source.slice cursor c.label.start).IsValidUTF8 := by
      subst hs
      exact hcursor.isValidUTF8_slice hcuts.1 hlo
    rw [bytesOfForest, Nat.max_eq_right hlos]
    rcases List.mem_cons.1 ht with rfl | ht
    · exact around_append hslice (isValidUTF8_bytesOfForest hs hrest hcuts.2 hstop hhi hn')
    · refine (ih hrest hcuts.2 hn' ht).trans ?_
      have hempty : ByteArray.empty.IsValidUTF8 := ByteArray.isValidUTF8_empty
      have := around_append (b := bytesOfForest r source c.label.stop stop ts)
        (hslice.append (isValidUTF8_bytesOf (r := r) hs (hc.of_mem List.mem_cons_self) hn.1)) hempty
      rwa [ByteArray.append_empty] at this

/-- What a reached subtree renders to stands in what the tree renders to. -/
theorem Reaches.around (h : r.Reaches t u) (hs : source = .ofText text) (hc : Cuts source [t])
    (hn : Nested lo hi (t.map Place.toShape)) :
    Around (bytesOf r source u) (bytesOf r source t) := by
  induction h generalizing lo hi with
  | refl => exact around_refl _
  | @child t c u hw hmem h ih =>
    cases t with
    | node place ts =>
      have hw : r.find? place.id = .none := hw
      have hnc : Nested place.start place.stop (c.map Place.toShape) := by
        refine hn.children.nested_of_mem ?_
        rw [children_map, mapForest_eq_map]
        exact List.mem_map_of_mem hmem
      refine (ih (hc.children.of_mem hmem) hnc).trans ?_
      rw [bytesOf_of_find?_none hw]
      exact around_bytesOfForest hs hc.children hc.label.1 hc.label.2 hn.children hmem

end

end Rewrites

end ComposeCheck
