import ComposeCheck.Proofs.Nodes
import ComposeCheck.Tree.Rewrites

/-!
# Rendering

Rendering replaces spans of the source. `splice` replaces a list of spans that are in order and
apart (`Patch.Ordered`) and keeps every other byte; `Rewrites.patchesIn` lists the spans that the
walk of `Rewrites.bytesOf` replaces, and `Rewrites.patches` names the same spans without the walk:
those of the rewritten nodes that have no rewritten node above them. The step of the argument is
`bytesOf_eq_splice`; that the bytes spell a text again is `isValidUTF8_splice`.
-/

namespace ComposeCheck

/-- New bytes for a span. -/
structure Patch where
  start : Nat
  stop : Nat
  bytes : ByteArray

/-- The bytes from `cursor` to `stop` with new bytes for some spans on the way. -/
def splice (source : Source) (cursor stop : Nat) : List Patch → ByteArray
  | [] => source.slice cursor stop
  | p :: ps => source.slice cursor p.start ++ p.bytes ++ splice source p.stop stop ps

/-- The spans lie between two bounds, in order and apart. -/
def Patch.Ordered (lo hi : Nat) : List Patch → Prop
  | [] => lo ≤ hi
  | p :: ps => lo ≤ p.start ∧ p.start ≤ p.stop ∧ Ordered p.stop hi ps

namespace Patch.Ordered

variable {lo lo' hi hi' mid : Nat} {ps qs : List Patch}

theorem mono_lo (h : Ordered lo hi ps) (hlo : lo' ≤ lo) : Ordered lo' hi ps := by
  cases ps with
  | nil => exact Nat.le_trans hlo h
  | cons p ps => exact ⟨Nat.le_trans hlo h.1, h.2⟩

theorem mono_hi (h : Ordered lo hi ps) (hhi : hi ≤ hi') : Ordered lo hi' ps := by
  induction ps generalizing lo with
  | nil => exact Nat.le_trans h hhi
  | cons p ps ih => exact ⟨h.1, h.2.1, ih h.2.2⟩

theorem append (h₁ : Ordered lo mid ps) (h₂ : Ordered mid hi qs) : Ordered lo hi (ps ++ qs) := by
  induction ps generalizing lo with
  | nil => exact h₂.mono_lo h₁
  | cons p ps ih => exact ⟨h₁.1, h₁.2.1, ih h₁.2.2⟩

end Patch.Ordered

section
variable {source : Source} {a b c : Nat} {ps qs : List Patch}

theorem slice_append_splice (hab : a ≤ b) (h : Patch.Ordered b c ps) :
    source.slice a b ++ splice source b c ps = splice source a c ps := by
  cases ps with
  | nil => exact Source.slice_append_slice hab h
  | cons p ps =>
    simp only [splice, ← ByteArray.append_assoc]
    rw [Source.slice_append_slice hab h.1]

theorem splice_append (h₁ : Patch.Ordered a b ps) (h₂ : Patch.Ordered b c qs) :
    splice source a b ps ++ splice source b c qs = splice source a c (ps ++ qs) := by
  induction ps generalizing a with
  | nil => exact slice_append_splice h₁ h₂
  | cons p ps ih =>
    simp only [splice, List.cons_append, ByteArray.append_assoc]
    rw [ih h₁.2.2]

theorem splice_append_slice (h : Patch.Ordered a b ps) (hbc : b ≤ c) :
    splice source a b ps ++ source.slice b c = splice source a c ps := by
  have hnil : Patch.Ordered b c [] := hbc
  rw [← List.append_nil ps, ← splice_append h hnil, List.append_nil]
  rfl

/-- Replacing spans between characters by texts leaves a text. -/
theorem isValidUTF8_splice {text : String} (hs : source = Source.ofText text)
    (ha : source.CutsAt a) (hc : source.CutsAt c) (h : Patch.Ordered a c ps)
    (hp : ∀ p ∈ ps, source.CutsAt p.start ∧ source.CutsAt p.stop ∧ p.bytes.IsValidUTF8) :
    (splice source a c ps).IsValidUTF8 := by
  subst hs
  induction ps generalizing a with
  | nil => exact ha.isValidUTF8_slice hc h
  | cons p ps ih =>
    obtain ⟨hstart, hstop, hbytes⟩ := hp p List.mem_cons_self
    have hrest := ih h.2.2 hstop fun q hq => hp q (List.mem_cons_of_mem p hq)
    exact ((ha.isValidUTF8_slice hstart h.1).append hbytes).append hrest

end

namespace Rewrites

/-! ### Writes -/

/-- The rewrites after some nodes have been given new texts, one after the other. -/
def ofWrites (writes : List (Node × String)) : Rewrites :=
  writes.foldl (fun rewrites (n, text) => rewrites.set n.id text) none

/-- The text that the last write to a node gives it. -/
def lastWrite? (writes : List (Node × String)) (m : Node) : Option String :=
  (writes.reverse.find? fun (n, _) => n == m).map (·.2)

/-- Whether a node has been given a new text. -/
def isWritten (writes : List (Node × String)) (m : Node) : Bool := (lastWrite? writes m).isSome

section
variable {rewrites : Rewrites} {id other : Nat} {text : String}

theorem lookup_filter_ne (texts : List (Nat × String)) (h : other ≠ id) :
    (texts.filter fun (key, _) => key != id).lookup other = texts.lookup other := by
  induction texts with
  | nil => rfl
  | cons entry texts ih =>
    obtain ⟨key, value⟩ := entry
    by_cases hk : key = id
    · subst hk
      have hb : (other == key) = false := by simp [h]
      simp [List.lookup_cons, ih, hb]
    · simp only [List.filter_cons, bne_iff_ne, ne_eq, hk, not_false_eq_true, if_true,
        List.lookup_cons, ih]

theorem find?_set : (rewrites.set id text).find? other =
    if other = id then some text else rewrites.find? other := by
  by_cases h : other = id
  · simp [set, find?, h]
  · have hb : (other == id) = false := by simp [h]
    simp only [set, find?, List.lookup_cons, hb, if_neg h]
    exact lookup_filter_ne rewrites.texts h

theorem find?_foldl_set (writes : List (Node × String)) (m : Node) :
    (writes.foldl (fun rewrites (n, text) => rewrites.set n.id text) rewrites).find? m.id =
      (lastWrite? writes m).or (rewrites.find? m.id) := by
  induction writes generalizing rewrites with
  | nil => rfl
  | cons write writes ih =>
    obtain ⟨n, text⟩ := write
    have hb : (n == m) = decide (m.id = n.id) := by
      rw [Bool.eq_iff_iff, Node.beq_iff, decide_eq_true_iff, eq_comm]
    simp only [List.foldl_cons, ih, find?_set, lastWrite?, List.reverse_cons, List.find?_append,
      List.find?_cons, hb]
    cases writes.reverse.find? fun (n, _) => n == m <;> by_cases h : m.id = n.id <;> simp [h]

theorem find?_ofWrites (writes : List (Node × String)) (m : Node) :
    (ofWrites writes).find? m.id = lastWrite? writes m := by
  rw [ofWrites, find?_foldl_set]
  exact Option.or_none

end

/-! ### The spans that the walk replaces -/

mutual

/-- The patches of a subtree: its outermost rewritten nodes. -/
def patchesIn (rewrites : Rewrites) : Tree Place → List Patch
  | .node place ts =>
    match rewrites.find? place.id with
    | some text => [⟨place.start, place.stop, text.toUTF8⟩]
    | .none => patchesInForest rewrites ts

def patchesInForest (rewrites : Rewrites) : List (Tree Place) → List Patch
  | [] => []
  | t :: ts => patchesIn rewrites t ++ patchesInForest rewrites ts

end

section
variable {rewrites : Rewrites} {source : Source} {place : Place} {ts : List (Tree Place)}
  {text : String}

theorem patchesIn_of_find?_some (h : rewrites.find? place.id = some text) :
    patchesIn rewrites (.node place ts) = [⟨place.start, place.stop, text.toUTF8⟩] := by
  simp only [patchesIn, h]

theorem patchesIn_of_find?_none (h : rewrites.find? place.id = .none) :
    patchesIn rewrites (.node place ts) = patchesInForest rewrites ts := by
  simp only [patchesIn, h]

theorem bytesOf_of_find?_some (h : rewrites.find? place.id = some text) :
    bytesOf rewrites source (.node place ts) = text.toUTF8 := by
  simp only [bytesOf, h]

theorem bytesOf_of_find?_none (h : rewrites.find? place.id = .none) :
    bytesOf rewrites source (.node place ts) =
      bytesOfForest rewrites source place.start place.stop ts := by
  simp only [bytesOf, h]

end

open Tree

mutual

theorem ordered_patchesIn (rewrites : Rewrites) :
    (t : Tree Place) → {lo hi : Nat} → Nested lo hi (t.map Place.toShape) →
      Patch.Ordered t.label.start t.label.stop (patchesIn rewrites t)
  | .node place ts, _, _, h => by
    cases hf : rewrites.find? place.id with
    | some text =>
      rw [patchesIn_of_find?_some hf]
      exact ⟨Nat.le_refl _, h.start_le_stop, Nat.le_refl _⟩
    | none =>
      rw [patchesIn_of_find?_none hf]
      exact ordered_patchesInForest rewrites ts h.start_le_stop h.children

theorem ordered_patchesInForest (rewrites : Rewrites) :
    (ts : List (Tree Place)) → {lo hi : Nat} → lo ≤ hi →
      NestedForest lo hi (mapForest Place.toShape ts) →
      Patch.Ordered lo hi (patchesInForest rewrites ts)
  | [], _, _, hle, _ => hle
  | t :: ts, lo, hi, hle, h => by
    have ht := ordered_patchesIn rewrites t h.1
    have hts := h.2
    have hlo := h.1.lo_le
    have hhi := h.1.le_hi
    simp only [label_map] at hts hlo hhi
    exact (ht.mono_lo hlo).append (ordered_patchesInForest rewrites ts hhi hts)

end

mutual

/-- The walk over a subtree replaces its patches and copies everything else. -/
theorem bytesOf_eq_splice (rewrites : Rewrites) (source : Source) :
    (t : Tree Place) → {lo hi : Nat} → Nested lo hi (t.map Place.toShape) →
      bytesOf rewrites source t =
        splice source t.label.start t.label.stop (patchesIn rewrites t)
  | .node place ts, _, _, h => by
    cases hf : rewrites.find? place.id with
    | some text =>
      rw [bytesOf_of_find?_some hf, patchesIn_of_find?_some hf]
      simp [splice, label]
    | none =>
      rw [bytesOf_of_find?_none hf, patchesIn_of_find?_none hf]
      exact bytesOfForest_eq_splice rewrites source ts h.start_le_stop h.children

theorem bytesOfForest_eq_splice (rewrites : Rewrites) (source : Source) :
    (ts : List (Tree Place)) → {cursor stop : Nat} → cursor ≤ stop →
      NestedForest cursor stop (mapForest Place.toShape ts) →
      bytesOfForest rewrites source cursor stop ts =
        splice source cursor stop (patchesInForest rewrites ts)
  | [], _, _, _, _ => rfl
  | t :: ts, cursor, stop, _, h => by
    have hts := h.2
    have hlo := h.1.lo_le
    have hlos := h.1.lo_le_stop
    have hhi := h.1.le_hi
    simp only [label_map] at hts hlo hlos hhi
    have ht := ordered_patchesIn rewrites t h.1
    -- the cursor never runs back, so it stands at the end of the subtree just written
    have hmax : max cursor t.label.stop = t.label.stop := Nat.max_eq_right hlos
    rw [bytesOfForest, patchesInForest, hmax, bytesOf_eq_splice rewrites source t h.1,
      bytesOfForest_eq_splice rewrites source ts hhi hts, slice_append_splice hlo ht]
    exact splice_append (ht.mono_lo hlo) (ordered_patchesInForest rewrites ts hhi hts)

end

/-! ### The same spans without the walk -/

/-- The rewritten nodes at or below a node that have no rewritten node of a scope above them. -/
def outermost (writes : List (Node × String)) (scope : Node → Bool) (n : Node) : List Node :=
  n.preorder.filter fun m =>
    isWritten writes m && !m.ancestors.any fun a => scope a && isWritten writes a

/-- Their spans, each with the last text written to the node. -/
def patches (writes : List (Node × String)) (scope : Node → Bool) (n : Node) : List Patch :=
  (outermost writes scope n).filterMap fun m =>
    (lastWrite? writes m).map fun text => ⟨m.start, m.stop, text.toUTF8⟩

/-- Whether a step of a path leaves a rewritten node of a scope of numbers. -/
def isCovered (rewrites : Rewrites) (scope : Nat → Bool) (path : List Frame) : Bool :=
  path.any fun frame => scope frame.parent.id && (rewrites.find? frame.parent.id).isSome

/-- The patch that a node makes if nothing covers it. -/
def patchAt? (rewrites : Rewrites) (scope : Nat → Bool) (m : Node) : Option Patch :=
  if isCovered rewrites scope m.path then .none
  else (rewrites.find? m.id).map fun text => ⟨m.start, m.stop, text.toUTF8⟩

section
variable {rewrites : Rewrites} {scope : Nat → Bool}

mutual

theorem filterMap_patchAt?_preorderOf (source : Source) : (path : List Frame) → (t : Tree Place) →
    (∀ place ∈ t.preorder, scope place.id = true) →
    (Node.preorderOf source path t).filterMap (patchAt? rewrites scope) =
      if isCovered rewrites scope path then [] else patchesIn rewrites t
  | path, .node place ts, h => by
    have hscope : scope place.id = true := h place List.mem_cons_self
    have hts := filterMap_patchAt?_preorderForest source path place [] ts fun p hp =>
      h p (List.mem_cons_of_mem _ hp)
    have hid : (Node.mk source (.node place ts) path).id = place.id := rfl
    rw [hscope] at hts
    simp only [Node.preorderOf, List.filterMap_cons, hts, patchAt?, hid]
    cases isCovered rewrites scope path
    · cases hf : rewrites.find? place.id with
      | some text => simp [patchesIn_of_find?_some hf, Node.start, Node.stop, Node.place, label]
      | none => simp [patchesIn_of_find?_none hf]
    · simp

theorem filterMap_patchAt?_preorderForest (source : Source) : (path : List Frame) →
    (parent : Place) → (before ts : List (Tree Place)) →
    (∀ place ∈ forestPreorder ts, scope place.id = true) →
    (Node.preorderForest source path parent before ts).filterMap (patchAt? rewrites scope) =
      if (scope parent.id && (rewrites.find? parent.id).isSome) || isCovered rewrites scope path
      then [] else patchesInForest rewrites ts
  | _, _, _, [], _ => by simp [Node.preorderForest, patchesInForest]
  | path, parent, before, t :: ts, h => by
    have ht := filterMap_patchAt?_preorderOf source (⟨parent, before, ts⟩ :: path) t fun p hp =>
      h p (List.mem_append_left _ hp)
    have hts := filterMap_patchAt?_preorderForest source path parent (t :: before) ts fun p hp =>
      h p (List.mem_append_right _ hp)
    have hpath : isCovered rewrites scope (⟨parent, before, ts⟩ :: path) =
        ((scope parent.id && (rewrites.find? parent.id).isSome) ||
          isCovered rewrites scope path) := rfl
    rw [hpath] at ht
    rw [Node.preorderForest, List.filterMap_append, ht, hts, patchesInForest]
    split <;> simp

end

theorem any_ancestorsOf (source : Source) (holds : Nat → Bool) (t : Tree Place)
    (path : List Frame) : (Node.ancestorsOf source t path).any (fun a => holds a.id) =
      path.any fun frame => holds frame.parent.id := by
  induction path generalizing t with
  | nil => rfl
  | cons frame path ih =>
    simp only [Node.ancestorsOf, List.any_cons, ih]
    rfl

theorem patches_eq_filterMap (writes : List (Node × String)) (n : Node) (scope : Nat → Bool) :
    patches writes (fun a => scope a.id) n =
      n.preorder.filterMap (patchAt? (ofWrites writes) scope) := by
  rw [patches, outermost, List.filterMap_filter]
  congr 1
  funext m
  have hcovered : (m.ancestors.any fun a => scope a.id && isWritten writes a) =
      isCovered (ofWrites writes) scope m.path := by
    simp only [isWritten, ← find?_ofWrites]
    exact any_ancestorsOf m.source (fun id => scope id && ((ofWrites writes).find? id).isSome)
      m.tree m.path
  rw [hcovered, patchAt?, find?_ofWrites, isWritten]
  cases isCovered (ofWrites writes) scope m.path <;> cases lastWrite? writes m <;> simp

end

/-! ### The fast paths -/

section
variable {rewrites : Rewrites}

mutual

theorem patchesIn_eq_nil : (t : Tree Place) →
    (∀ place ∈ t.preorder, rewrites.find? place.id = .none) → patchesIn rewrites t = []
  | .node place ts, h => by
    rw [patchesIn_of_find?_none (h place List.mem_cons_self)]
    exact patchesInForest_eq_nil ts fun p hp => h p (List.mem_cons_of_mem _ hp)

theorem patchesInForest_eq_nil : (ts : List (Tree Place)) →
    (∀ place ∈ forestPreorder ts, rewrites.find? place.id = .none) →
    patchesInForest rewrites ts = []
  | [], _ => rfl
  | t :: ts, h => by
    rw [patchesInForest, patchesIn_eq_nil t fun p hp => h p (List.mem_append_left _ hp),
      patchesInForest_eq_nil ts fun p hp => h p (List.mem_append_right _ hp)]
    rfl

end

theorem find?_eq_none_of_isEmpty (h : rewrites.isEmpty = true) (id : Nat) :
    rewrites.find? id = .none := by
  have : rewrites.texts = [] := List.isEmpty_iff.1 h
  rw [find?, this]
  rfl

theorem find?_eq_none_of_not_touches {place : Place} {id : Nat}
    (h : rewrites.touches place = false) (hlo : place.id ≤ id) (hhi : id ≤ place.last) :
    rewrites.find? id = .none := by
  refine List.lookup_eq_none_iff.2 fun entry hentry => ?_
  have := List.any_eq_false.1 h entry hentry
  simp only [Bool.and_eq_true, decide_eq_true_eq, not_and] at this
  rw [bne_iff_ne]
  rintro rfl
  exact this hlo hhi

end

end Rewrites

open Tree Rewrites

/-- The current text of a node is what the walk over its subtree writes, also where no node of the
subtree is rewritten and the walk is not made. -/
theorem Node.currentText_eq_decoded {n : Node} {lo hi : Nat} (rewrites : Rewrites)
    (hnested : Nested lo hi (n.tree.map Place.toShape)) (hnum : NumberedFrom n.id n.tree) :
    n.currentText rewrites = Source.decoded (rewrites.bytesOf n.source n.tree) := by
  rw [Node.currentText]
  split
  · rfl
  case isFalse h =>
    have hnone : patchesIn rewrites n.tree = [] := patchesIn_eq_nil n.tree fun p hp =>
      have hrange := hnum.id_mem_range hp
      find?_eq_none_of_not_touches (Bool.eq_false_iff.2 h) hrange.1 hrange.2
    rw [bytesOf_eq_splice rewrites n.source n.tree hnested, hnone]
    rfl

namespace SyntaxTree

/-- A tree as it is read from a text: the spans fit the text and the nodes are numbered. -/
structure WellFormed (tree : SyntaxTree) : Prop where
  source_eq : tree.source = Source.ofText tree.source.text
  fits : (tree.root.map Place.toShape).Fits tree.source
  numbered : tree.root.NumberedFrom 0

section
variable {tree : SyntaxTree} {n : Node}

theorem mem_rootNode_preorder (h : tree.WellFormed) (hn : n ∈ tree.rootNode.preorder) :
    n.source = tree.source ∧ Below tree.root n.tree ∧ ∀ frame ∈ n.path, frame.parent.id < n.id :=
  Node.of_mem_preorderOf hn h.numbered (by simp [rootNode])

theorem WellFormed.cutsAt_zero (h : tree.WellFormed) : tree.source.CutsAt 0 := by
  rw [h.source_eq]
  exact Source.cutsAt_zero

theorem WellFormed.cutsAt_size (h : tree.WellFormed) :
    tree.source.CutsAt tree.source.bytes.size := by
  rw [h.source_eq]
  exact Source.cutsAt_size

theorem WellFormed.nested (h : tree.WellFormed) (hb : Below tree.root n.tree) :
    Nested 0 tree.source.bytes.size (n.tree.map Place.toShape) :=
  (hb.map Place.toShape).nested h.fits.nested

theorem WellFormed.cuts (h : tree.WellFormed) {place : Place} (hp : place ∈ tree.root.preorder) :
    tree.source.CutsAt place.start ∧ tree.source.CutsAt place.stop := by
  refine h.fits.cuts place.toShape ?_
  rw [preorder_map]
  exact List.mem_map_of_mem hp

/-- The text of a file is what the walk from the root writes between what stands before and after
the root, also where no node is rewritten and the walk is not made. -/
theorem render_eq_decoded (h : tree.WellFormed) (rewrites : Rewrites) :
    tree.render rewrites = Source.decoded (tree.source.slice 0 tree.root.label.start ++
      rewrites.bytesOf tree.source tree.root ++
      tree.source.slice tree.root.label.stop tree.source.bytes.size) := by
  rw [render]
  split
  case isTrue he =>
    have hn := h.fits.nested
    have hnone : patchesIn rewrites tree.root = [] :=
      patchesIn_eq_nil tree.root fun p _ => find?_eq_none_of_isEmpty he p.id
    have hle := hn.start_le_stop
    have hsize := hn.le_hi
    rw [label_map] at hle hsize
    rw [bytesOf_eq_splice rewrites tree.source tree.root hn, hnone, splice,
      Source.slice_append_slice (Nat.zero_le _) hle,
      Source.slice_append_slice (Nat.zero_le _) hsize, h.source_eq]
    simp only [Source.slice, Source.text_ofText, Source.bytes_ofText]
    rw [ByteArray.extract_zero_size, Source.decoded_toUTF8]
  · rfl

/-- The patches of a node are those of the walk over its subtree. -/
theorem patches_eq_patchesIn (h : tree.WellFormed) (hn : n ∈ tree.rootNode.preorder)
    (writes : List (Node × String)) :
    patches writes (fun a => a == n || n.isAncestorOf a) n =
      patchesIn (ofWrites writes) n.tree := by
  obtain ⟨-, hb, hpath⟩ := mem_rootNode_preorder h hn
  have hnum : NumberedFrom n.id n.tree := hb.numbered h.numbered
  let scope (id : Nat) : Bool := id == n.id || (n.id < id && id ≤ n.place.last)
  have hin : ∀ place ∈ n.tree.preorder, scope place.id = true := by
    intro place hp
    have hrange := hnum.id_mem_range hp
    simp only [scope, Bool.or_eq_true, beq_iff_eq, Bool.and_eq_true, decide_eq_true_eq]
    exact (Nat.eq_or_lt_of_le hrange.1).imp Eq.symm fun hlt => ⟨hlt, hrange.2⟩
  -- the numbers above a node are smaller than its own, so nothing above it is in its scope
  have hout : isCovered (ofWrites writes) scope n.path = false := by
    refine List.any_eq_false.2 fun frame hf => ?_
    have hlt := hpath frame hf
    have hs : scope frame.parent.id = false := by
      simp only [scope, Bool.or_eq_false_iff, Bool.and_eq_false_iff, beq_eq_false_iff_ne,
        decide_eq_false_iff_not]
      omega
    simp [hs]
  have heq := patches_eq_filterMap writes n scope
  rw [Node.preorder, filterMap_patchAt?_preorderOf n.source n.path n.tree hin, hout] at heq
  exact heq

theorem patches_rootNode (tree : SyntaxTree) (writes : List (Node × String)) :
    patches writes (fun _ => true) tree.rootNode = patchesIn (ofWrites writes) tree.root := by
  have heq := patches_eq_filterMap writes tree.rootNode fun _ => true
  rw [Node.preorder, filterMap_patchAt?_preorderOf _ _ _ fun _ _ => rfl] at heq
  exact heq

/-- A patch cuts the text between characters and writes a text. -/
theorem WellFormed.of_mem_patches (h : tree.WellFormed) (hn : n ∈ tree.rootNode.preorder)
    {writes : List (Node × String)} {scope : Node → Bool} {p : Patch}
    (hp : p ∈ patches writes scope n) :
    tree.source.CutsAt p.start ∧ tree.source.CutsAt p.stop ∧ p.bytes.IsValidUTF8 := by
  obtain ⟨m, hm, htext⟩ := List.mem_filterMap.1 hp
  obtain ⟨text, -, rfl⟩ := Option.map_eq_some_iff.1 htext
  have hmem := Node.mem_preorder_trans hn (List.mem_filter.1 hm).1
  obtain ⟨-, hb, -⟩ := mem_rootNode_preorder h hmem
  have hcuts := h.cuts hb.label_mem
  exact ⟨hcuts.1, hcuts.2, text.isValidUTF8⟩

theorem toUTF8_render (h : tree.WellFormed) (writes : List (Node × String)) :
    (tree.render (ofWrites writes)).toUTF8 = splice tree.source 0 tree.source.bytes.size
        (patches writes (fun _ => true) tree.rootNode) ∧
      Patch.Ordered tree.root.label.start tree.root.label.stop
        (patches writes (fun _ => true) tree.rootNode) := by
  have hord := ordered_patchesIn (ofWrites writes) tree.root h.fits.nested
  have hle := h.fits.nested.le_hi
  rw [label_map] at hle
  have hsplice : tree.render (ofWrites writes) =
      Source.decoded (splice tree.source 0 tree.source.bytes.size
        (patchesIn (ofWrites writes) tree.root)) := by
    rw [render_eq_decoded h, bytesOf_eq_splice _ _ tree.root h.fits.nested,
      slice_append_splice (Nat.zero_le _) hord,
      splice_append_slice (hord.mono_lo (Nat.zero_le _)) hle]
  rw [← patches_rootNode] at hord hsplice
  refine ⟨?_, hord⟩
  rw [hsplice]
  refine Source.toUTF8_decoded (isValidUTF8_splice h.source_eq h.cutsAt_zero h.cutsAt_size
    ((hord.mono_lo (Nat.zero_le _)).mono_hi hle) fun p hp => ?_)
  exact h.of_mem_patches (Node.self_mem_preorder tree.rootNode) hp

theorem currentText_eq_decoded_bytesOf (h : tree.WellFormed) (hn : n ∈ tree.rootNode.preorder)
    (rewrites : Rewrites) :
    n.currentText rewrites = Source.decoded (rewrites.bytesOf tree.source n.tree) := by
  obtain ⟨hsource, hb, -⟩ := mem_rootNode_preorder h hn
  rw [← hsource]
  exact Node.currentText_eq_decoded rewrites (h.nested hb) (hb.numbered h.numbered)

theorem toUTF8_currentText (h : tree.WellFormed) (hn : n ∈ tree.rootNode.preorder)
    (writes : List (Node × String)) :
    (n.currentText (ofWrites writes)).toUTF8 = splice tree.source n.start n.stop
        (patches writes (fun a => a == n || n.isAncestorOf a) n) ∧
      Patch.Ordered n.start n.stop
        (patches writes (fun a => a == n || n.isAncestorOf a) n) := by
  obtain ⟨-, hb, -⟩ := mem_rootNode_preorder h hn
  have hord := ordered_patchesIn (ofWrites writes) n.tree (h.nested hb)
  have hcuts := h.cuts hb.label_mem
  rw [currentText_eq_decoded_bytesOf h hn, bytesOf_eq_splice _ _ n.tree (h.nested hb)]
  rw [← patches_eq_patchesIn h hn] at hord ⊢
  refine ⟨Source.toUTF8_decoded ?_, hord⟩
  exact isValidUTF8_splice h.source_eq hcuts.1 hcuts.2 hord fun p hp => h.of_mem_patches hn hp

/-- Rendering replaces the spans of the outermost rewritten nodes by their last texts and keeps
every other byte, in the file and in each node; the walks that are not made would write the same. -/
theorem rendering_law (h : tree.WellFormed) (writes : List (Node × String)) :
    (((tree.render (ofWrites writes)).toUTF8 = splice tree.source 0 tree.source.bytes.size
        (patches writes (fun _ => true) tree.rootNode) ∧
      Patch.Ordered tree.root.label.start tree.root.label.stop
        (patches writes (fun _ => true) tree.rootNode)) ∧
      tree.render (ofWrites writes) =
        Source.decoded (tree.source.slice 0 tree.root.label.start ++
          (ofWrites writes).bytesOf tree.source tree.root ++
          tree.source.slice tree.root.label.stop tree.source.bytes.size)) ∧
    ∀ n ∈ tree.rootNode.preorder,
      ((n.currentText (ofWrites writes)).toUTF8 = splice tree.source n.start n.stop
          (patches writes (fun a => a == n || n.isAncestorOf a) n) ∧
        Patch.Ordered n.start n.stop
          (patches writes (fun a => a == n || n.isAncestorOf a) n)) ∧
      n.currentText (ofWrites writes) =
        Source.decoded ((ofWrites writes).bytesOf tree.source n.tree) :=
  ⟨⟨toUTF8_render h writes, render_eq_decoded h _⟩, fun _ hn =>
    ⟨toUTF8_currentText h hn writes, currentText_eq_decoded_bytesOf h hn _⟩⟩

end

/-- The tree of `a b c`, where `a b` is one node with two below it. -/
def ofTwoWords : SyntaxTree :=
  let leaf (start : Nat) : ParseTree := .node ⟨"identifier", true, false, start, start + 1⟩ []
  let pair : ParseTree := .node ⟨"call_expression", true, false, 0, 3⟩ [leaf 0, leaf 2]
  let file : ParseTree := .node ⟨"source_file", true, false, 0, 5⟩ [pair, leaf 4]
  ⟨.ofText "a b c", number (.ofText "a b c") 0 file, false⟩

theorem wellFormed_ofTwoWords : ofTwoWords.WellFormed where
  source_eq := rfl
  fits := by
    constructor
    · rw [ofTwoWords, map_toShape_number]
      simp [Nested, NestedForest, label]
      decide
    · rw [ofTwoWords, map_toShape_number]
      simp [Source.CutsAt]
      decide
  numbered := numberedFrom_number _ 0 _

/-- A node, what encloses it and a third one, written one after the other and the second twice. -/
def nestedWrites : List (Node × String) :=
  match ofTwoWords.rootNode.preorder with
  | [_, pair, a, _, c] => [(a, "x"), (pair, "y"), (c, "z"), (pair, "w")]
  | _ => []

theorem rendering_law_nestedWrites : ofTwoWords.WellFormed ∧
    (ofTwoWords.render (ofWrites nestedWrites)).toUTF8 = "w z".toUTF8 ∧
    ∀ n ∈ ofTwoWords.rootNode.preorder,
      (n.currentText (ofWrites nestedWrites)).toUTF8 = splice ofTwoWords.source n.start n.stop
        (patches nestedWrites (fun a => a == n || n.isAncestorOf a) n) := by
  have law := rendering_law wellFormed_ofTwoWords nestedWrites
  refine ⟨wellFormed_ofTwoWords, law.1.1.1.trans ?_, fun n hn => (law.2 n hn).1.1⟩
  decide

end SyntaxTree

end ComposeCheck
