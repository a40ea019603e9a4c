import ComposeCheck.Proofs.Reading

/-!
# What recovery keeps

The pieces of the top level stay in their order: what is read as it stands is copied, and a run that
is not accepted too (`recovered_eq_of_rejected`). The members of an accepted run cover what the run
covers up to the end of the class body (`exists_member_covers`): the leaf at such a byte lies in a
child of the body, and this child lies inside the run. But a run may hold a brace too many, and then
this brace closes the class: what stands behind it in the run is parsed outside of the class and is
in no member (`wrappedOffset_lt_of_covers`).
-/

namespace ComposeCheck

def isBlankByte (b : UInt8) : Bool := b == 32 || (9 ≤ b && b ≤ 13)

/-- Whether a byte that is no blank stands at this offset of a text. -/
def Text.isInkedAt (text : String) (offset : Nat) : Bool :=
  text.toUTF8.toList[offset]?.any fun b => !isBlankByte b

theorem Text.isInkedAt_append (before mid after : String) {k : Nat} (hk : k < mid.utf8ByteSize) :
    isInkedAt (before ++ mid ++ after) (before.utf8ByteSize + k) = isInkedAt mid k := by
  have hlength : before.toUTF8.toList.length = before.utf8ByteSize := Source.length_toUTF8 before
  have hlength' : mid.toUTF8.toList.length = mid.utf8ByteSize := Source.length_toUTF8 mid
  have hget : (before ++ mid ++ after).toUTF8.toList[before.utf8ByteSize + k]? =
      mid.toUTF8.toList[k]? := by
    rw [Source.toUTF8_append, Source.toUTF8_append, List.append_assoc,
      List.getElem?_append_right (by omega), List.getElem?_append_left (by omega), hlength,
      Nat.add_sub_cancel_left]
  rw [isInkedAt, isInkedAt, hget]

theorem Text.lt_of_isInkedAt {text : String} {offset : Nat} (h : isInkedAt text offset = true) :
    offset < text.utf8ByteSize := by
  rw [isInkedAt, Option.any_eq_true] at h
  obtain ⟨b, hb, -⟩ := h
  rw [← Source.length_toUTF8]
  exact (List.getElem?_eq_some_iff.1 hb).1

def Shape.Covers (shape : Shape) (offset : Nat) : Prop :=
  shape.start ≤ offset ∧ offset < shape.stop

instance (shape : Shape) (offset : Nat) : Decidable (shape.Covers offset) :=
  inferInstanceAs (Decidable (_ ∧ _))

namespace Tree

mutual

/-- The labels of the nodes without subtrees. -/
def leaves {α : Type} : Tree α → List α
  | node a ts => if ts.isEmpty then [a] else forestLeaves ts

def forestLeaves {α : Type} : List (Tree α) → List α
  | [] => []
  | t :: ts => leaves t ++ forestLeaves ts

end

/-- The leaves of a parse cover all bytes of its text but the blanks. -/
def LeavesCover (root : ParseTree) (text : String) : Prop :=
  ∀ offset, Text.isInkedAt text offset = true → ∃ leaf ∈ leaves root, leaf.Covers offset

/-- Only offsets in the text need to be looked at. -/
theorem leavesCover_of_forall_lt {root : ParseTree} {text : String}
    (h : ∀ offset < text.utf8ByteSize, Text.isInkedAt text offset = true →
      ∃ leaf ∈ leaves root, leaf.Covers offset) : LeavesCover root text :=
  fun offset hinked => h offset (Text.lt_of_isInkedAt hinked) hinked

mutual

theorem exists_of_mem_leaves {α : Type} {leaf : α} : {t : Tree α} → leaf ∈ leaves t →
    ∃ u, Below t u ∧ u.children = [] ∧ u.label = leaf
  | .node a ts, h => by
    rw [leaves] at h
    split at h
    case isTrue hempty =>
      obtain rfl := List.mem_singleton.1 h
      exact ⟨_, .refl, List.isEmpty_iff.1 hempty, rfl⟩
    case isFalse =>
      obtain ⟨t, ht, u, hu, hrest⟩ := exists_of_mem_forestLeaves h
      exact ⟨u, .child ht hu, hrest⟩

theorem exists_of_mem_forestLeaves {α : Type} {leaf : α} : {ts : List (Tree α)} →
    leaf ∈ forestLeaves ts → ∃ t ∈ ts, ∃ u, Below t u ∧ u.children = [] ∧ u.label = leaf
  | [], h => by rw [forestLeaves] at h; exact absurd h List.not_mem_nil
  | t :: ts, h => by
    rcases List.mem_append.1 h with h | h
    · exact ⟨t, List.mem_cons_self, exists_of_mem_leaves h⟩
    · obtain ⟨u, hu, hrest⟩ := exists_of_mem_forestLeaves h
      exact ⟨u, List.mem_cons_of_mem t hu, hrest⟩

end

section
variable {t c d leaf : ParseTree} {ts : List ParseTree} {lo hi offset : Nat}

theorem covers_of_below (h : leaf.label.Covers offset) (hn : Nested lo hi t) (hb : Below t leaf) :
    t.label.Covers offset := by
  have hleaf := hb.nested (hn.of_label (Nat.le_refl _) (Nat.le_refl _))
  exact ⟨Nat.le_trans hleaf.lo_le h.1, Nat.lt_of_lt_of_le h.2 hleaf.le_hi⟩

/-- No two siblings cover the same byte. -/
theorem NestedForest.eq_of_covers (hn : NestedForest lo hi ts) (hc : c ∈ ts) (hd : d ∈ ts)
    (hco : c.label.Covers offset) (hdo : d.label.Covers offset) : c = d := by
  induction ts generalizing lo with
  | nil => exact absurd hc List.not_mem_nil
  | cons t ts ih =>
    rcases List.mem_cons.1 hc with hct | hc
    · rcases List.mem_cons.1 hd with hdt | hd
      · rw [hct, hdt]
      · have hlo := (hn.2.nested_of_mem hd).lo_le
        exact absurd hco.2 (Nat.not_lt.2 (Nat.le_trans (hct ▸ hlo) hdo.1))
    · rcases List.mem_cons.1 hd with hdt | hd
      · have hlo := (hn.2.nested_of_mem hc).lo_le
        exact absurd hdo.2 (Nat.not_lt.2 (Nat.le_trans (hdt ▸ hlo) hco.1))
      · exact ih hn.2 hc hd

/-- A leaf below an inner node is covered by one of its children. -/
theorem exists_child_covers (hn : Nested lo hi t) (hne : t.children ≠ []) (hb : Below t leaf)
    (hleaf : leaf.children = []) (h : leaf.label.Covers offset) :
    ∃ c ∈ t.children, Below c leaf ∧ c.label.Covers offset := by
  cases hb with
  | refl => exact absurd hleaf hne
  | @child _ c _ hc hb => exact ⟨c, hc, hb, covers_of_below h (hn.children.nested_of_mem hc) hb⟩

/-- The leaf at a byte lies below the child that covers the byte. -/
theorem below_of_covers (hn : Nested lo hi t) (hc : c ∈ t.children) (hco : c.label.Covers offset)
    (hb : Below t leaf) (hleaf : leaf.children = []) (h : leaf.label.Covers offset) :
    Below c leaf := by
  obtain ⟨d, hd, hb, hdo⟩ := exists_child_covers hn (List.ne_nil_of_mem hc) hb hleaf h
  rwa [hn.children.eq_of_covers hc hd hco hdo]

end

end Tree

namespace Recovery

open Tree

/-- The class body that a wrapped run is parsed to: the first body of the first class. -/
def bodyOf? (parse : Parse) : Option ParseTree :=
  (childOfKind? "class_declaration" parse.root).bind (childOfKind? "class_body")

/-- A class body starts where the run does that is wrapped in it, or before, and no child of it
reaches over an end of the run, which has this length. -/
structure KeepsEnds (length : Nat) (body : ParseTree) : Prop where
  start_le : body.label.start ≤ opening.utf8ByteSize
  child : ∀ c ∈ body.children, c.label.stop ≤ opening.utf8ByteSize ∨ isInside length c = true ∨
    opening.utf8ByteSize + length ≤ c.label.start

instance (length : Nat) (body : ParseTree) : Decidable (KeepsEnds length body) :=
  decidable_of_iff (body.label.start ≤ opening.utf8ByteSize ∧ ∀ c ∈ body.children,
      c.label.stop ≤ opening.utf8ByteSize ∨ isInside length c = true ∨
        opening.utf8ByteSize + length ≤ c.label.start)
    ⟨fun h => ⟨h.1, h.2⟩, fun h => ⟨h.start_le, h.child⟩⟩

/-- A class body holds the whole run: it is not closed by a brace of the run itself. -/
structure Encloses (length : Nat) (body : ParseTree) : Prop extends KeepsEnds length body where
  le_stop : opening.utf8ByteSize + length ≤ body.label.stop

section
variable {parser : Parser} {source : Source} {text : String} {run members : List ParseTree}
  {parse : Parse} {body t : ParseTree} {lo hi length offset : Nat}

theorem exists_body_of_members? (h : members? parse length = some members) :
    members ≠ [] ∧ ∃ holder ∈ parse.root.children, ∃ body ∈ holder.children,
      bodyOf? parse = some body ∧ members = body.children.filter (isInside length) := by
  obtain ⟨-, hne, holder, hholder, body, hbody, hfirst, hfirst', heq⟩ := members?_eq_some h
  exact ⟨hne, holder, hholder, body, hbody, by rw [bodyOf?, hfirst, Option.bind_some, hfirst'], heq⟩

/-- The members of an accepted run cover what the leaves of its parse cover, up to the end of the
class body. -/
theorem exists_member_covers (hn : Nested lo hi parse.root)
    (hm : members? parse length = some members) (hbody : bodyOf? parse = some body)
    (hends : KeepsEnds length body) {leaf : ParseTree} (hb : Below parse.root leaf)
    (hleaf : leaf.children = []) (h : leaf.label.Covers offset)
    (h₁ : opening.utf8ByteSize ≤ offset) (h₂ : offset < opening.utf8ByteSize + length)
    (h₃ : offset < body.label.stop) : ∃ member ∈ members, member.label.Covers offset := by
  obtain ⟨hne, holder, hholder, _, hmem, hbody', rfl⟩ := exists_body_of_members? hm
  obtain rfl := Option.some.inj (hbody.symm.trans hbody')
  have hholdern := hn.children.nested_of_mem hholder
  have hbodyn := hholdern.children.nested_of_mem hmem
  have hbodyo : body.label.Covers offset := ⟨Nat.le_trans hends.start_le h₁, h₃⟩
  have hholdero : holder.label.Covers offset :=
    covers_of_below hbodyo hholdern (.child hmem .refl)
  have hb := below_of_covers hn hholder hholdero hb hleaf h
  have hb := below_of_covers hholdern hmem hbodyo hb hleaf h
  have hchildren : body.children ≠ [] := fun hnil => hne (by rw [hnil, List.filter_nil])
  obtain ⟨child, hchild, -, hco⟩ := exists_child_covers hbodyn hchildren hb hleaf h
  rcases hends.child child hchild with hstop | hinside | hstart
  · exact absurd hco.2 (by omega)
  · exact ⟨child, List.mem_filter.2 ⟨hchild, hinside⟩, hco⟩
  · exact absurd hco.1 (by omega)

/-- What a run is parsed to as members of a class, if that is accepted. -/
def accepted? (parser : Parser) (source : Source) (run : List ParseTree) :
    Option (List ParseTree) :=
  (parser (wrapped source run)).bind (members? · (segment source run).utf8ByteSize)

def acceptedBody? (parser : Parser) (source : Source) (run : List ParseTree) : Option ParseTree :=
  (parser (wrapped source run)).bind bodyOf?

/-- Where a byte of a run stands in the wrapped text. -/
def wrappedOffset (run : List ParseTree) (offset : Nat) : Nat :=
  opening.utf8ByteSize + (offset - firstStart run)

theorem recovered_eq_of_rejected (h : accepted? parser source run = none) :
    (Piece.run run).recovered parser source = run := by
  rcases replacement_cases parser source run with ⟨-, heq⟩ | ⟨parse, members, hparse, hm, -⟩
  · exact heq
  · rw [accepted?, hparse, Option.bind_some, hm] at h
    cases h

theorem exists_acceptedBody? (h : accepted? parser source run = some members) :
    ∃ body, acceptedBody? parser source run = some body := by
  obtain ⟨again, hagain, hm⟩ := Option.bind_eq_some_iff.1 h
  obtain ⟨-, _, -, body, -, hbody, -⟩ := exists_body_of_members? hm
  exact ⟨body, by rw [acceptedBody?, hagain, Option.bind_some, hbody]⟩

theorem recovered_eq_of_accepted (h : accepted? parser source run = some members) :
    (Piece.run run).recovered parser source =
      members.map (Tree.map (shift opening.utf8ByteSize (firstStart run))) := by
  rcases replacement_cases parser source run with ⟨hnone, -⟩ | ⟨parse, found, hparse, hm, heq⟩
  · rw [accepted?, hnone] at h
    cases h
  · rw [accepted?, hparse, Option.bind_some, hm] at h
    obtain rfl := Option.some.inj h
    rw [← mapForest_eq_map]
    exact heq

theorem isInkedAt_wrapped (hne : run ≠ []) (h : FitsBetween (.ofText text) lo hi run)
    (h₁ : firstStart run ≤ offset) (h₂ : offset < lastStop run) :
    Text.isInkedAt (wrapped (.ofText text) run) (wrappedOffset run offset) =
      Text.isInkedAt text offset := by
  obtain ⟨before, after, htext, hbefore, hlength⟩ := exists_segment hne h
  have hk : offset - firstStart run < (segment (.ofText text) run).utf8ByteSize := by omega
  have hoffset : offset = before.utf8ByteSize + (offset - firstStart run) := by omega
  rw [wrapped, wrappedOffset, Text.isInkedAt_append _ _ _ hk]
  conv => rhs; rw [hoffset, htext]
  exact (Text.isInkedAt_append before _ after hk).symm

/-- Of an accepted run, the bytes up to the end of the class body lie in the members that take its
place, but for blanks. -/
theorem exists_recovered_covers (hne : run ≠ []) (h : FitsBetween (.ofText text) lo hi run)
    (hfits : parser.FitsOn (wrapped (.ofText text) run))
    (hcovers : ∀ again, parser (wrapped (.ofText text) run) = some again →
      LeavesCover again.root (wrapped (.ofText text) run))
    (haccepted : accepted? parser (.ofText text) run = some members)
    (hbody : acceptedBody? parser (.ofText text) run = some body)
    (hends : KeepsEnds (segment (.ofText text) run).utf8ByteSize body)
    (h₁ : firstStart run ≤ offset) (h₂ : offset < lastStop run)
    (hinked : Text.isInkedAt text offset = true)
    (h₃ : wrappedOffset run offset < body.label.stop) :
    ∃ t ∈ (Piece.run run).recovered parser (.ofText text), t.label.Covers offset := by
  obtain ⟨again, hagain, hm⟩ := Option.bind_eq_some_iff.1 haccepted
  rw [acceptedBody?, hagain, Option.bind_some] at hbody
  obtain ⟨-, -, -, -, hlength⟩ := exists_segment hne h
  rw [← isInkedAt_wrapped hne h h₁ h₂] at hinked
  obtain ⟨_, hleaf, ho⟩ := hcovers again hagain _ hinked
  obtain ⟨leaf, hb, hchildren, rfl⟩ := exists_of_mem_leaves hleaf
  obtain ⟨member, hmember, hmo⟩ := exists_member_covers (hfits again hagain).nested hm hbody hends
    hb hchildren ho (Nat.le_add_right _ _) (by rw [wrappedOffset]; omega) h₃
  rw [recovered_eq_of_accepted haccepted]
  refine ⟨_, List.mem_map_of_mem hmember, ?_⟩
  have hlo := hmo.1
  have hhi := hmo.2
  rw [wrappedOffset] at hlo hhi
  rw [label_map]
  constructor
  · simp only [shift]
    omega
  · simp only [shift]
    omega

/-- What stands in a run behind the end of the class body is in no member. -/
theorem wrappedOffset_lt_of_covers (hfits : parser.FitsOn (wrapped source run))
    (haccepted : accepted? parser source run = some members)
    (hbody : acceptedBody? parser source run = some body)
    (ht : t ∈ (Piece.run run).recovered parser source) (h : t.label.Covers offset) :
    wrappedOffset run offset < body.label.stop := by
  obtain ⟨again, hagain, hm⟩ := Option.bind_eq_some_iff.1 haccepted
  rw [acceptedBody?, hagain, Option.bind_some] at hbody
  rw [recovered_eq_of_accepted haccepted] at ht
  obtain ⟨member, hmember, rfl⟩ := List.mem_map.1 ht
  obtain ⟨-, holder, hholder, _, hmem, hbody', rfl⟩ := exists_body_of_members? hm
  obtain rfl := Option.some.inj (hbody.symm.trans hbody')
  obtain ⟨hchild, hinside⟩ := List.mem_filter.1 hmember
  have hbodyn := ((hfits again hagain).nested.children.nested_of_mem hholder).children.nested_of_mem
    hmem
  have hstop := (hbodyn.children.nested_of_mem hchild).le_hi
  obtain ⟨hlo, hhi⟩ := h
  rw [label_map] at hlo hhi
  simp only [shift] at hlo hhi
  simp only [isInside, Bool.and_eq_true, decide_eq_true_eq] at hinside
  rw [wrappedOffset]
  omega

end

end Recovery

open Recovery

/-- For a file and for the texts that its runs are parsed again from, the grammar's leaves cover all
bytes but the blanks. -/
structure Parser.CoversFile (parser : Parser) (text : String) : Prop where
  file : ∀ parse, parser text = some parse → Tree.LeavesCover parse.root text
  runs : ∀ parse, parser text = some parse → ∀ run,
    .run run ∈ pieces (.ofText text) parse.root.children → ∀ again,
      parser (wrapped (.ofText text) run) = some again →
        Tree.LeavesCover again.root (wrapped (.ofText text) run)

/-- The class bodies that the accepted runs of a file are parsed to hold the whole runs. -/
def Parser.EnclosesRuns (parser : Parser) (source : Source) (ts : List ParseTree) : Prop :=
  ∀ run members body, .run run ∈ pieces source ts → accepted? parser source run = some members →
    acceptedBody? parser source run = some body →
      Encloses (segment source run).utf8ByteSize body

namespace SyntaxTree

open Tree

section
variable {parser : Parser} {text : String} {parse : Parse} {tree : SyntaxTree} {offset : Nat}

/-- Whatever a statement covers is still covered when its piece is recovered. -/
theorem exists_statement_covers (hfits : parser.FitsFile text) (hcovers : parser.CoversFile text)
    (hparse : parser text = some parse)
    (hencloses : parser.EnclosesRuns (.ofText text) parse.root.children) {t : ParseTree}
    (ht : t ∈ parse.root.children) (hto : t.label.Covers offset)
    (hinked : Text.isInkedAt text offset = true) :
    ∃ u ∈ (pieces (.ofText text) parse.root.children).flatMap
      (Piece.recovered parser (.ofText text)), u.label.Covers offset := by
  have hts := flatMap_statements_pieces (.ofText text) parse.root.children
  rw [← hts] at ht
  obtain ⟨piece, hpiece, ht⟩ := List.mem_flatMap.1 ht
  cases piece with
  | single u =>
    obtain rfl := List.mem_singleton.1 ht
    exact ⟨t, List.mem_flatMap.2 ⟨_, hpiece, List.mem_singleton.2 rfl⟩, hto⟩
  | run run =>
    have ht : t ∈ run := ht
    cases haccepted : accepted? parser (.ofText text) run with
    | none =>
      refine ⟨t, List.mem_flatMap.2 ⟨_, hpiece, ?_⟩, hto⟩
      rwa [recovered_eq_of_rejected haccepted]
    | some members =>
      have hchildren := (hfits.file parse hparse).children
      rw [← hts] at hchildren
      have hrun : FitsBetween _ _ _ run := hchildren.sublist (sublist_flatMap_of_mem hpiece)
      have hne := List.ne_nil_of_mem ht
      obtain ⟨-, -, -, hends⟩ := hrun.firstStart_le hne
      have htn := hends.nested.nested_of_mem ht
      have h₁ := Nat.le_trans htn.lo_le hto.1
      have h₂ := Nat.lt_of_lt_of_le hto.2 htn.le_hi
      obtain ⟨body, hbody⟩ := exists_acceptedBody? haccepted
      have hholds := hencloses run members body hpiece haccepted hbody
      have hlast : wrappedOffset run offset < body.label.stop := by
        obtain ⟨-, -, -, -, hlength⟩ := exists_segment hne hrun
        have hstop := hholds.le_stop
        rw [wrappedOffset]
        omega
      obtain ⟨u, hu, huo⟩ := exists_recovered_covers hne hrun (hfits.runs parse hparse run hpiece)
        (hcovers.runs parse hparse run hpiece) haccepted hbody hholds.toKeepsEnds h₁ h₂ hinked hlast
      exact ⟨u, List.mem_flatMap.2 ⟨_, hpiece, hu⟩, huo⟩

/-- Recovery cuts the top level into statements that are not misread and runs that start with a
misread one, each misread statement in exactly one run. Under the root stand, in this order, the
statements, the runs that are not accepted, and for each accepted run the members that it is parsed
to. Of the run these hold nothing that stands behind the end of the first class body, and of what
stands before it all but blanks. So if every body holds its whole run, every byte of the file but
the blanks lies in a top-level statement of the tree. -/
theorem recovery_keeps_everything (hfits : parser.FitsFile text)
    (hcovers : parser.CoversFile text) (hparse : parser text = some parse)
    (hread : read? parser text = some tree) :
    let source := Source.ofText text
    let ts := parse.root.children
    let ps := pieces source ts
    (ps.flatMap Piece.statements = ts ∧ ∀ piece ∈ ps,
      (∀ t, piece = .single t → isMisread source t = false) ∧
      ∀ run, piece = .run run → ∃ first others, run = first :: others ∧
        isMisread source first = true) ∧
    (∀ i t, ts[i]? = some t → isMisread source t = true →
      ∃ j run, ps[j]? = some (.run run) ∧ Holds ps j i ∧ ∀ k, Holds ps k i → k = j) ∧
    tree.root.map Place.toShape =
      .node parse.root.label (ps.flatMap (Piece.recovered parser source)) ∧
    (∀ t, (Piece.single t).recovered parser source = [t]) ∧
    (∀ run, accepted? parser source run = none →
      (Piece.run run).recovered parser source = run) ∧
    (∀ run members, .run run ∈ ps → accepted? parser source run = some members →
      (Piece.run run).recovered parser source =
        members.map (move opening.utf8ByteSize (firstStart run)) ∧
      ∃ body, acceptedBody? parser source run = some body ∧
        (∀ offset, body.label.stop ≤ wrappedOffset run offset →
          ¬∃ t ∈ (Piece.run run).recovered parser source, t.label.Covers offset) ∧
        (KeepsEnds (segment source run).utf8ByteSize body →
          ∀ offset, firstStart run ≤ offset → offset < lastStop run →
            Text.isInkedAt text offset = true → wrappedOffset run offset < body.label.stop →
              ∃ t ∈ (Piece.run run).recovered parser source, t.label.Covers offset)) ∧
    (ts ≠ [] → parser.EnclosesRuns source ts → ∀ offset, Text.isInkedAt text offset = true →
      ∃ t ∈ (tree.root.map Place.toShape).children, t.label.Covers offset) := by
  intro source ts ps
  have hroot : tree.root.map Place.toShape =
      .node parse.root.label (ps.flatMap (Piece.recovered parser source)) := by
    obtain rfl := read?_eq_some hparse hread
    rw [map_toShape_number, ← statements_eq_flatMap]
    cases hp : parse.root with
    | node shape us => simp only [ts, hp]; rfl
  refine ⟨⟨flatMap_statements_pieces source ts, fun piece hpiece => of_mem_pieces hpiece⟩, ?_,
    hroot, fun _ => rfl, fun run hrun => recovered_eq_of_rejected hrun, ?_, ?_⟩
  · intro i t ht hmisread
    obtain ⟨j, run, hrun, hj⟩ := exists_run_of_isMisread ht hmisread
    exact ⟨j, run, hrun, hj, fun k hk => hk.unique hj⟩
  · intro run members hrun haccepted
    obtain ⟨body, hbody⟩ := exists_acceptedBody? haccepted
    have hfits' := hfits.runs parse hparse run hrun
    refine ⟨recovered_eq_of_accepted haccepted, body, hbody, ?_,
      fun hends offset h₁ h₂ hinked hlt => ?_⟩
    · rintro offset hle ⟨t, ht, hto⟩
      exact absurd (wrappedOffset_lt_of_covers hfits' haccepted hbody ht hto) (Nat.not_lt.2 hle)
    · have hchildren := (hfits.file parse hparse).children
      rw [← flatMap_statements_pieces source parse.root.children] at hchildren
      exact exists_recovered_covers (statements_ne_nil hrun)
        (hchildren.sublist (sublist_flatMap_of_mem hrun)) hfits'
        (hcovers.runs parse hparse run hrun) haccepted hbody hends h₁ h₂ hinked hlt
  · intro hne hencloses offset hinked
    obtain ⟨_, hleaf, ho⟩ := hcovers.file parse hparse offset hinked
    obtain ⟨leaf, hb, hchildren, rfl⟩ := exists_of_mem_leaves hleaf
    obtain ⟨t, ht, -, hto⟩ :=
      exists_child_covers (hfits.file parse hparse).nested hne hb hchildren ho
    rw [hroot]
    exact exists_statement_covers hfits hcovers hparse hencloses ht hto hinked

end

/-- A file with a brace too many, behind a declaration that is misread, and one too few. -/
def unevenFile : String := "public fun f() \x7b\x7d\n\x7d\nfun g() \x7b"

/-- A grammar for that file. Wrapped in a class, the brace too many closes the class, and the last
one the second function. -/
def unevenParser : Parser := fun text =>
  let named (kind : String) (start stop : Nat) (ts : List ParseTree) : ParseTree :=
    .node ⟨kind, true, false, start, stop⟩ ts
  let token (kind : String) (start stop : Nat) : ParseTree :=
    .node ⟨kind, false, false, start, stop⟩ []
  if text = unevenFile then
    let misread := named "infix_expression" 0 17 [named "identifier" 0 6 [],
      named "identifier" 7 10 [], named "call_expression" 11 17 []]
    let stray : ParseTree := .node ⟨"ERROR", true, true, 18, 19⟩ [token "\x7d" 18 19]
    let function := named "function_declaration" 20 29 [token "fun" 20 23,
      named "identifier" 24 25 [], named "function_value_parameters" 25 27 [],
      named "block" 28 29 [token "\x7b" 28 29, token "\x7d" 29 29]]
    some ⟨named "source_file" 0 29 [misread, stray, function], true⟩
  else if text = opening ++ unevenFile ++ closing then
    let body := named "class_body" 16 36 [token "\x7b" 16 17,
      named "function_declaration" 17 34 [], token "\x7d" 35 36]
    some ⟨named "source_file" 0 48 [named "class_declaration" 0 36 [token "class" 0 5,
      named "identifier" 6 15 [], body], named "function_declaration" 37 48 []], false⟩
  else none

theorem unevenParser_cases {text : String} {parse : Parse} (h : unevenParser text = some parse) :
    parse.root.Fits (.ofText text) ∧ LeavesCover parse.root text := by
  rw [unevenParser] at h
  split at h
  · next htext =>
    subst htext
    obtain rfl := Option.some.inj h
    exact ⟨⟨by decide, by decide⟩, leavesCover_of_forall_lt (by decide +kernel)⟩
  · split at h
    · next htext =>
      subst htext
      obtain rfl := Option.some.inj h
      exact ⟨⟨by decide, by decide⟩, leavesCover_of_forall_lt (by decide +kernel)⟩
    · cases h

/-- The first function is kept, and the second is lost. -/
theorem recovery_keeps_everything_unevenFile : unevenParser.FitsFile unevenFile ∧
    unevenParser.CoversFile unevenFile ∧
    ∃ parse tree, unevenParser unevenFile = some parse ∧
      read? unevenParser unevenFile = some tree ∧
      pieces (.ofText unevenFile) parse.root.children = [.run parse.root.children] ∧
      ∀ offset, Text.isInkedAt unevenFile offset = true →
        ((∃ t ∈ (tree.root.map Place.toShape).children, t.label.Covers offset) ↔ offset < 19) := by
  have hfits : unevenParser.FitsFile unevenFile :=
    ⟨fun _ h => (unevenParser_cases h).1, fun _ _ _ _ _ h => (unevenParser_cases h).1⟩
  have hcovers : unevenParser.CoversFile unevenFile :=
    ⟨fun _ h => (unevenParser_cases h).2, fun _ _ _ _ _ h => (unevenParser_cases h).2⟩
  let source := Source.ofText unevenFile
  obtain ⟨parse, hparse, hmisread, hfollowers, hspan, haccepted, body, hbody, hstop, hends⟩ :
      ∃ parse ∈ unevenParser unevenFile,
        parse.root.children.head?.map (isMisread source) = some true ∧
        followers source parse.root.children.tail = parse.root.children.tail.length ∧
        (firstStart parse.root.children = 0 ∧ lastStop parse.root.children = 29) ∧
        (accepted? unevenParser source parse.root.children).isSome = true ∧
        ∃ body ∈ acceptedBody? unevenParser source parse.root.children, body.label.stop = 36 ∧
          KeepsEnds (segment source parse.root.children).utf8ByteSize body := by
    decide +kernel
  obtain ⟨members, hmembers⟩ := Option.isSome_iff_exists.1 haccepted
  have hpieces : pieces source parse.root.children = [.run parse.root.children] := by
    cases hts : parse.root.children with
    | nil => simp [hts] at hmisread
    | cons t ts =>
      rw [hts, List.tail_cons] at hfollowers
      rw [pieces_of_isMisread (by simpa [hts] using hmisread), hfollowers, List.take_length,
        List.drop_length, pieces]
  obtain ⟨tree, hread⟩ : ∃ tree, read? unevenParser unevenFile = some tree := by
    rw [read?, hparse]
    exact ⟨_, rfl⟩
  refine ⟨hfits, hcovers, parse, tree, hparse, hread, hpieces, fun offset hinked => ?_⟩
  obtain ⟨-, -, hroot, -, -, hrun, -⟩ := recovery_keeps_everything hfits hcovers hparse hread
  obtain ⟨-, body', hbody', hlost, hkept⟩ :=
    hrun _ members (hpieces ▸ List.mem_singleton_self _) hmembers
  obtain rfl := Option.some.inj (hbody.symm.trans hbody')
  have hplace : wrappedOffset parse.root.children offset = 17 + offset := by
    rw [wrappedOffset, hspan.1]
    rfl
  have hinside : offset < 29 := Text.lt_of_isInkedAt hinked
  rw [hroot, Tree.children, hpieces, List.flatMap_singleton]
  constructor
  · exact fun hcovered => Nat.lt_of_not_le fun hle => hlost offset (by omega) hcovered
  · intro hlt
    exact hkept hends offset (by omega) (by omega) hinked (by omega)

end SyntaxTree

end ComposeCheck
