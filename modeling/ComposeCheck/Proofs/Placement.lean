import ComposeCheck.Proofs.Pieces
import ComposeCheck.Proofs.Nodes
import ComposeCheck.Proofs.Spans

/-!
# Where recovered declarations are placed

The members of a wrapped run lie between the bytes that recovery writes around it, so moving them
back puts each on the bytes of the file that it was read from. The window lemmas of `Source` relate
the two texts, `nested_move` moves spans, and from the two follow what holds of one run
(`fits_replacement`, `textBetween_shift`) and of all statements (`fits_recover`).
-/

namespace ComposeCheck

/-- For this text the grammar keeps its promise about spans. -/
def Parser.FitsOn (parser : Parser) (text : String) : Prop :=
  ∀ parse, parser text = some parse → parse.root.Fits (Source.ofText text)

namespace Tree

/-- Spans of several trees between two bounds, in order and between characters of a text. -/
structure FitsBetween (source : Source) (lo hi : Nat) (ts : List ParseTree) : Prop where
  nested : NestedForest lo hi ts
  cuts : ∀ shape ∈ forestPreorder ts, source.CutsAt shape.start ∧ source.CutsAt shape.stop

def firstStart (ts : List ParseTree) : Nat := (ts.head?.map (·.label.start)).getD 0

def lastStop (ts : List ParseTree) : Nat := (ts.getLast?.map (·.label.stop)).getD 0

section
variable {source : Source} {lo lo' hi hi' : Nat} {t : ParseTree} {ts us : List ParseTree}

theorem lastStop_cons (h : ts ≠ []) : lastStop (t :: ts) = lastStop ts := by
  cases ts with
  | nil => exact absurd rfl h
  | cons u us => rw [lastStop, List.getLast?_cons_cons, lastStop]

theorem NestedForest.of_bounds (h : NestedForest lo hi ts)
    (hb : ∀ t ∈ ts, lo' ≤ t.label.start ∧ t.label.stop ≤ hi') : NestedForest lo' hi' ts := by
  induction ts generalizing lo lo' with
  | nil => trivial
  | cons t ts ih =>
    have ht := hb t List.mem_cons_self
    refine ⟨h.1.of_label ht.1 ht.2, ih h.2 fun u hu => ⟨?_, (hb u (List.mem_cons_of_mem t hu)).2⟩⟩
    exact (h.2.nested_of_mem hu).lo_le

/-- Several trees end where the last of them stops. -/
theorem NestedForest.split (h : NestedForest lo hi (ts ++ us)) (hne : ts ≠ []) :
    NestedForest lo (lastStop ts) ts ∧ NestedForest (lastStop ts) hi us ∧ lastStop ts ≤ hi := by
  induction ts generalizing lo with
  | nil => exact absurd rfl hne
  | cons t ts ih =>
    by_cases hts : ts = []
    · subst hts
      exact ⟨⟨h.1.of_label h.1.lo_le (Nat.le_refl _), trivial⟩, h.2, h.1.le_hi⟩
    · obtain ⟨h₁, h₂, h₃⟩ := ih h.2 hts
      rw [lastStop_cons hts]
      obtain ⟨u, hu⟩ := List.exists_mem_of_ne_nil ts hts
      have hu := h₁.nested_of_mem hu
      exact ⟨⟨h.1.of_label h.1.lo_le (Nat.le_trans hu.lo_le_stop hu.le_hi), h₁⟩, h₂, h₃⟩

theorem FitsBetween.append (h₁ : FitsBetween source lo hi ts) (h₂ : FitsBetween source hi hi' us)
    (hlo : lo ≤ hi) (hhi : hi ≤ hi') : FitsBetween source lo hi' (ts ++ us) where
  nested := h₁.nested.append h₂.nested hlo hhi
  cuts shape hm := by
    rw [forestPreorder_append] at hm
    exact (List.mem_append.1 hm).elim (h₁.cuts shape) (h₂.cuts shape)

theorem FitsBetween.split (h : FitsBetween source lo hi (ts ++ us)) (hne : ts ≠ []) :
    FitsBetween source lo (lastStop ts) ts ∧ FitsBetween source (lastStop ts) hi us ∧
      lastStop ts ≤ hi := by
  obtain ⟨h₁, h₂, h₃⟩ := h.nested.split hne
  have hcuts := h.cuts
  rw [forestPreorder_append] at hcuts
  exact ⟨⟨h₁, fun shape hm => hcuts shape (List.mem_append_left _ hm)⟩,
    ⟨h₂, fun shape hm => hcuts shape (List.mem_append_right _ hm)⟩, h₃⟩

theorem FitsBetween.sublist (h : FitsBetween source lo hi ts) (hs : us.Sublist ts) :
    FitsBetween source lo hi us where
  nested := h.nested.sublist hs
  cuts shape hm := by
    obtain ⟨t, ht, hm⟩ := mem_forestPreorder.1 hm
    exact h.cuts shape (mem_forestPreorder.2 ⟨t, hs.subset ht, hm⟩)

theorem FitsBetween.mono (h : FitsBetween source lo hi ts) (h₁ : lo' ≤ lo) (h₂ : hi ≤ hi') :
    FitsBetween source lo' hi' ts :=
  ⟨h.nested.mono h₁ h₂, h.cuts⟩

theorem Fits.children (h : t.Fits source) :
    FitsBetween source t.label.start t.label.stop t.children where
  nested := h.nested.children
  cuts shape hm := by
    refine h.cuts shape ?_
    cases t with
    | node _ ts => exact List.mem_cons_of_mem _ hm

theorem FitsBetween.firstStart_le (h : FitsBetween source lo hi ts) (hne : ts ≠ []) :
    lo ≤ firstStart ts ∧ firstStart ts ≤ lastStop ts ∧ lastStop ts ≤ hi ∧
      FitsBetween source (firstStart ts) (lastStop ts) ts := by
  have hsplit := (ts.append_nil.symm ▸ h : FitsBetween source lo hi (ts ++ [])).split hne
  cases ts with
  | nil => exact absurd rfl hne
  | cons t ts =>
    have ht := hsplit.1.nested.1
    refine ⟨ht.lo_le, Nat.le_trans ht.start_le_stop ht.le_hi, hsplit.2.2, ?_, h.cuts⟩
    exact ⟨ht.of_label (Nat.le_refl _) ht.le_hi, hsplit.1.nested.2⟩

theorem FitsBetween.cuts_ends (h : FitsBetween source lo hi ts) (hne : ts ≠ []) :
    source.CutsAt (firstStart ts) ∧ source.CutsAt (lastStop ts) := by
  have hmem {t : ParseTree} (ht : t ∈ ts) : t.label ∈ forestPreorder ts :=
    mem_forestPreorder.2 ⟨t, ht, t.label_mem_preorder⟩
  constructor
  · cases ts with
    | nil => exact absurd rfl hne
    | cons t ts => exact (h.cuts _ (hmem List.mem_cons_self)).1
  · rw [lastStop, List.getLast?_eq_some_getLast hne]
    exact (h.cuts _ (hmem (List.getLast_mem hne))).2

end

/-! ### Moving spans -/

/-- A span moved from an offset in one text to an offset in another. -/
def shift (origin target : Nat) (shape : Shape) : Shape :=
  { shape with start := shape.start - origin + target, stop := shape.stop - origin + target }

mutual

theorem nested_shift {origin : Nat} (target : Nat) : {t : ParseTree} → {lo hi : Nat} →
    Nested lo hi t → origin ≤ lo →
      Nested (lo - origin + target) (hi - origin + target) (t.map (shift origin target))
  | .node shape ts, lo, hi, h, ho => by
    obtain ⟨h₁, h₂, h₃, hts⟩ := h
    refine ⟨?_, ?_, ?_, nestedForest_shift target hts (Nat.le_trans ho h₁)⟩ <;>
      simp only [shift] <;> omega

theorem nestedForest_shift {origin : Nat} (target : Nat) : {ts : List ParseTree} →
    {lo hi : Nat} → NestedForest lo hi ts → origin ≤ lo →
      NestedForest (lo - origin + target) (hi - origin + target)
        (mapForest (shift origin target) ts)
  | [], _, _, _, _ => trivial
  | t :: ts, lo, hi, h, ho => by
    refine ⟨nested_shift target h.1 ho, ?_⟩
    rw [label_map]
    exact nestedForest_shift target h.2 (Nat.le_trans ho h.1.lo_le_stop)

end

end Tree

namespace Recovery

open Tree

def wrapped (source : Source) (run : List ParseTree) : String :=
  opening ++ segment source run ++ closing

/-- Whether a node of a wrapped text lies inside the run, which has this length. -/
def isInside (length : Nat) (t : ParseTree) : Bool :=
  (opening.utf8ByteSize ≤ t.label.start && t.label.start ≤ opening.utf8ByteSize + length) &&
    (opening.utf8ByteSize ≤ t.label.stop && t.label.stop ≤ opening.utf8ByteSize + length)

section
variable {parser : Parser} {source : Source} {text : String} {run : List ParseTree}
  {members : List ParseTree} {parse : Parse} {lo hi length : Nat}

theorem segment_eq (hne : run ≠ []) :
    segment source run = source.textBetween (firstStart run) (lastStop run) := by
  cases run with
  | nil => exact absurd rfl hne
  | cons t ts =>
    rw [segment, lastStop, List.getLast?_eq_some_getLast (List.cons_ne_nil t ts)]
    rfl

/-- A run's text with what stands around it in the file. -/
theorem exists_segment (hne : run ≠ []) (h : FitsBetween (.ofText text) lo hi run) :
    ∃ before after : String, text = before ++ segment (.ofText text) run ++ after ∧
      before.utf8ByteSize = firstStart run ∧
      (segment (.ofText text) run).utf8ByteSize = lastStop run - firstStart run := by
  have hcuts := h.cuts_ends hne
  rw [segment_eq hne]
  exact hcuts.1.exists_textBetween hcuts.2 (h.firstStart_le hne).2.1

/-- What the parse of a wrapped run gives: the nodes of the first class body that lie inside. -/
theorem members?_eq_some (h : members? parse length = some members) :
    parse.hasError = false ∧ members ≠ [] ∧ ∃ holder ∈ parse.root.children,
      ∃ body ∈ holder.children, childOfKind? "class_declaration" parse.root = some holder ∧
        childOfKind? "class_body" holder = some body ∧
        members = body.children.filter (isInside length) := by
  simp only [members?] at h
  split at h
  · cases h
  case isFalse hclean =>
    obtain ⟨holder, hholder, h⟩ := Option.bind_eq_some_iff.1 h
    obtain ⟨body, hbody, h⟩ := Option.bind_eq_some_iff.1 h
    split at h
    · cases h
    case isFalse hne =>
      cases h
      exact ⟨Bool.eq_false_iff.2 hclean, fun hnil => hne (List.isEmpty_iff.2 hnil), holder,
        List.mem_of_find?_eq_some hholder, body, List.mem_of_find?_eq_some hbody, hholder, hbody, rfl⟩

/-- A run stays as it is or gives way to the members it is parsed to. -/
theorem replacement_cases (parser : Parser) (source : Source) (run : List ParseTree) :
    ((parser (wrapped source run)).bind (members? · (segment source run).utf8ByteSize) = none ∧
      replacement parser source run = run) ∨
    ∃ parse members, parser (wrapped source run) = some parse ∧
      members? parse (segment source run).utf8ByteSize = some members ∧
      replacement parser source run =
        mapForest (shift opening.utf8ByteSize (firstStart run)) members := by
  rw [wrapped, replacement]
  cases hp : parser (opening ++ segment source run ++ closing) with
  | none => exact .inl ⟨rfl, rfl⟩
  | some parse =>
    simp only [Option.bind_some]
    cases hm : members? parse (segment source run).utf8ByteSize with
    | none => exact .inl ⟨rfl, rfl⟩
    | some members => exact .inr ⟨parse, members, rfl, hm, (mapForest_eq_map _ members).symm⟩

/-- The members of a wrapped run fit its text and lie inside the run. -/
theorem fits_members (hp : parse.root.Fits (.ofText text))
    (h : members? parse length = some members) :
    FitsBetween (.ofText text) opening.utf8ByteSize (opening.utf8ByteSize + length) members := by
  obtain ⟨-, -, holder, hholder, body, hbody, -, -, rfl⟩ := members?_eq_some h
  have hb : Nested _ _ body :=
    (hp.nested.children.nested_of_mem hholder).children.nested_of_mem hbody
  have hsub : (body.children.filter (isInside length)).Sublist body.children := List.filter_sublist
  refine ⟨(hb.children.sublist hsub).of_bounds fun t ht => ?_, fun shape hm => ?_⟩
  · have hin := (List.mem_filter.1 ht).2
    simp only [isInside, Bool.and_eq_true, decide_eq_true_eq] at hin
    exact ⟨hin.1.1, hin.2.2⟩
  · obtain ⟨t, ht, hm⟩ := mem_forestPreorder.1 hm
    have hbelow : Below parse.root t :=
      .child hholder (.child hbody (.child (hsub.subset ht) .refl))
    exact hp.cuts shape (hbelow.mem_preorder hm)

/-- A span inside a wrapped run covers the same bytes in both texts and cuts both between
characters. -/
theorem slice_shift (hne : run ≠ []) (h : FitsBetween (.ofText text) lo hi run) {shape : Shape}
    (h₁ : opening.utf8ByteSize ≤ shape.start) (h₂ : shape.start ≤ shape.stop)
    (h₃ : shape.stop ≤ opening.utf8ByteSize + (segment (.ofText text) run).utf8ByteSize) :
    (Source.ofText (wrapped (.ofText text) run)).slice shape.start shape.stop =
      (Source.ofText text).slice (shift opening.utf8ByteSize (firstStart run) shape).start
        (shift opening.utf8ByteSize (firstStart run) shape).stop := by
  obtain ⟨before, after, htext, hbefore, -⟩ := exists_segment hne h
  have hstart : shape.start = opening.utf8ByteSize + (shape.start - opening.utf8ByteSize) := by omega
  have hstop : shape.stop = opening.utf8ByteSize + (shape.stop - opening.utf8ByteSize) := by omega
  have hin : shape.stop - opening.utf8ByteSize ≤ (segment (.ofText text) run).utf8ByteSize := by
    omega
  generalize hseg : segment (.ofText text) run = mid at *
  subst htext
  rw [shift, wrapped, hseg, ← hbefore, Nat.add_comm _ before.utf8ByteSize,
    Nat.add_comm _ before.utf8ByteSize, Source.slice_append before mid after hin]
  conv => lhs; rw [hstart, hstop]
  exact Source.slice_append opening mid closing hin

theorem cutsAt_shift (hne : run ≠ []) (h : FitsBetween (.ofText text) lo hi run) {offset : Nat}
    (h₁ : opening.utf8ByteSize ≤ offset)
    (h₂ : offset ≤ opening.utf8ByteSize + (segment (.ofText text) run).utf8ByteSize)
    (hcut : (Source.ofText (wrapped (.ofText text) run)).CutsAt offset) :
    (Source.ofText text).CutsAt (offset - opening.utf8ByteSize + firstStart run) := by
  obtain ⟨before, after, htext, hbefore, -⟩ := exists_segment hne h
  have hoffset : offset = opening.utf8ByteSize + (offset - opening.utf8ByteSize) := by omega
  have hin : offset - opening.utf8ByteSize ≤ (segment (.ofText text) run).utf8ByteSize := by
    omega
  rw [wrapped, hoffset, Source.cutsAt_append _ _ _ hin] at hcut
  rw [← hbefore, Nat.add_comm]
  have := (Source.cutsAt_append before _ after hin).2 hcut
  rwa [← htext] at this

/-- What takes the place of a run fits the file between the ends of the run. -/
theorem fits_replacement (hne : run ≠ []) (h : FitsBetween (.ofText text) lo hi run)
    (hp : parser.FitsOn (wrapped (.ofText text) run)) :
    FitsBetween (.ofText text) (firstStart run) (lastStop run)
      (replacement parser (.ofText text) run) := by
  obtain ⟨-, hle, -, hrun⟩ := h.firstStart_le hne
  rcases replacement_cases parser (.ofText text) run with ⟨-, heq⟩ |
      ⟨parse, members, hparse, hm, heq⟩
  · rwa [heq]
  obtain ⟨-, -, -, -, hlength⟩ := exists_segment hne h
  have hfits := fits_members (hp parse hparse) hm
  rw [heq]
  refine ⟨?_, fun shape hshape => ?_⟩
  · have := nestedForest_shift (firstStart run) hfits.nested (Nat.le_refl _)
    have hstart : opening.utf8ByteSize - opening.utf8ByteSize + firstStart run = firstStart run := by
      omega
    have hstop : opening.utf8ByteSize + (segment (.ofText text) run).utf8ByteSize -
        opening.utf8ByteSize + firstStart run = lastStop run := by omega
    rwa [hstart, hstop] at this
  · rw [forestPreorder_map] at hshape
    obtain ⟨inner, hinner, rfl⟩ := List.mem_map.1 hshape
    obtain ⟨h₁, h₂, h₃⟩ := hfits.nested.of_mem_preorder hinner
    have hcuts := hfits.cuts inner hinner
    exact ⟨cutsAt_shift hne h h₁ (Nat.le_trans h₂ h₃) hcuts.1,
      cutsAt_shift hne h (Nat.le_trans h₁ h₂) h₃ hcuts.2⟩

theorem fits_flatMap_recovered (parser : Parser) {ps : List Piece}
    (hps : ∀ piece ∈ ps, piece.statements ≠ [] ∧
      ∀ run, piece = .run run → parser.FitsOn (wrapped (.ofText text) run))
    (h : FitsBetween (.ofText text) lo hi (ps.flatMap Piece.statements)) :
    FitsBetween (.ofText text) lo hi (ps.flatMap (Piece.recovered parser (.ofText text))) := by
  induction ps generalizing lo with
  | nil => exact h
  | cons piece ps ih =>
    obtain ⟨hne, hrun⟩ := hps piece List.mem_cons_self
    rw [List.flatMap_cons] at h ⊢
    obtain ⟨hpiece, hrest, hhi⟩ := h.split hne
    obtain ⟨hlo, hmid, -, -⟩ := hpiece.firstStart_le hne
    have hrest := ih (fun p hp => hps p (List.mem_cons_of_mem piece hp)) hrest
    refine FitsBetween.append ?_ hrest (Nat.le_trans hlo hmid) hhi
    cases piece with
    | single t => exact hpiece
    | run ts => exact (fits_replacement hne hpiece (hrun ts rfl)).mono hlo (Nat.le_refl _)

theorem sublist_flatMap_of_mem {ps : List Piece} {piece : Piece} (h : piece ∈ ps) :
    piece.statements.Sublist (ps.flatMap Piece.statements) := by
  obtain ⟨front, back, rfl⟩ := List.append_of_mem h
  rw [List.flatMap_append, List.flatMap_cons]
  exact (List.sublist_append_left _ _).trans (List.sublist_append_right _ _)

theorem statements_ne_nil {piece : Piece} {ts : List ParseTree} (h : piece ∈ pieces source ts) :
    piece.statements ≠ [] := by
  cases piece with
  | single t => exact List.cons_ne_nil t []
  | run run =>
    obtain ⟨first, others, rfl, -⟩ := (of_mem_pieces h).2 run rfl
    exact List.cons_ne_nil first others

/-- The recovered tree fits the file as the parsed one does. -/
theorem fits_recover {root : ParseTree} (h : root.Fits (.ofText text))
    (hp : ∀ run, .run run ∈ pieces (.ofText text) root.children →
      parser.FitsOn (wrapped (.ofText text) run)) :
    (recover parser (.ofText text) root).Fits (.ofText text) := by
  cases root with
  | node shape ts =>
    have hts : FitsBetween (.ofText text) shape.start shape.stop ts := h.children
    rw [← flatMap_statements_pieces (.ofText text) ts] at hts
    have hnew := fits_flatMap_recovered parser (fun piece hpiece =>
      ⟨statements_ne_nil hpiece, fun run hrun => hp run (hrun ▸ hpiece)⟩) hts
    rw [← statements_eq_flatMap] at hnew
    refine ⟨⟨h.nested.1, h.nested.2.1, h.nested.2.2.1, hnew.nested⟩, fun s hs => ?_⟩
    rcases List.mem_cons.1 hs with rfl | hs
    · exact h.cuts s List.mem_cons_self
    · exact hnew.cuts s hs

/-- A statement of the recovered top level is one of the parsed top level, or it is a member of a
run moved back, and then each of its nodes covers the text that it covered in the wrapped run. -/
theorem of_mem_statements {ts : List ParseTree} (h : FitsBetween (.ofText text) lo hi ts)
    (hp : ∀ run, .run run ∈ pieces (.ofText text) ts →
      parser.FitsOn (wrapped (.ofText text) run))
    {t : ParseTree} (ht : t ∈ statements parser (.ofText text) ts) :
    t ∈ ts ∨ ∃ run parse member, .run run ∈ pieces (.ofText text) ts ∧
      parser (wrapped (.ofText text) run) = some parse ∧ Below parse.root member ∧
      t = member.map (shift opening.utf8ByteSize (firstStart run)) ∧
      ∀ shape ∈ member.preorder,
        (Source.ofText (wrapped (.ofText text) run)).textBetween shape.start shape.stop =
          (Source.ofText text).textBetween
            (shift opening.utf8ByteSize (firstStart run) shape).start
            (shift opening.utf8ByteSize (firstStart run) shape).stop := by
  rw [statements_eq_flatMap] at ht
  obtain ⟨piece, hpiece, ht⟩ := List.mem_flatMap.1 ht
  have hsub : piece.statements.Sublist ts := by
    rw [← flatMap_statements_pieces (.ofText text) ts]
    exact sublist_flatMap_of_mem hpiece
  cases piece with
  | single u => exact .inl (hsub.subset ht)
  | run run =>
    have hne : run ≠ [] := statements_ne_nil hpiece
    have hrun : FitsBetween (.ofText text) lo hi run := h.sublist hsub
    rcases replacement_cases parser (.ofText text) run with ⟨-, heq⟩ |
        ⟨parse, members, hparse, hm, heq⟩
    · exact .inl (hsub.subset (heq ▸ ht))
    have ht : t ∈ mapForest (shift opening.utf8ByteSize (firstStart run)) members := heq ▸ ht
    rw [mapForest_eq_map] at ht
    obtain ⟨member, hmember, rfl⟩ := List.mem_map.1 ht
    have hfits := fits_members (hp run hpiece parse hparse) hm
    refine .inr ⟨run, parse, member, hpiece, hparse, ?_, rfl, fun shape hshape => ?_⟩
    · obtain ⟨-, -, holder, hholder, body, hbody, -, -, rfl⟩ := members?_eq_some hm
      exact .child hholder (.child hbody (.child (List.mem_filter.1 hmember).1 .refl))
    · obtain ⟨h₁, h₂, h₃⟩ := hfits.nested.of_mem_preorder
        (mem_forestPreorder.2 ⟨member, hmember, hshape⟩)
      rw [Source.textBetween_eq, slice_shift hne hrun h₁ h₂ h₃, Source.textBetween_eq]

end

end Recovery

/-- For a file and for the texts that its runs are parsed again from, the grammar keeps its promise
about spans. -/
structure Parser.FitsFile (parser : Parser) (text : String) : Prop where
  file : parser.FitsOn text
  runs : ∀ parse, parser text = some parse → ∀ run,
    .run run ∈ Recovery.pieces (.ofText text) parse.root.children →
      parser.FitsOn (Recovery.wrapped (.ofText text) run)

end ComposeCheck
