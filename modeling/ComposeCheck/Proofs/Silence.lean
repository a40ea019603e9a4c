import ComposeCheck.Dispatch
import ComposeCheck.Suppression
import ComposeCheck.Proofs.EditPlaces
import ComposeCheck.Proofs.Family

/-!
# Where an annotation silences

A walk up the tree asks every node for the annotations in its `modifiers`, so that a declaration's
annotations silence what is inside it. A parameter's annotations stand beside the parameter, in
`parameter_modifiers`, where no walk asks: they silence nothing (`silenced_parameter_iff`).
-/

namespace ComposeCheck

/-! ## What a node holds, wherever it stands -/

namespace Node

/-- A node taken out of its file, with nothing above it. -/
def bare (n : Node) : Node := { n with path := [] }

/-- A function of nodes that only looks at what is in the node. -/
def Inward {β : Type} (f : Node → β) : Prop := ∀ n : Node, f n.bare = f n

section
variable {β : Type} {source : Source} {parent : Place} {path : List Frame}
  {before ts : List (Tree Place)} {f : Node → β} {ns ms : List Node} {n? m? : Option Node}

theorem Inward.map_eq (hf : Inward f) (h : ns.map bare = ms.map bare) : ns.map f = ms.map f := by
  have hbare (l : List Node) : l.map f = (l.map bare).map f := by
    rw [List.map_map]
    exact (List.map_congr_left fun n _ => hf n).symm
  rw [hbare ns, hbare ms, h]

theorem Inward.bind_eq {g : Node → Option β} (hg : Inward g) (h : n?.map bare = m?.map bare) :
    n?.bind g = m?.bind g := by
  have hbare (o : Option Node) : o.bind g = (o.map bare).bind g := by
    rw [Option.bind_map]
    exact (Option.bind_congr fun n _ => hg n).symm
  rw [hbare n?, hbare m?, h]

theorem Inward.map?_eq (hf : Inward f) (h : n?.map bare = m?.map bare) : n?.map f = m?.map f := by
  rw [Option.map_eq_bind, Option.map_eq_bind]
  exact Inward.bind_eq (fun n => congrArg some (hf n)) h

theorem map_bare_focuses : (focuses source path parent before ts).map bare =
    ts.map fun t => ⟨source, t, []⟩ := by
  induction ts generalizing before with
  | nil => rfl
  | cons t ts ih => exact congrArg (⟨source, t, []⟩ :: ·) ih

theorem map_bare_children_eq (n : Node) :
    n.children.map bare = n.tree.children.map fun t => ⟨n.source, t, []⟩ :=
  map_bare_focuses

theorem map_bare_children (n : Node) : n.bare.children.map bare = n.children.map bare :=
  (map_bare_children_eq n.bare).trans (map_bare_children_eq n).symm

theorem map_bare_childrenOfKind (kind : String) (n : Node) :
    (n.bare.childrenOfKind kind).map bare = (n.childrenOfKind kind).map bare := by
  have hkind (l : List Node) :
      (l.filter (·.kind == kind)).map bare = (l.map bare).filter (·.kind == kind) := by
    rw [List.filter_map]
    rfl
  rw [childrenOfKind, childrenOfKind, hkind, hkind, map_bare_children]

theorem map_bare_childOfKind? (kind : String) (n : Node) :
    (n.bare.childOfKind? kind).map bare = (n.childOfKind? kind).map bare := by
  have hhead (n : Node) : n.childOfKind? kind = (n.childrenOfKind kind).head? :=
    List.head?_filter.symm
  rw [hhead, hhead, ← List.head?_map, ← List.head?_map, map_bare_childrenOfKind]

theorem map_joinLevels (g : List Node → List Node) (hg : ∀ a b, g (a ++ b) = g a ++ g b)
    (as bs : List (List Node)) :
    (joinLevels as bs).map g = joinLevels (as.map g) (bs.map g) := by
  induction as generalizing bs with
  | nil => cases bs <;> rfl
  | cons a as ih =>
    cases bs with
    | nil => rfl
    | cons b bs => rw [joinLevels, List.map_cons, hg, ih]; rfl

mutual

theorem map_bare_levelsOf {source : Source} {path path' : List Frame} : (t : Tree Place) →
    (levelsOf source path t).map (·.map bare) = (levelsOf source path' t).map (·.map bare)
  | .node place ts => by
    rw [levelsOf, levelsOf, List.map_cons, List.map_cons, map_bare_levelsForest ts]
    rfl

theorem map_bare_levelsForest {source : Source} {parent : Place} {path path' : List Frame}
    {before before' : List (Tree Place)} : (ts : List (Tree Place)) →
      (levelsForest source path parent before ts).map (·.map bare) =
        (levelsForest source path' parent before' ts).map (·.map bare)
  | [] => rfl
  | t :: ts => by
    rw [levelsForest, levelsForest, map_joinLevels _ fun _ _ => List.map_append,
      map_joinLevels _ fun _ _ => List.map_append, map_bare_levelsOf t, map_bare_levelsForest ts]

end

theorem map_bare_descendantsOfKind (kind : String) (n : Node) :
    (n.bare.descendantsOfKind kind).map bare = (n.descendantsOfKind kind).map bare := by
  have hkind (n : Node) : (n.descendantsOfKind kind).map bare =
      ((levelsOf n.source n.path n.tree).map (·.map bare)).tail.flatten.filter
        (·.kind == kind) := by
    rw [← List.map_tail, ← List.map_flatten, List.filter_map]
    rfl
  rw [hkind, hkind, map_bare_levelsOf]
  rfl

end

end Node

open Node

/-! ## What annotations say -/

section
variable {ids : List String}

namespace AnnotationEntry

theorem map_bare_invocation? (n : Node) :
    (mk n.bare).invocation?.map bare = (mk n).invocation?.map bare :=
  map_bare_childOfKind? _ n

/-- What stands below the constructor call. -/
theorem map_bare_invocation?_bind (kind : String) (n : Node) :
    ((mk n.bare).invocation?.bind (·.childOfKind? kind)).map bare =
      ((mk n).invocation?.bind (·.childOfKind? kind)).map bare := by
  have hbelow : Inward fun m => (m.childOfKind? kind).map bare := map_bare_childOfKind? kind
  rw [Option.map_bind, Option.map_bind]
  exact hbelow.bind_eq (map_bare_invocation? n)

theorem map_bare_type? (n : Node) : (mk n.bare).type?.map bare = (mk n).type?.map bare := by
  rw [type?, type?, Option.map_or, Option.map_or, map_bare_invocation?_bind]
  exact congrArg (Option.or · _) (map_bare_childOfKind? _ n)

theorem inward_name? : Inward fun n => (mk n).name? := by
  have hname : Inward fun type => (type.childrenOfKind "identifier").getLast?.map Node.text := by
    intro type
    change Option.map _ _ = Option.map _ _
    rw [← List.getLast?_map, ← List.getLast?_map,
      Inward.map_eq (fun _ => rfl) (map_bare_childrenOfKind "identifier" type)]
  exact fun n => hname.bind_eq (map_bare_type? n)

theorem inward_strings : Inward fun n => (mk n).strings := by
  have hliteral : Inward fun literal : Node =>
      String.join ((literal.childrenOfKind "string_content").map Node.text) := fun literal =>
    congrArg String.join
      (Inward.map_eq (fun _ => rfl) (map_bare_childrenOfKind "string_content" literal))
  have hstrings : Inward fun arguments : Node =>
      (arguments.descendantsOfKind "string_literal").map fun literal =>
        String.join ((literal.childrenOfKind "string_content").map Node.text) := fun arguments =>
    hliteral.map_eq (map_bare_descendantsOfKind "string_literal" arguments)
  have hgetD (entry : AnnotationEntry) : entry.strings =
      ((entry.invocation?.bind (·.childOfKind? "value_arguments")).map fun arguments =>
        (arguments.descendantsOfKind "string_literal").map fun literal =>
          String.join ((literal.childrenOfKind "string_content").map Node.text)).getD [] := by
    rw [strings]
    cases entry.invocation?.bind (·.childOfKind? "value_arguments") <;> rfl
  intro n
  change strings _ = strings _
  rw [hgetD, hgetD, hstrings.map?_eq (map_bare_invocation?_bind "value_arguments" n)]

theorem inward_suppresses (ids : List String) : Inward fun n => (mk n).suppresses ids := by
  intro n
  have hname : (mk n.bare).name? = (mk n).name? := inward_name? n
  have hstrings : (mk n.bare).strings = (mk n).strings := inward_strings n
  change suppresses ids _ = suppresses ids _
  rw [suppresses, suppresses, hname, hstrings]

end AnnotationEntry

namespace Node

theorem any_children {q : Node → Bool} (hq : Inward q) (n : Node) :
    n.children.any q = n.tree.children.any fun t => q ⟨n.source, t, []⟩ := by
  have hbare (l : List Node) : l.any q = (l.map bare).any q := by
    rw [List.any_map]
    exact congrArg l.any (funext fun n => (hq n).symm)
  rw [hbare, map_bare_children_eq, List.any_map]
  rfl

/-- The annotations of a kind among the children. -/
theorem any_ofNode? {kind : String} (hkind : kind = "annotation" ∨ kind = "file_annotation")
    (n : Node) :
    ((n.childrenOfKind kind).filterMap AnnotationEntry.ofNode?).any (·.suppresses ids) =
      n.tree.children.any fun t =>
        t.label.kind == kind && AnnotationEntry.suppresses ids ⟨⟨n.source, t, []⟩⟩ := by
  have hinward : Inward fun c => c.kind == kind && AnnotationEntry.suppresses ids ⟨c⟩ := fun c =>
    congrArg (c.kind == kind && ·) (AnnotationEntry.inward_suppresses ids c)
  rw [List.any_filterMap, childrenOfKind, List.any_filter]
  refine .trans (congrArg n.children.any (funext fun c => ?_)) (any_children hinward n)
  cases hc : c.kind == kind with
  | false => rfl
  | true =>
    rw [AnnotationEntry.ofNode?, if_pos (beq_iff_eq.1 hc ▸ hkind)]

theorem any_among (n : Node) : (AnnotationEntry.among n).any (·.suppresses ids) =
    n.tree.children.any fun t =>
      t.label.kind == "annotation" && AnnotationEntry.suppresses ids ⟨⟨n.source, t, []⟩⟩ :=
  any_ofNode? (.inl rfl) n

theorem any_ofFile (n : Node) : (AnnotationEntry.ofFile n).any (·.suppresses ids) =
    n.tree.children.any fun t =>
      t.label.kind == "file_annotation" && AnnotationEntry.suppresses ids ⟨⟨n.source, t, []⟩⟩ :=
  any_ofNode? (.inr rfl) n

theorem any_ofDeclaration (n : Node) : (AnnotationEntry.ofDeclaration n).any (·.suppresses ids) =
    (n.tree.children.find? (·.label.kind == "modifiers")).any fun t =>
      (AnnotationEntry.among ⟨n.source, t, []⟩).any (·.suppresses ids) := by
  have hinward : Inward fun holder => (AnnotationEntry.among holder).any (·.suppresses ids) :=
    fun holder => (any_among holder.bare).trans (any_among holder).symm
  have hholder : (n.childOfKind? "modifiers").map bare =
      (n.tree.children.find? (·.label.kind == "modifiers")).map fun t => ⟨n.source, t, []⟩ := by
    have hfind (l : List Node) : (l.find? (·.kind == "modifiers")).map bare =
        (l.map bare).find? (·.kind == "modifiers") := by
      rw [List.find?_map]
      rfl
    rw [childOfKind?, hfind, map_bare_children_eq, List.find?_map]
    rfl
  have hany : (AnnotationEntry.ofDeclaration n).any (·.suppresses ids) =
      ((n.childOfKind? "modifiers").map bare).any fun holder =>
        (AnnotationEntry.among holder).any (·.suppresses ids) := by
    rw [AnnotationEntry.ofDeclaration]
    cases n.childOfKind? "modifiers" with
    | none => rfl
    | some holder => exact (hinward holder).symm
  rw [hany, hholder, Option.any_map]

/-! ## Suppression, step by step up the tree -/

variable {n p r : Node}

theorem isSuppressed_of_parent? (h : n.parent? = some p) : n.isSuppressed ids =
    ((AnnotationEntry.ofDeclaration n).any (·.suppresses ids) || p.isSuppressed ids) := by
  obtain ⟨source, t, path⟩ := n
  cases path with
  | nil => cases h
  | cons frame path =>
    cases h
    simp only [isSuppressed, root, ancestors, ancestorsOf, List.any_cons, List.getLast?_cons,
      Option.getD_some, Bool.or_assoc]

theorem isSuppressed_of_nil (source : Source) (t : Tree Place) :
    isSuppressed ids ⟨source, t, []⟩ =
      ((AnnotationEntry.ofDeclaration ⟨source, t, []⟩).any (·.suppresses ids) ||
        (AnnotationEntry.ofFile ⟨source, t, []⟩).any (·.suppresses ids)) := by
  simp [isSuppressed, root, ancestors, ancestorsOf]

/-- What silences a node inside `r`: an annotation in between, or what silences all of `r`. -/
theorem isSuppressed_iff_of_mem_preorder {n : Node} (hr : r.parent? = some p)
    (h : n ∈ r.preorder) :
    n.isSuppressed ids = true ↔
      (∃ m ∈ r.preorder, n ∈ m.preorder ∧
        ∃ entry ∈ AnnotationEntry.ofDeclaration m, entry.suppresses ids = true) ∨
      p.isSuppressed ids = true := by
  -- The walk goes up from `n`: what its parent is told is known, one step nearer to `r`.
  rcases parent?_of_mem_preorderOf h with rfl | ⟨q, hq, hp⟩
  · rw [isSuppressed_of_parent? hr, Bool.or_eq_true, List.any_eq_true]
    refine or_congr_left ⟨fun hentry => ⟨r, h, h, hentry⟩, ?_⟩
    rintro ⟨m, hm, hn, hentry⟩
    exact mem_preorder_antisymm hm hn ▸ hentry
  · have hlength := length_path_of_parent? hp
    rw [isSuppressed_of_parent? hp, Bool.or_eq_true, List.any_eq_true,
      isSuppressed_iff_of_mem_preorder hr hq, ← or_assoc]
    refine or_congr_left ?_
    constructor
    · rintro (hentry | ⟨m, hm, hqm, hentry⟩)
      · exact ⟨n, h, self_mem_preorder n, hentry⟩
      · exact ⟨m, hm, (mem_preorder_iff_of_parent? hp).2 (.inr hqm), hentry⟩
    · rintro ⟨m, hm, hnm, hentry⟩
      rcases (mem_preorder_iff_of_parent? hp).1 hnm with rfl | hqm
      · exact .inl hentry
      · exact .inr ⟨m, hm, hqm, hentry⟩
termination_by n.path.length

theorem exists_ancestor_of_mem_path {frame : Frame} (h : frame ∈ n.path) :
    ∃ m ∈ n.ancestors, m.place = frame.parent := by
  obtain ⟨source, t, path⟩ := n
  induction path generalizing t with
  | nil => exact absurd h List.not_mem_nil
  | cons first path ih =>
    rw [ancestors, ancestorsOf]
    rcases List.mem_cons.1 h with rfl | h
    · exact ⟨_, List.mem_cons_self, rfl⟩
    · obtain ⟨m, hm, hplace⟩ := ih _ h
      exact ⟨m, List.mem_cons_of_mem _ hm, hplace⟩

end Node

/-! ## Trees that say the same -/

/-- Two trees that nobody who asks for annotations, from the outside, tells apart. -/
structure Tree.SaysTheSame (source : Source) (ids : List String) (t t' : Tree Place) : Prop where
  label_eq : t.label = t'.label
  among_eq : (AnnotationEntry.among ⟨source, t, []⟩).any (·.suppresses ids) =
    (AnnotationEntry.among ⟨source, t', []⟩).any (·.suppresses ids)
  ofDeclaration_eq : (AnnotationEntry.ofDeclaration ⟨source, t, []⟩).any (·.suppresses ids) =
    (AnnotationEntry.ofDeclaration ⟨source, t', []⟩).any (·.suppresses ids)
  ofFile_eq : (AnnotationEntry.ofFile ⟨source, t, []⟩).any (·.suppresses ids) =
    (AnnotationEntry.ofFile ⟨source, t', []⟩).any (·.suppresses ids)

/-- The kinds of nodes whose contents are what an annotation says. -/
def annotationKinds : List String := ["annotation", "file_annotation"]

namespace Tree.SaysTheSame

variable {source : Source} {t t' : Tree Place} {place : Place} {ts ts' : List (Tree Place)}
  {path : List Frame}

/-- One step up, to a parent that has `t` or `t'` at the same place among its children. -/
theorem above (h : SaysTheSame source ids t t') (ht : t.label.kind ∉ annotationKinds)
    (before after : List (Tree Place)) :
    SaysTheSame source ids (.node place (before ++ t :: after))
      (.node place (before ++ t' :: after)) := by
  have hother (kind : String) (hkind : kind ∈ annotationKinds) : (t.label.kind == kind) = false :=
    beq_eq_false_iff_ne.2 fun heq => ht (heq ▸ hkind)
  have hother' (kind : String) (hkind : kind ∈ annotationKinds) : (t'.label.kind == kind) = false :=
    h.label_eq ▸ hother kind hkind
  refine ⟨rfl, ?_, ?_, ?_⟩
  · simp only [Node.any_among, Tree.children, List.any_append, List.any_cons, Bool.false_and,
      hother "annotation" (by decide), hother' "annotation" (by decide)]
  · -- The holder is `t`, or it stands beside `t` in both trees.
    simp only [Node.any_ofDeclaration, Tree.children, List.find?_append, List.find?_cons,
      h.label_eq]
    cases before.find? (·.label.kind == "modifiers") with
    | some holder => rfl
    | none =>
      cases t'.label.kind == "modifiers" with
      | true => exact h.among_eq
      | false => rfl
  · simp only [Node.any_ofFile, Tree.children, List.any_append, List.any_cons, Bool.false_and,
      hother "file_annotation" (by decide), hother' "file_annotation" (by decide)]

/-- Trees that say the same can stand for each other wherever no annotation is around them. -/
theorem isSuppressed_eq (h : SaysTheSame source ids t t') (ht : t.label.kind ∉ annotationKinds)
    (hpath : ∀ frame ∈ path, frame.parent.kind ∉ annotationKinds) :
    Node.isSuppressed ids ⟨source, t, path⟩ = Node.isSuppressed ids ⟨source, t', path⟩ := by
  induction path generalizing t t' with
  | nil => rw [Node.isSuppressed_of_nil, Node.isSuppressed_of_nil, h.ofDeclaration_eq, h.ofFile_eq]
  | cons frame path ih =>
    have hdeclaration : (AnnotationEntry.ofDeclaration ⟨source, t, frame :: path⟩).any
        (·.suppresses ids) = (AnnotationEntry.ofDeclaration ⟨source, t', frame :: path⟩).any
        (·.suppresses ids) := by
      have := h.ofDeclaration_eq
      rwa [Node.any_ofDeclaration, Node.any_ofDeclaration] at this ⊢
    have hup (u : Tree Place) : Node.isSuppressed ids ⟨source, u, frame :: path⟩ =
        ((AnnotationEntry.ofDeclaration ⟨source, u, frame :: path⟩).any (·.suppresses ids) ||
          Node.isSuppressed ids ⟨source,
            .node frame.parent (frame.before.reverse ++ u :: frame.after), path⟩) :=
      Node.isSuppressed_of_parent? rfl
    rw [hup, hup, hdeclaration]
    refine congrArg (_ || ·) (ih (h.above ht _ _) ?_ ?_)
    · exact hpath frame List.mem_cons_self
    · exact fun frame' hframe' => hpath frame' (List.mem_cons_of_mem frame hframe')

/-- Parameter lists with the same parameters say the same, whatever is written before them. -/
theorem of_parameter_modifiers
    (h : ts.filter (·.label.kind != "parameter_modifiers") =
      ts'.filter (·.label.kind != "parameter_modifiers")) :
    SaysTheSame source ids (.node place ts) (.node place ts') := by
  have hpick (kind : String) (hkind : kind ≠ "parameter_modifiers") :
      ts.filter (·.label.kind == kind) = ts'.filter (·.label.kind == kind) := by
    have hkept (us : List (Tree Place)) : us.filter (·.label.kind == kind) =
        (us.filter (·.label.kind != "parameter_modifiers")).filter (·.label.kind == kind) := by
      rw [List.filter_filter]
      refine List.filter_congr fun t _ => ?_
      cases heq : t.label.kind == kind with
      | false => rw [Bool.false_and]
      | true => rw [Bool.true_and, bne_iff_ne.2 (beq_iff_eq.1 heq ▸ hkind)]
    rw [hkept ts, hkept ts', h]
  refine ⟨rfl, ?_, ?_, ?_⟩
  · rw [Node.any_among, Node.any_among, ← List.any_filter, ← List.any_filter]
    exact congrArg (List.any · _) (hpick _ (by decide))
  · rw [Node.any_ofDeclaration, Node.any_ofDeclaration, ← List.head?_filter, ← List.head?_filter]
    exact congrArg (Option.any _) (congrArg List.head? (hpick _ (by decide)))
  · rw [Node.any_ofFile, Node.any_ofFile, ← List.any_filter, ← List.any_filter]
    exact congrArg (List.any · _) (hpick _ (by decide))

end Tree.SaysTheSame

/-! ## Parameters -/

namespace Parameter

/-- The nodes that hold modifiers, those of the parameters and the waiting ones. -/
def Reading.HoldersIn (nodes : List Node) (state : Reading) : Prop :=
  (∀ holder, state.modifiers? = some holder →
    holder ∈ nodes ∧ holder.kind = "parameter_modifiers") ∧
  ∀ p ∈ state.found, ∀ holder, p.modifiers? = some holder →
    holder ∈ nodes ∧ holder.kind = "parameter_modifiers"

theorem Reading.holdersIn_step {nodes : List Node} {state : Reading} {child : Node}
    (h : state.HoldersIn nodes) (hchild : child ∈ nodes) : (state.step child).HoldersIn nodes := by
  rw [Reading.step]
  split
  · exact h
  split
  case isTrue hkind =>
    refine ⟨fun holder hholder => ?_, h.2⟩
    obtain rfl := Option.some.inj hholder
    exact ⟨hchild, hkind⟩
  split
  · refine ⟨fun _ hholder => absurd hholder (Option.some_ne_none _).symm, fun p hp => ?_⟩
    rcases List.mem_cons.1 hp with rfl | hp
    · exact h.1
    · exact h.2 p hp
  split
  · exact h
  split
  · exact h
  split
  · split
    · exact h
    case h_2 last earlier hfound =>
      refine ⟨h.1, fun p hp => ?_⟩
      rcases List.mem_cons.1 hp with rfl | hp
      · exact h.2 last (hfound ▸ List.mem_cons_self)
      · exact h.2 p (hfound ▸ List.mem_cons_of_mem last hp)
  · exact h

theorem holder_of_mem_allIn {list holder : Node} {p : Parameter} (h : p ∈ allIn list)
    (hholder : p.modifiers? = some holder) :
    holder ∈ list.children ∧ holder.kind = "parameter_modifiers" := by
  have hread : (list.children.foldl Reading.step ⟨[], none, false⟩).HoldersIn list.children :=
    List.foldlRecOn list.children Reading.step
      ⟨fun _ hnone => absurd hnone (Option.some_ne_none _).symm,
        fun _ hp => absurd hp List.not_mem_nil⟩
      fun _ hstate _ hchild => Reading.holdersIn_step hstate hchild
  exact hread.2 p (List.mem_reverse.1 h) holder hholder

end Parameter

theorem mem_annotations_iff {p : Parameter} {entry : AnnotationEntry} :
    entry ∈ p.annotations ↔ ∃ holder, p.modifiers? = some holder ∧
      entry ∈ AnnotationEntry.among holder := by
  rw [Parameter.annotations]
  cases p.modifiers? <;> simp

theorem AnnotationEntry.node_mem_of_mem_among {holder : Node} {entry : AnnotationEntry}
    (h : entry ∈ among holder) : entry.node ∈ holder.children := by
  obtain ⟨n, hn, hentry⟩ := List.mem_filterMap.1 h
  rw [ofNode?] at hentry
  split at hentry
  · cases hentry
    exact (List.mem_filter.1 hn).1
  · cases hentry

/-- A node of a parameter is silenced by annotations inside the parameter and by what silences the
whole parameter list. The parameter's own annotations stand in a sibling, and what silences the list
is the same with other siblings of that kind, or none. -/
theorem silenced_parameter_iff (list : Node) (ids : List String) :
    (∀ p ∈ Parameter.allIn list,
      (∀ n ∈ p.node.preorder, n.isSuppressed ids = true ↔
        (∃ m ∈ p.node.preorder, n ∈ m.preorder ∧
          ∃ entry ∈ AnnotationEntry.ofDeclaration m, entry.suppresses ids = true) ∨
        list.isSuppressed ids = true) ∧
      ∀ entry ∈ p.annotations, ∃ holder ∈ list.children,
        holder.kind = "parameter_modifiers" ∧ entry.node ∈ holder.children) ∧
    (list.kind ∉ annotationKinds → (∀ m ∈ list.ancestors, m.kind ∉ annotationKinds) →
      ∀ ts, ts.filter (·.label.kind != "parameter_modifiers") =
          list.tree.children.filter (·.label.kind != "parameter_modifiers") →
        Node.isSuppressed ids { list with tree := .node list.place ts } =
          list.isSuppressed ids) := by
  refine ⟨fun p hp => ⟨fun n hn => ?_, fun entry hentry => ?_⟩, fun hlist hpath ts hts => ?_⟩
  · obtain ⟨i, hi⟩ := List.mem_iff_getElem?.1 (Parameter.of_mem_allIn hp).1
    exact Node.isSuppressed_iff_of_mem_preorder (Node.of_getElem?_children hi).1 hn
  · obtain ⟨holder, hholder, hentry⟩ := mem_annotations_iff.1 hentry
    obtain ⟨hmem, hkind⟩ := Parameter.holder_of_mem_allIn hp hholder
    exact ⟨holder, hmem, hkind, AnnotationEntry.node_mem_of_mem_among hentry⟩
  · obtain ⟨source, ⟨place, us⟩, path⟩ := list
    have hsame : Tree.SaysTheSame source ids (.node place ts) (.node place us) :=
      .of_parameter_modifiers hts
    refine hsame.isSuppressed_eq hlist fun frame hframe => ?_
    obtain ⟨m, hm, hplace⟩ := Node.exists_ancestor_of_mem_path hframe
    exact hplace ▸ hpath m hm

end

/-! ## A parameter whose annotation is not heard -/

def pardonedFile : String :=
  "@Composable\nfun O(@Suppress(\"ModifierWithoutDefault\") modifier: Modifier) \x7b\x7d\n"

def pardonedRoot : ParseTree :=
  let named (kind : String) (start stop : Nat) (ts : List ParseTree) : ParseTree :=
    .node ⟨kind, true, false, start, stop⟩ ts
  let token (kind : String) (start stop : Nat) : ParseTree :=
    .node ⟨kind, false, false, start, stop⟩ []
  let name (start stop : Nat) : ParseTree := named "identifier" start stop []
  let type (start stop : Nat) : ParseTree := named "user_type" start stop [name start stop]
  let rule := named "value_argument" 28 52 [named "string_literal" 28 52
    [token "\"" 28 29, named "string_content" 29 51 [], token "\"" 51 52]]
  let suppress := named "annotation" 18 53 [token "@" 18 19,
    named "constructor_invocation" 19 53 [type 19 27, named "value_arguments" 27 53
      [token "(" 27 28, rule, token ")" 52 53]]]
  let parameters := named "function_value_parameters" 17 73 [token "(" 17 18,
    named "parameter_modifiers" 18 53 [suppress],
    named "parameter" 54 72 [name 54 62, token ":" 62 63, type 64 72], token ")" 72 73]
  let modifiers := named "modifiers" 0 11
    [named "annotation" 0 11 [token "@" 0 1, type 1 11]]
  named "source_file" 0 77 [named "function_declaration" 0 76
    [modifiers, token "fun" 12 15, name 16 17, parameters,
      named "function_body" 74 76 [named "block" 74 76 [token "\x7b" 74 75, token "\x7d" 75 76]]]]

def pardonedTree : SyntaxTree :=
  ⟨.ofText pardonedFile, SyntaxTree.number (.ofText pardonedFile) 0 pardonedRoot, false⟩

def pardonedList : Node :=
  (pardonedTree.rootNode.descendantOfKind? "function_value_parameters").getD pardonedTree.rootNode

def pardonedIds : List String := ["ModifierWithoutDefault"]

def pardonedRun : Run :=
  (dispatch pardonedTree (.of "" "A.kt" pardonedFile) [⟨Rules.modifierWithoutDefault, .error⟩] .fix
    (fun _ => none) .empty).1

/-- The annotation names the rule, and the parameter is reported and rewritten all the same. -/
theorem silenced_parameter_iff_pardoned :
    ∃ p, Parameter.allIn pardonedList = [p] ∧
      p.annotations.map (·.suppresses pardonedIds) = [true] ∧
      p.node.isSuppressed pardonedIds = false ∧
      (¬∃ m ∈ p.node.preorder, p.node ∈ m.preorder ∧
        ∃ entry ∈ AnnotationEntry.ofDeclaration m, entry.suppresses pardonedIds = true) ∧
      Node.isSuppressed pardonedIds { pardonedList with
        tree := .node pardonedList.place (pardonedList.tree.children.filter
          (·.label.kind != "parameter_modifiers")) } = pardonedList.isSuppressed pardonedIds ∧
      (pardonedRun.violations (.of "" "A.kt" pardonedFile)).map (·.code) = ["CL017"] ∧
      pardonedRun.rewrites.texts = [(p.node.id, "modifier: Modifier = Modifier")] := by
  have hread : (Parameter.allIn pardonedList).map (fun p =>
      (p.annotations.map (·.suppresses pardonedIds), p.node.isSuppressed pardonedIds, p.node.id)) =
        [([true], false, 25)] := by
    decide +kernel
  have hrun : ((pardonedRun.violations (.of "" "A.kt" pardonedFile)).map (·.code),
      pardonedRun.rewrites.texts) = (["CL017"], [(25, "modifier: Modifier = Modifier")]) := by
    decide +kernel
  obtain ⟨p, _, hlist, hp, hrest⟩ := List.map_eq_cons_iff.1 hread
  obtain rfl := List.map_eq_nil_iff.1 hrest
  simp only [Prod.mk.injEq] at hp
  obtain ⟨htells, hsilenced, hid⟩ := hp
  have hmem : p ∈ Parameter.allIn pardonedList := hlist ▸ List.mem_singleton_self p
  obtain ⟨hparameters, hsiblings⟩ := silenced_parameter_iff pardonedList pardonedIds
  refine ⟨p, hlist, htells, hsilenced, ?_, ?_, (Prod.mk.inj hrun).1, ?_⟩
  · intro hinside
    have hiff := (hparameters p hmem).1 p.node (Node.self_mem_preorder p.node)
    exact Bool.false_ne_true (hsilenced.symm.trans (hiff.2 (.inl hinside)))
  · exact hsiblings (by decide +kernel) (by decide +kernel) _ (by simp [List.filter_filter])
  · rw [hid]
    exact (Prod.mk.inj hrun).2

end ComposeCheck
