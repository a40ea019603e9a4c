import ComposeCheck.Proofs.Derivations
import ComposeCheck.Proofs.Exclusive
import ComposeCheck.Proofs.Shadows
import ComposeCheck.Rules.LambdaParamInEffect

/-!
# Identifiers that read values

Whether an identifier reads a value is told from a list of places where it does not; everywhere
else it does (`Node.isReference_eq_false_iff`). The list knows declarations, labels, types, segments
and the names behind a receiver, but it does not know them everywhere: a name behind a bare `::`,
the name of an infix call and the names that some declarations introduce pass for reads
(`Node.Plays.isReference_iff`). The lambdas of an effect are searched for reads, so a name behind a
receiver is never reported, and a name in another role only where it passes for a read
(`Rules.reported_names_read_values`).
-/

namespace ComposeCheck

/-- What an identifier may be instead of a read of a value. -/
inductive Role where
  | declaration
  | label
  | type
  | segment
  | member

namespace Node

/-- Nodes that introduce a name; a value that belongs to it stands behind a `=`. -/
def declaringKinds : List String :=
  ["parameter", "class_parameter", "variable_declaration", "function_declaration",
    "class_declaration", "object_declaration", "companion_object", "type_alias", "type_parameter",
    "enum_entry", "setter", "catch_block", "import"]

/-- An identifier has a role where it stands. -/
def Plays (n : Node) (role : Role) : Prop :=
  ∃ parent, n.parent? = some parent ∧
    match role with
    | .declaration =>
      parent.kind ∈ declaringKinds ∧ ∀ s ∈ n.siblingsBefore, isToken "=" s = false
    | .label => parent.kind = "value_argument" ∧ ∃ comments assign value,
      n.siblingsAfter = comments ++ assign :: value ∧ (∀ c ∈ comments, c.isComment = true) ∧
        isToken "=" assign = true
    | .type => parent.kind = "user_type" ∨ parent.kind = "type_constraint"
    | .segment => parent.kind = "qualified_identifier"
    | .member =>
      (parent.kind = "navigation_expression" ∧
        ∃ s ∈ n.siblingsBefore, ∃ operator ∈ [".", "?.", "::"], isToken operator s = true) ∨
      (parent.kind = "callable_reference" ∧ ∃ s ∈ n.siblingsBefore, isToken "::" s = true) ∨
      (parent.kind = "infix_expression" ∧ (∃ s ∈ n.siblingsBefore, s.isContent = true) ∧
        ∃ s ∈ n.siblingsAfter, s.isContent = true)

/-- Nothing but tokens and comments stands before a node, so that it is a receiver. -/
def IsReceiver (n : Node) : Prop := n.isContent = true ∧ ∀ s ∈ n.siblingsBefore, s.isContent = false

/-- An identifier stands where none is taken for a read. -/
def IsDenied (n : Node) : Prop :=
  ∃ parent, n.parent? = some parent ∧ (parent.kind ∈ namingKinds ∨
    (parent.kind = "value_argument" ∧
      ∃ assign ∈ n.siblingsAfter.head?, isToken "=" assign = true) ∨
    (parent.kind = "navigation_expression" ∧ ¬n.IsReceiver))

/-- Kinds of nodes below which an identifier has a role that is not known. -/
def unlistedKinds : List String :=
  ["callable_reference", "infix_expression", "companion_object", "enum_entry", "type_parameter",
    "type_constraint", "setter", "catch_block", "import"]

/-- An identifier stands where it is taken for a read, whatever its role. -/
def Slips (n : Node) : Prop :=
  ∃ parent, n.parent? = some parent ∧ (parent.kind ∈ unlistedKinds ∨
    (parent.kind = "value_argument" ∧ ∃ c ∈ n.siblingsAfter.head?, c.isComment = true) ∨
    (parent.kind = "navigation_expression" ∧ n.IsReceiver))

section
variable {tree : SyntaxTree} {n p scope : Node} {role : Role} {name : String}

theorem isToken_eq_false_of_isComment (h : n.isComment = true) : isToken "=" n = false := by
  rw [isComment, Shape.isComment, Bool.or_eq_true, beq_iff_eq, beq_iff_eq] at h
  rw [isToken, Bool.and_eq_false_iff, beq_eq_false_iff_ne, kind]
  right
  rcases h with h | h <;> rw [h] <;> decide

/-- The first named child of a node is the one that is a receiver. -/
theorem firstNamedChild?_any_iff (hn : tree.root.NumberedFrom 0)
    (hmem : n ∈ tree.rootNode.preorder) (hp : n.parent? = some p) :
    p.firstNamedChild?.any (· == n) = true ↔ n.IsReceiver := by
  have hchildren := children_eq_of_parent? hp
  constructor
  · intro h
    obtain ⟨c, hc, hsame⟩ := (Option.any_eq_true _ _).1 h
    have hfirst := List.mem_filter.1 (List.mem_of_mem_head? hc)
    have hcmem := mem_preorder_trans (SyntaxTree.parent?_mem hmem hp)
      (mem_preorder_of_mem_children hfirst.1)
    obtain rfl := (SyntaxTree.beq_iff_of_mem hn hcmem hmem).1 hsame
    refine ⟨hfirst.2, fun s hs => Bool.eq_false_iff.2 fun hcontent => ?_⟩
    -- A node with content further in front would come first.
    rw [firstNamedChild?, namedChildren, hchildren, List.filter_append, List.head?_append] at hc
    obtain ⟨first, hhead⟩ : ∃ first, (c.siblingsBefore.reverse.filter isContent).head? =
        some first := by
      rw [← Option.isSome_iff_exists, List.isSome_head?]
      exact List.ne_nil_of_mem (List.mem_filter.2 ⟨List.mem_reverse.2 hs, hcontent⟩)
    rw [hhead, Option.some_or] at hc
    obtain rfl := Option.some.inj hc
    have hbefore := List.mem_reverse.1 (List.mem_filter.1 (List.mem_of_mem_head? hhead)).1
    exact Nat.lt_irrefl _ ((SyntaxTree.mem_siblingsBefore_iff hn hmem hp).1 hbefore).2
  · rintro ⟨hcontent, hbefore⟩
    have hnone : n.siblingsBefore.reverse.filter isContent = [] :=
      List.filter_eq_nil_iff.2 fun s hs => by simp [hbefore s (List.mem_reverse.1 hs)]
    rw [firstNamedChild?, namedChildren, hchildren, List.filter_append, hnone, List.nil_append,
      List.filter_cons_of_pos hcontent, List.head?_cons, Option.any_some]
    exact beq_iff.2 rfl

theorem isReference_eq_false_iff (hn : tree.root.NumberedFrom 0)
    (hmem : n ∈ tree.rootNode.preorder) :
    n.isReference = false ↔ n.parent? = none ∨ n.IsDenied := by
  rw [isReference, IsDenied]
  cases hp : n.parent? with
  | none => simp
  | some parent =>
    simp only [Option.some.injEq, exists_eq_left', reduceCtorEq, false_or]
    split
    case isTrue hkind => simp [hkind, namingKinds, next?, Option.any_eq_true]
    case isFalse hlabel =>
      split
      case isTrue hkind =>
        rw [← Bool.not_eq_true, firstNamedChild?_any_iff hn hmem hp]
        simp [hkind, namingKinds]
      case isFalse hmember => simp [hlabel, hmember]

theorem Slips.not_isDenied (h : n.Slips) : ¬n.IsDenied := by
  rintro ⟨_, hp', hdenied⟩
  obtain ⟨parent, hp, h⟩ := h
  obtain rfl := Option.some.inj (hp.symm.trans hp')
  have hkinds : ∀ kind ∈ unlistedKinds, kind ∉ namingKinds ∧ kind ≠ "value_argument" ∧
      kind ≠ "navigation_expression" := by decide
  rcases h with hkind | ⟨hkind, c, hc, hcomment⟩ | ⟨hkind, hreceiver⟩
  · obtain ⟨hnaming, hlabel, hmember⟩ := hkinds _ hkind
    rcases hdenied with h | ⟨h, -⟩ | ⟨h, -⟩
    exacts [hnaming h, hlabel h, hmember h]
  · rcases hdenied with h | ⟨-, assign, hassign, htoken⟩ | ⟨h, -⟩
    · exact absurd (hkind ▸ h) (by decide)
    · obtain rfl := Option.some.inj (hc.symm.trans hassign)
      rw [isToken_eq_false_of_isComment hcomment] at htoken
      cases htoken
    · exact absurd (hkind.symm.trans h) (by decide)
  · rcases hdenied with h | ⟨h, -⟩ | ⟨-, h⟩
    · exact absurd (hkind ▸ h) (by decide)
    · exact absurd (hkind.symm.trans h) (by decide)
    · exact h hreceiver

/-- In each of its roles an identifier is denied or slips. -/
theorem Plays.slips (h : n.Plays role) (hallowed : ¬n.IsDenied) : n.Slips := by
  obtain ⟨parent, hp, h⟩ := h
  have hnaming : parent.kind ∉ namingKinds := fun hkind => hallowed ⟨parent, hp, .inl hkind⟩
  cases role with
  | declaration =>
    have hkinds : ∀ kind ∈ declaringKinds, kind ∈ namingKinds ∨ kind ∈ unlistedKinds := by decide
    exact ⟨parent, hp, .inl ((hkinds _ h.1).resolve_left hnaming)⟩
  | label =>
    obtain ⟨hkind, comments, assign, value, hafter, hcomments, hassign⟩ := h
    cases comments with
    | nil =>
      exact absurd ⟨parent, hp, .inr (.inl ⟨hkind, assign, by rw [hafter]; rfl, hassign⟩)⟩ hallowed
    | cons c comments =>
      exact ⟨parent, hp, .inr (.inl ⟨hkind, c, by rw [hafter]; rfl, hcomments c (by simp)⟩)⟩
  | type =>
    rcases h with hkind | hkind
    · exact absurd (hkind ▸ by decide) hnaming
    · exact ⟨parent, hp, .inl (hkind ▸ by decide)⟩
  | segment => exact absurd (h ▸ by decide) hnaming
  | member =>
    rcases h with ⟨hkind, -⟩ | ⟨hkind, -⟩ | ⟨hkind, -⟩
    · refine ⟨parent, hp, .inr (.inr ⟨hkind, ?_⟩)⟩
      exact not_not.1 fun hnot => hallowed ⟨parent, hp, .inr (.inr ⟨hkind, hnot⟩)⟩
    · exact ⟨parent, hp, .inl (hkind ▸ by decide)⟩
    · exact ⟨parent, hp, .inl (hkind ▸ by decide)⟩

theorem Plays.isReference_iff (hn : tree.root.NumberedFrom 0)
    (hmem : n ∈ tree.rootNode.preorder) (h : n.Plays role) : n.isReference = true ↔ n.Slips := by
  rw [← Bool.not_eq_false, isReference_eq_false_iff hn hmem, not_or]
  refine ⟨fun hnot => h.slips hnot.2, fun hslips => ⟨fun hnone => ?_, hslips.not_isDenied⟩⟩
  obtain ⟨parent, hp, -⟩ := h
  cases hnone.symm.trans hp

theorem mem_references_iff : n ∈ scope.references name ↔
    n.Under scope ∧ n.kind = "identifier" ∧ n.text = name ∧ n.isReference = true := by
  rw [references, List.mem_mergeSort, List.mem_filter, descendantsOfKind, List.mem_filter,
    mem_descendants_iff]
  simp [and_assoc]

end

end Node

theorem Call.lambdas_mem_preorder {call : Call} {scope lambda : Node}
    (hcall : call ∈ Call.allIn scope) (h : lambda ∈ call.lambdas) : lambda ∈ scope.preorder := by
  rw [lambdas, List.mem_append] at h
  rcases h with h | h
  · obtain ⟨argument, hargument, he⟩ := List.mem_filterMap.1 (List.mem_filter.1 h).1
    obtain ⟨list, hlist, hnode⟩ := exists_of_mem_arguments hargument
    have hchild := (List.mem_filter.1 (List.mem_of_getLast? he)).1
    exact Node.mem_preorder_trans (valueArguments?_mem_preorder hcall hlist)
      (Node.mem_preorder_trans (Node.mem_preorder_of_mem_children hnode)
        (Node.mem_preorder_of_mem_children hchild))
  · obtain ⟨half, hhalf, hlambda⟩ := Option.bind_eq_some_iff.1 (Option.mem_toList.1 h)
    obtain ⟨n, hn, hof⟩ := List.mem_filterMap.1 hcall
    obtain ⟨-, -, _, _, -, -, rfl⟩ := ofNode?_eq_some_iff.1 hof
    exact Node.mem_preorder_trans (Node.mem_preorder_of_mem_descendants hn)
      (Node.mem_preorder_trans (Node.mem_preorder_of_childOfKind? hhalf)
        (Node.mem_preorder_of_childOfKind? hlambda))

namespace Rules

open Node

/-- An effect is searched for a name: it restarts, and the name is that of a lambda parameter and no
key. -/
def Watches (f : FunctionDecl) (types : LambdaTypes) (effect : Call) (name : String) : Prop :=
  ∃ body, f.body? = some body ∧ effect ∈ restartingEffects f body ∧
    name ∈ eventLambdas types f ∧ isKey effect name = false

/-- An identifier with a name stands in a lambda of an effect, where it is taken for a read, and
nothing shadows it. -/
def Captures (f : FunctionDecl) (effect : Call) (name : String) (n : Node) : Prop :=
  (∃ lambda ∈ effect.lambdas, n.Under lambda) ∧ n.kind = "identifier" ∧ n.text = name ∧
    ¬n.IsDenied ∧ n.isShadowed name f.node = false

section
variable {tree : SyntaxTree} {f : FunctionDecl} {types : LambdaTypes} {effect : Call}
  {name : String} {n lambda : Node} {backend : Backend} {memo : Memo}

theorem Watches.lambda_mem (hf : f.node ∈ tree.rootNode.preorder)
    (h : Watches f types effect name) (hlambda : lambda ∈ effect.lambdas) :
    lambda ∈ tree.rootNode.preorder := by
  obtain ⟨body, hbody, heffect, -⟩ := h
  have hcall := Call.lambdas_mem_preorder (List.mem_filter.1 heffect).1 hlambda
  exact mem_preorder_trans hf (mem_preorder_trans (mem_preorder_of_childOfKind? hbody) hcall)

theorem captures_iff (hn : tree.root.NumberedFrom 0) (hf : f.node ∈ tree.rootNode.preorder)
    (h : Watches f types effect name) : Captures f effect name n ↔
      n ∈ effect.lambdas.flatMap (·.references name) ∧ n.isShadowed name f.node = false := by
  have href {lambda : Node} (hlambda : lambda ∈ effect.lambdas) (hunder : n.Under lambda) :
      n.isReference = true ↔ ¬n.IsDenied := by
    obtain ⟨parent, hp, -⟩ := Relation.TransGen.head'_iff.1 hunder
    have hmem : n ∈ tree.rootNode.preorder :=
      mem_preorder_trans (h.lambda_mem hf hlambda) (mem_preorder_of_under hunder)
    rw [← Bool.not_eq_false, isReference_eq_false_iff hn hmem, hp]
    simp
  simp only [Captures, List.mem_flatMap, mem_references_iff]
  constructor
  · rintro ⟨⟨lambda, hlambda, hunder⟩, hkind, htext, hdenied, hshadowed⟩
    exact ⟨⟨lambda, hlambda, hunder, hkind, htext, (href hlambda hunder).2 hdenied⟩, hshadowed⟩
  · rintro ⟨⟨lambda, hlambda, hunder, hkind, htext, href'⟩, hshadowed⟩
    exact ⟨⟨lambda, hlambda, hunder⟩, hkind, htext, (href hlambda hunder).1 href', hshadowed⟩

theorem mem_reported_iff :
    n ∈ (lambdaParamInEffect.report (.composable f) occasion backend memo).1.findings.map
      (·.node) ↔
      ∃ effect name, Watches f (LambdaTypes.read f.node.root backend memo).1 effect name ∧
        capturedIn? f effect name = some n := by
  rw [RuleM.report_eq_visit]
  simp only [lambdaParamInEffect]
  cases hbody : f.body? with
  | none =>
    constructor
    · exact fun h => absurd h List.not_mem_nil
    · rintro ⟨effect, name, ⟨body, hbody', -⟩, -⟩
      cases hbody.symm.trans hbody'
  | some body =>
    dsimp only
    rw [RuleM.liftM_bind_apply]
    split
    case isTrue hempty =>
      constructor
      · exact fun h => absurd h List.not_mem_nil
      · rintro ⟨effect, name, ⟨_, -, -, hname, -⟩, -⟩
        rw [List.isEmpty_iff.1 hempty] at hname
        cases hname
    case isFalse =>
      change n ∈ List.map Finding.node (List.flatMap _ _) ↔ _
      simp only [List.mem_map, List.mem_flatMap, List.mem_filterMap, List.mem_filter,
        Bool.not_eq_true', Watches, hbody, Option.some.injEq, exists_eq_left']
      constructor
      · rintro ⟨_, ⟨effect, heffect, name, ⟨hname, hkey⟩, hcaptured⟩, rfl⟩
        obtain ⟨n, hn, rfl⟩ := Option.map_eq_some_iff.1 hcaptured
        exact ⟨effect, name, ⟨heffect, hname, hkey⟩, hn⟩
      · rintro ⟨effect, name, ⟨heffect, hname, hkey⟩, hn⟩
        exact ⟨_, ⟨effect, heffect, name, ⟨hname, hkey⟩, Option.map_eq_some_iff.2 ⟨n, hn, rfl⟩⟩,
          rfl⟩

/-- Identifiers are denied in the listed places only, and in their roles they pass for reads only
where they slip. What is reported in an effect is captured there, and a name that is captured in an
effect without being its key is reported. So a reported identifier has a role only where it slips,
and a name behind a receiver is not reported. -/
theorem reported_names_read_values {parser : Parser} {text : String} {tree : SyntaxTree}
    (hread : SyntaxTree.read? parser text = some tree) :
    (∀ n ∈ tree.rootNode.preorder,
      (n.isReference = false ↔ n.parent? = none ∨ n.IsDenied) ∧
      ∀ role, n.Plays role → (n.isReference = true ↔ n.Slips)) ∧
    ∀ f : FunctionDecl, f.node ∈ tree.rootNode.preorder →
      ∀ (occasion : Occasion) (backend : Backend) (memo : Memo),
      let types := (LambdaTypes.read f.node.root backend memo).1
      let reported :=
        (lambdaParamInEffect.report (.composable f) occasion backend memo).1.findings.map (·.node)
      (∀ n ∈ reported, (∃ effect name, Watches f types effect name ∧ Captures f effect name n) ∧
        ∀ role, n.Plays role → n.Slips) ∧
      ∀ effect name, Watches f types effect name →
        ((∃ n ∈ reported, Captures f effect name n) ↔ ∃ n, Captures f effect name n) := by
  have hn := SyntaxTree.numberedFrom_of_read? hread
  refine ⟨fun n hmem => ⟨isReference_eq_false_iff hn hmem,
    fun role => Plays.isReference_iff hn hmem⟩, fun f hf occasion backend memo => ?_⟩
  intro types reported
  have hcaptured {effect : Call} {name : String} (hwatches : Watches f types effect name) {n : Node}
      (h : capturedIn? f effect name = some n) : Captures f effect name n :=
    (captures_iff hn hf hwatches).2
      ⟨List.mem_of_find?_eq_some h, by simpa using List.find?_some h⟩
  refine ⟨fun n hreported => ?_, fun effect name hwatches => ⟨fun ⟨n, _, h⟩ => ⟨n, h⟩, ?_⟩⟩
  · obtain ⟨effect, name, hwatches, h⟩ := mem_reported_iff.1 hreported
    have hcaptures := hcaptured hwatches h
    exact ⟨⟨effect, name, hwatches, hcaptures⟩, fun role hrole => hrole.slips hcaptures.2.2.2.1⟩
  · rintro ⟨n, h⟩
    have hsome : (capturedIn? f effect name).isSome = true := by
      obtain ⟨hmem, hshadowed⟩ := (captures_iff hn hf hwatches).1 h
      exact List.find?_isSome.2 ⟨n, hmem, by simp [hshadowed]⟩
    obtain ⟨first, hfirst⟩ := Option.isSome_iff_exists.1 hsome
    exact ⟨first, mem_reported_iff.2 ⟨effect, name, hwatches, hfirst⟩, hcaptured hwatches hfirst⟩

end

section
open ParseTree

/-- In an effect one name stands behind a receiver and `::`, and once more behind a bare `::`. -/
def effectFile : String := "fun A(f: () -> Unit) \x7b\n    LaunchedEffect(u) \x7b\n" ++
  "        v::f\n        r(::f)\n    \x7d\n\x7d"

def effectRoot : ParseTree :=
  let argument (start stop : Nat) (e : ParseTree) : ParseTree :=
    named "value_arguments" start stop [token "(" start (start + 1),
      named "value_argument" (start + 1) (stop - 1) [e], token ")" (stop - 1) stop]
  let parameters := named "function_value_parameters" 5 20 [token "(" 5 6,
    letterParameter 6 (plainFunction 9), token ")" 19 20]
  let member := named "navigation_expression" 55 59
    [name 55 56, token "::" 56 58, name 58 59]
  let handed := named "call_expression" 68 74 [name 68 69,
    argument 69 74 (named "callable_reference" 70 73 [token "::" 70 72, name 72 73])]
  let lambda := named "lambda_literal" 45 80 [token "\x7b" 45 46, member, handed,
    token "\x7d" 79 80]
  let effect := named "call_expression" 27 80
    [named "call_expression" 27 44 [name 27 41, argument 41 44 (name 42 43)],
      named "annotated_lambda" 45 80 [lambda]]
  named "source_file" 0 82 [named "function_declaration" 0 82 [token "fun" 0 3, name 4 5,
    parameters, named "function_body" 21 82 [named "block" 21 82
      [token "\x7b" 21 22, effect, token "\x7d" 81 82]]]]

def effectParser : Parser := fun text =>
  if text = effectFile then some ⟨effectRoot, false⟩ else none

def effectTree : SyntaxTree := (SyntaxTree.read? effectParser effectFile).get (by decide +kernel)

def effectFunction : FunctionDecl :=
  (FunctionDecl.allIn effectTree.rootNode).head (by decide +kernel)

def effectNode (i : Fin 46) : Node :=
  effectTree.rootNode.preorder.get (Fin.castLE (by decide +kernel) i)

def effectTypes : LambdaTypes :=
  (LambdaTypes.read effectFunction.node.root (fun _ => none) .empty).1

def effectReported : List Node :=
  (lambdaParamInEffect.report (.composable effectFunction) .plain (fun _ => none)
    .empty).1.findings.map (·.node)

def effectCall : Call :=
  (restartingEffects effectFunction (effectFunction.body?.get (by decide +kernel))).head
    (by decide +kernel)

theorem read_effectFile : SyntaxTree.read? effectParser effectFile = some effectTree :=
  (Option.some_get _).symm

theorem effectNode_mem (i : Fin 46) : effectNode i ∈ effectTree.rootNode.preorder :=
  List.get_mem _ _

theorem effectFunction_mem : effectFunction.node ∈ effectTree.rootNode.preorder :=
  FunctionDecl.mem_preorder_of_mem_allIn (List.head_mem _)

theorem watches_effectCall : Watches effectFunction effectTypes effectCall "f" := by
  refine ⟨_, (Option.some_get _).symm, List.head_mem _, ?event, ?key⟩
  case event =>
    obtain ⟨p, hp, type, htype, hname, hkind, hmarked⟩ : ∃ p ∈ effectFunction.parameters,
        ∃ type ∈ p.type?, p.name? = some "f" ∧ type.kind = "function_type" ∧
          LambdaTypes.isMarkedFunction type = false := by
      decide +kernel
    refine List.mem_filterMap.2 ⟨p, List.mem_filter.2 ⟨hp, ?_⟩, hname⟩
    rw [Option.mem_def.1 htype, Option.any_some, LambdaTypes.isLambda,
      LambdaTypes.isComposableLambda, LambdaTypes.resolve_of_function hkind, hmarked]
    rfl
  case key =>
    have hkeys : ∀ e ∈ effectCall.arguments.filterMap Argument.expression?,
        ¬e.isChainLink = true ∧ e.text ≠ "f" := by
      decide +kernel
    rw [isKey, List.any_eq_false]
    intro e he
    obtain ⟨hlink, htext⟩ := hkeys e he
    rw [chainRoot, if_neg hlink]
    simp [htext]

theorem captures_effectCall_iff {n : Node} :
    Captures effectFunction effectCall "f" n ↔ n = effectNode 42 := by
  have hn := SyntaxTree.numberedFrom_of_read? read_effectFile
  have hsame {lambda m : Node} (hlambda : lambda ∈ effectCall.lambdas)
      (hm : m ∈ lambda.descendants) (h : (m == effectNode 42) = true) : m = effectNode 42 :=
    (SyntaxTree.beq_iff_of_mem hn (mem_preorder_trans
      (watches_effectCall.lambda_mem effectFunction_mem hlambda)
      (mem_preorder_of_mem_descendants hm)) (effectNode_mem 42)).1 h
  rw [captures_iff hn effectFunction_mem watches_effectCall, List.mem_flatMap]
  constructor
  · rintro ⟨⟨lambda, hlambda, hreads⟩, -⟩
    obtain ⟨hunder, hreads⟩ := mem_references_iff.1 hreads
    have honly : ∀ lambda ∈ effectCall.lambdas, ∀ m ∈ lambda.descendants,
        m.kind = "identifier" ∧ m.text = "f" ∧ m.isReference = true →
          (m == effectNode 42) = true := by
      decide +kernel
    have hdescends : n ∈ lambda.descendants := mem_descendants_iff.2 hunder
    exact hsame hlambda hdescends (honly lambda hlambda n hdescends hreads)
  · rintro rfl
    obtain ⟨lambda, hlambda, m, hm, heq⟩ : ∃ lambda ∈ effectCall.lambdas,
        ∃ m ∈ lambda.descendants, (m == effectNode 42) = true := by
      decide +kernel
    obtain rfl := hsame hlambda hm heq
    exact ⟨⟨lambda, hlambda, mem_references_iff.2 ⟨mem_descendants_iff.1 hm, by decide +kernel⟩⟩,
      by decide +kernel⟩

/-- The name behind the receiver is not reported; the other one is, though it is no read either. -/
theorem reported_names_read_values_effect :
    SyntaxTree.read? effectParser effectFile = some effectTree ∧
    effectFunction.node ∈ effectTree.rootNode.preorder ∧
    (effectNode 34).Plays .member ∧ ¬(effectNode 34).Slips ∧ (effectNode 34).isReference = false ∧
    (effectNode 42).Plays .member ∧ (effectNode 42).Slips ∧ (effectNode 42).isReference = true ∧
    Watches effectFunction effectTypes effectCall "f" ∧
    Captures effectFunction effectCall "f" (effectNode 42) ∧
    effectNode 42 ∈ effectReported := by
  obtain ⟨hreferences, hreports⟩ := reported_names_read_values read_effectFile
  have hbehind : (effectNode 34).Plays .member := by
    obtain ⟨parent, hp, hkind⟩ : ∃ parent ∈ (effectNode 34).parent?,
        parent.kind = "navigation_expression" := by decide +kernel
    exact ⟨parent, hp, .inl ⟨hkind, by decide +kernel⟩⟩
  have hbare : (effectNode 42).Plays .member := by
    obtain ⟨parent, hp, hkind⟩ : ∃ parent ∈ (effectNode 42).parent?,
        parent.kind = "callable_reference" := by decide +kernel
    exact ⟨parent, hp, .inr (.inl ⟨hkind, by decide +kernel⟩)⟩
  have hdenied : (effectNode 34).isReference = false := by decide +kernel
  have href : (effectNode 42).isReference = true := by decide +kernel
  have hcaptures : Captures effectFunction effectCall "f" (effectNode 42) :=
    captures_effectCall_iff.2 rfl
  have hreported : effectNode 42 ∈ effectReported := by
    obtain ⟨n, hn, hcaptured⟩ := ((hreports _ effectFunction_mem .plain (fun _ => none) .empty).2
      effectCall "f" watches_effectCall).2 ⟨_, hcaptures⟩
    exact captures_effectCall_iff.1 hcaptured ▸ hn
  refine ⟨read_effectFile, effectFunction_mem, hbehind, ?_, hdenied, hbare,
    ((hreferences _ (effectNode_mem 42)).2 _ hbare).1 href, href, watches_effectCall, hcaptures,
    hreported⟩
  rw [← (hreferences _ (effectNode_mem 34)).2 _ hbehind, hdenied]
  exact Bool.false_ne_true

end

end Rules

end ComposeCheck
