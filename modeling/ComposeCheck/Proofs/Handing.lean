import ComposeCheck.Kotlin.ModifierUsage
import ComposeCheck.Proofs.Bindings
import ComposeCheck.Proofs.EditPlaces
import ComposeCheck.Proofs.Halves

/-!
# Handing the modifier on

Which calls receive the modifier of a composable is decided by names: by its own name where nothing
around shadows it, and by the names of the locals derived from it, wherever they stand
(`NamedAfter`). What an identifier refers to is decided by scopes (`RefersTo`). The two agree if no
local derived from the modifier takes its name, none is derived from something that hides it, the
name of a derived local is used for that local only, and the modifier's name for nothing that the
test for shadowed names passes over, such as the variable of a loop (`NamesAreClear`). In any case
no call is missed that receives the modifier by a name that is not shadowed on the way
(`usages_by_name_and_scope`).
-/

namespace ComposeCheck

/-- The locals of a scope that have one name and an initializer. -/
def namedValues (scope : Node) : List (String × Node) :=
  (Property.allIn scope).filterMap fun p => do return (← p.name?, ← p.initializer?)

theorem mem_namedValues_iff {scope value : Node} {name : String} :
    (name, value) ∈ namedValues scope ↔
      ∃ p ∈ Property.allIn scope, p.name? = some name ∧ p.initializer? = some value := by
  simp only [namedValues, List.mem_filterMap, Option.bind_eq_bind, Option.bind_eq_some_iff,
    Option.pure_def, Option.some.injEq, Prod.mk.injEq]
  constructor
  · rintro ⟨p, hp, _, hname, _, hvalue, rfl, rfl⟩
    exact ⟨p, hp, hname, hvalue⟩
  · rintro ⟨p, hp, hname, hvalue⟩
    exact ⟨p, hp, _, hname, _, hvalue, rfl, rfl⟩

/-! ### Aliases -/

/-- A name is a given one, or that of a local whose initializer starts at such a name. -/
inductive NamedAfter (scope : Node) (name : String) : String → Prop
  | self : NamedAfter scope name name
  | ofValue {derived : String} {value : Node} (hmem : (derived, value) ∈ namedValues scope)
      (hkind : value.chainRoot.kind = "identifier")
      (h : NamedAfter scope name value.chainRoot.text) : NamedAfter scope name derived

section
variable {scope n value : Node} {name derived : String} {names : List String}
  {locals : List (String × Node)}

theorem Node.startsAtAny_iff :
    n.startsAtAny names = true ↔ n.chainRoot.kind = "identifier" ∧ n.chainRoot.text ∈ names := by
  rw [startsAtAny, Bool.and_eq_true, beq_iff_eq, List.contains_iff_mem]

theorem subset_growAliases : names ⊆ growAliases names locals := by
  fun_induction growAliases names locals with
  | case1 names locals _ ih => exact fun a ha => ih (List.mem_append_left _ ha)
  | case2 => exact fun a ha => ha

/-- Growing stops when no local is left that starts at one of the names. -/
theorem mem_growAliases_of_startsAtAny (hmem : (derived, value) ∈ locals)
    (h : value.startsAtAny (growAliases names locals) = true) :
    derived ∈ growAliases names locals := by
  fun_induction growAliases names locals with
  | case1 names locals _ ih =>
    by_cases hderived : value.startsAtAny names = true
    · have hmem : (derived, value) ∈ derivedFrom names locals :=
        List.mem_filter.2 ⟨hmem, hderived⟩
      exact subset_growAliases (List.mem_append_right _ (List.mem_map.2 ⟨_, hmem, rfl⟩))
    · exact ih (List.mem_filter.2 ⟨hmem, by simpa using hderived⟩) h
  | case2 names locals hlength =>
    have hall := List.length_filter_eq_length_iff.1
      (Nat.le_antisymm (List.length_filter_le _ _) (Nat.not_lt.1 hlength))
    have hnot := hall _ hmem
    rw [h] at hnot
    cases hnot

theorem namedAfter_of_mem_growAliases (hnames : ∀ a ∈ names, NamedAfter scope name a)
    (hlocals : ∀ entry ∈ locals, entry ∈ namedValues scope) :
    ∀ a ∈ growAliases names locals, NamedAfter scope name a := by
  fun_induction growAliases names locals with
  | case1 names locals _ ih =>
    refine ih (fun a ha => ?_) fun entry hentry => hlocals entry (List.mem_filter.1 hentry).1
    rcases List.mem_append.1 ha with ha | ha
    · exact hnames a ha
    · obtain ⟨⟨_, value⟩, hentry, rfl⟩ := List.mem_map.1 ha
      obtain ⟨hmem, hstarts⟩ := List.mem_filter.1 hentry
      obtain ⟨hkind, htext⟩ := Node.startsAtAny_iff.1 hstarts
      exact .ofValue (hlocals _ hmem) hkind (hnames _ htext)
  | case2 => exact hnames

/-- The aliases of a modifier are the names that come from its own, step by step. -/
theorem mem_modifierNames_iff :
    derived ∈ modifierNames scope name ↔ NamedAfter scope name derived := by
  have hgrow : modifierNames scope name = (growAliases [name] (namedValues scope)).eraseDups := rfl
  rw [hgrow, List.mem_eraseDups]
  constructor
  · refine namedAfter_of_mem_growAliases (fun a ha => ?_) (fun _ h => h) derived
    rw [List.mem_singleton.1 ha]
    exact .self
  · intro h
    induction h with
    | self => exact subset_growAliases List.mem_cons_self
    | ofValue hmem hkind _ ih =>
      exact mem_growAliases_of_startsAtAny hmem (Node.startsAtAny_iff.2 ⟨hkind, ih⟩)

end

/-! ### References -/

/-- A property is a local if it stands in a block; the statements of a lambda stand in the lambda
itself. -/
def Property.isLocal (p : Property) : Bool :=
  p.node.parent?.any fun block => block.kind == "block" || block.kind == "lambda_literal"

/-- By the scopes around it, an identifier refers to the parameter of this name, or to a local
whose initializer starts at such an identifier. -/
inductive RefersTo (f : FunctionDecl) (body : Node) (name : String) : Node → Prop
  | parameter {use : Node} (hkind : use.kind = "identifier") (htext : use.text = name)
      (hfree : use.binding? name f.node = none) : RefersTo f body name use
  | ofLocal {use value : Node} {p : Property} (hkind : use.kind = "identifier")
      (hp : p ∈ Property.allIn body) (hlocal : p.isLocal = true)
      (hbound : use.binding? use.text f.node = some p.node)
      (hname : p.name? = some use.text) (hvalue : p.initializer? = some value)
      (h : RefersTo f body name value.chainRoot) : RefersTo f body name use

theorem RefersTo.namedAfter {f : FunctionDecl} {body use : Node} {name : String}
    (h : RefersTo f body name use) : use.kind = "identifier" ∧ NamedAfter body name use.text := by
  induction h with
  | parameter hkind htext => exact ⟨hkind, htext ▸ .self⟩
  | ofLocal hkind hp _ _ hname hvalue _ ih =>
    exact ⟨hkind, .ofValue (mem_namedValues_iff.2 ⟨_, hp, hname, hvalue⟩) ih.1 ih.2⟩

/-- Where the arguments of a call start, those that are lambdas left out. -/
def Call.handedRoots (call : Call) : List Node :=
  ((call.arguments.filterMap Argument.expression?).filter (·.kind != "lambda_literal")).map
    Node.chainRoot

/-- The calls in a scope that a modifier may be handed to. -/
def plainUpperCalls (scope : Node) : List Call :=
  (Call.allIn scope).filter fun call => call.isPlain && call.isUpper

/-- The nodes in a scope at which names of modifiers are looked up. -/
def lookedUp (scope : Node) : List Node :=
  (plainUpperCalls scope).flatMap Call.handedRoots ++ (namedValues scope).map (·.2.chainRoot)

/-! ### Where names are looked up -/

namespace Node

section
variable {n s : Node}

theorem chainRoot_mem_preorder (n : Node) : n.chainRoot ∈ n.preorder := by
  fun_induction chainRoot n with
  | case1 n _ inner hinner ih =>
    exact mem_preorder_trans (mem_preorder_of_firstNamedChild? hinner) ih
  | case2 n => exact n.self_mem_preorder
  | case3 n => exact n.self_mem_preorder

theorem parent?_of_mem_siblingsAfter (h : s ∈ n.siblingsAfter) : s.parent? = n.parent? := by
  obtain ⟨source, t, path⟩ := n
  cases path with
  | nil => cases h
  | cons frame path =>
    obtain ⟨parent, before, after⟩ := frame
    obtain ⟨i, hi⟩ := List.mem_iff_getElem?.1 h
    obtain ⟨front, u, rest, hts, -, rfl⟩ := getElem?_focuses.1 hi
    obtain rfl : after = front ++ u :: rest := hts
    simp [parent?]

end

end Node

section
variable {n scope root value list : Node} {call : Call} {argument : Argument} {p : Property}

theorem Property.initializer?_mem_preorder (h : p.initializer? = some value) :
    value ∈ p.node.preorder := by
  obtain ⟨sign, hsign, hvalue⟩ := Option.bind_eq_some_iff.1 h
  have hparent := Node.parent?_of_mem_children (List.mem_of_find?_eq_some hsign)
  rw [← Node.parent?_of_mem_siblingsAfter (List.mem_of_find?_eq_some hvalue)] at hparent
  exact Node.mem_preorder_of_mem_children (Node.mem_children_of_parent? hparent)

theorem Property.mem_allIn_iff :
    p ∈ allIn scope ↔ p.node ∈ scope.descendants ∧ p.node.kind = "property_declaration" := by
  simp only [allIn, List.mem_filterMap, ofNode?_eq_some_iff]
  constructor
  · rintro ⟨n, hn, rfl, hkind⟩
    exact ⟨hn, hkind⟩
  · rintro ⟨hn, hkind⟩
    exact ⟨p.node, hn, rfl, hkind⟩

theorem Call.valueArguments?_mem_preorder (hcall : call ∈ Call.allIn scope)
    (h : call.valueArguments? = some list) : list ∈ scope.preorder := by
  obtain ⟨n, hn, hof⟩ := List.mem_filterMap.1 hcall
  obtain ⟨-, -, head, _, hhead, -, rfl⟩ := Call.ofNode?_eq_some_iff.1 hof
  have hmem : head ∈ n.preorder := by
    rw [Call.head?] at hhead
    split at hhead
    · exact Node.mem_preorder_of_firstNamedChild? hhead
    · cases hhead
      exact n.self_mem_preorder
  exact Node.mem_preorder_trans (Node.mem_preorder_of_mem_descendants hn)
    (Node.mem_preorder_trans hmem (Node.mem_preorder_of_childOfKind? h))

theorem Call.exists_of_mem_arguments (h : argument ∈ call.arguments) :
    ∃ list, call.valueArguments? = some list ∧ argument.node ∈ list.children := by
  rw [arguments] at h
  split at h
  case h_1 => cases h
  case h_2 list hlist =>
    obtain ⟨n, hn, rfl⟩ := List.mem_map.1 h
    exact ⟨list, hlist, (List.mem_filter.1 hn).1⟩

theorem Call.mem_handedRoots_iff : root ∈ call.handedRoots ↔ ∃ argument ∈ call.arguments, ∃ e,
    argument.expression? = some e ∧ (e.kind != "lambda_literal") = true ∧ e.chainRoot = root := by
  simp only [handedRoots, List.mem_map, List.mem_filter, List.mem_filterMap]
  constructor
  · rintro ⟨e, ⟨⟨argument, hargument, he⟩, hkind⟩, hroot⟩
    exact ⟨argument, hargument, e, he, hkind, hroot⟩
  · rintro ⟨argument, hargument, e, he, hkind, hroot⟩
    exact ⟨e, ⟨⟨argument, hargument, he⟩, hkind⟩, hroot⟩

theorem Call.handedRoots_mem_preorder (hcall : call ∈ Call.allIn scope)
    (h : root ∈ call.handedRoots) : root ∈ scope.preorder := by
  obtain ⟨argument, hargument, e, he, -, rfl⟩ := Call.mem_handedRoots_iff.1 h
  obtain ⟨list, hlist, hnode⟩ := Call.exists_of_mem_arguments hargument
  have hchild := (List.mem_filter.1 (List.mem_of_getLast? he)).1
  have he : e ∈ list.preorder :=
    Node.mem_preorder_trans (Node.mem_preorder_of_mem_children hnode)
      (Node.mem_preorder_of_mem_children hchild)
  exact Node.mem_preorder_trans (Call.valueArguments?_mem_preorder hcall hlist)
    (Node.mem_preorder_trans he e.chainRoot_mem_preorder)

end

theorem SyntaxTree.mem_descendants {tree : SyntaxTree} {a b : Node}
    (hn : tree.root.NumberedFrom 0) (ha : a ∈ tree.rootNode.preorder)
    (hb : b ∈ tree.rootNode.preorder) (h : a.isAncestorOf b = true) : b ∈ a.descendants := by
  have hunder := (isAncestorOf_iff hn ha hb).1 h
  have hmem := a.descendants_perm.mem_iff.2 (Node.mem_preorder_of_under hunder)
  refine (List.mem_cons.1 hmem).resolve_left fun hab => ?_
  have hlt := id_lt_of_under hn hb hunder
  rw [hab] at hlt
  exact Nat.lt_irrefl _ hlt

/-! ### Names and scopes -/

/-- By its name, an expression that starts at an identifier hands the modifier on: the identifier is
the modifier's own name, not shadowed on the way, or an alias of it. -/
def HandsOnByName (f : FunctionDecl) (body : Node) (name : String) (root : Node) : Prop :=
  root.kind = "identifier" ∧ (root.text = name ∧ root.isShadowed name f.node = false ∨
    root.text ≠ name ∧ NamedAfter body name root.text)

/-- Names tell what is derived from a modifier as well as scopes do. -/
structure NamesAreClear (f : FunctionDecl) (body : Node) (name : String) : Prop where
  /-- A local that takes the modifier's name is not derived from it. -/
  kept : ∀ entry ∈ namedValues body, entry.1 = name →
    entry.2.startsAtAny (modifierNames body name) = false
  /-- A local that starts at the modifier's name starts at the modifier. -/
  own : ∀ entry ∈ namedValues body, entry.2.startsAtAny [name] = true →
    entry.2.chainRoot.binding? name f.node = none
  /-- Where the name of a derived local is looked up, it refers to a derived local. -/
  aliases : ∀ use ∈ lookedUp body, use.kind = "identifier" → use.text ≠ name →
    use.text ∈ modifierNames body name → (use.binding? use.text f.node).any (fun d =>
      body.isAncestorOf d && (Property.ofNode? d).any fun p => p.isLocal &&
        p.name? == some use.text &&
        p.initializer?.any (·.startsAtAny (modifierNames body name))) = true
  /-- Where the modifier's name is looked up, no loop or other scope gives it to a variable. -/
  plain : ∀ use ∈ lookedUp body, use.kind = "identifier" → use.text = name →
    ∀ scope ∈ use.ancestorsBelow f.node, name ∉ scope.otherNames use

section
variable {tree : SyntaxTree} {f : FunctionDecl} {body e root use : Node} {call : Call}
  {name : String}

theorem FunctionDecl.under_of_mem_body (hbody : f.body? = some body) (h : use ∈ body.preorder) :
    use.Under f.node := by
  have hchild : body.Under f.node := Node.under_of_mem_children (List.mem_of_find?_eq_some hbody)
  rcases Node.eq_or_under_of_mem_preorder h with rfl | hunder
  · exact hchild
  · exact hunder.trans hchild

theorem lookedUp_mem_preorder (h : root ∈ lookedUp body) : root ∈ body.preorder := by
  rcases List.mem_append.1 h with h | h
  · obtain ⟨call, hcall, hroot⟩ := List.mem_flatMap.1 h
    exact Call.handedRoots_mem_preorder (List.mem_filter.1 hcall).1 hroot
  · obtain ⟨⟨_, value⟩, hentry, rfl⟩ := List.mem_map.1 h
    obtain ⟨p, hp, -, hvalue⟩ := mem_namedValues_iff.1 hentry
    exact Node.mem_preorder_trans (Property.node_mem_preorder hp)
      (Node.mem_preorder_trans (Property.initializer?_mem_preorder hvalue)
        value.chainRoot_mem_preorder)

theorem FunctionDecl.handsOn_iff :
    f.handsOn name (modifierNames body name) e = true ↔
      HandsOnByName f body name e.chainRoot := by
  simp only [handsOn, HandsOnByName, Bool.and_eq_true, beq_iff_eq, List.contains_iff_mem,
    mem_modifierNames_iff, Bool.not_eq_true', Bool.and_eq_false_iff, beq_eq_false_iff_ne, and_assoc]
  refine and_congr_right fun _ => ?_
  constructor
  · rintro ⟨hnamed, hopen⟩
    by_cases htext : e.chainRoot.text = name
    · exact .inl ⟨htext, hopen.resolve_left (not_not.2 htext)⟩
    · exact .inr ⟨htext, hnamed⟩
  · rintro (⟨rfl, hfree⟩ | ⟨hne, hnamed⟩)
    · exact ⟨.self, .inr hfree⟩
    · exact ⟨hnamed, .inl hne⟩

theorem FunctionDecl.map_call_modifierUsages {backend : Backend} {memo : Memo}
    (hbody : f.body? = some body)
    (hname : ((ModifierTypes.read backend memo).1.parameterOf? f).bind (·.name?) = some name) :
    (f.modifierUsages backend memo).1.map (·.call) =
      (plainUpperCalls body).filter fun call => call.arguments.any fun argument =>
        argument.expression?.any fun e =>
          e.kind != "lambda_literal" && f.handsOn name (modifierNames body name) e := by
  have husages : (f.modifierUsages backend memo).1 = (plainUpperCalls body).filterMap fun call =>
      (call.arguments.find? fun argument => argument.expression?.any fun e =>
        e.kind != "lambda_literal" && f.handsOn name (modifierNames body name) e).map
          fun argument => ⟨call, argument⟩ := by
    rcases hread : ModifierTypes.read backend memo with ⟨types, after⟩
    rw [hread] at hname
    rw [modifierUsages]
    simp only [bind, ReaderT.bind, StateT.bind, hread, hbody, hname]
    rfl
  rw [husages, List.map_filterMap, ← List.filterMap_eq_filter]
  congr 1
  funext call
  rw [Option.guard]
  split
  case isTrue h =>
    obtain ⟨argument, hfind⟩ :=
      Option.isSome_iff_exists.1 (List.find?_isSome.2 (List.any_eq_true.1 h))
    rw [hfind]
    rfl
  case isFalse h =>
    rw [List.find?_eq_none.2 fun a ha hhands => h (List.any_eq_true.2 ⟨a, ha, hhands⟩)]
    rfl

theorem FunctionDecl.mem_modifierUsages_iff {backend : Backend} {memo : Memo}
    (hbody : f.body? = some body)
    (hname : ((ModifierTypes.read backend memo).1.parameterOf? f).bind (·.name?) = some name) :
    call ∈ (f.modifierUsages backend memo).1.map (·.call) ↔
      call ∈ plainUpperCalls body ∧ ∃ root ∈ call.handedRoots, HandsOnByName f body name root := by
  rw [map_call_modifierUsages hbody hname, List.mem_filter]
  refine and_congr_right fun _ => ?_
  simp only [List.any_eq_true, Option.any_eq_true, Bool.and_eq_true]
  constructor
  · rintro ⟨argument, hargument, e, he, hkind, hhands⟩
    exact ⟨_, Call.mem_handedRoots_iff.2 ⟨argument, hargument, e, he, hkind, rfl⟩,
      handsOn_iff.1 hhands⟩
  · rintro ⟨root, hroot, hhands⟩
    obtain ⟨argument, hargument, e, he, hkind, rfl⟩ := Call.mem_handedRoots_iff.1 hroot
    exact ⟨argument, hargument, e, he, hkind, handsOn_iff.2 hhands⟩

/-- What refers to the modifier by scopes is handed on by its name, too, unless the modifier's name
is shadowed on the way. -/
theorem RefersTo.handsOnByName (h : RefersTo f body name root)
    (hfree : root.text = name → root.isShadowed name f.node = false) :
    HandsOnByName f body name root := by
  obtain ⟨hkind, hnamed⟩ := h.namedAfter
  refine ⟨hkind, ?_⟩
  by_cases htext : root.text = name
  · exact .inl ⟨htext, hfree htext⟩
  · exact .inr ⟨htext, hnamed⟩

section
variable (hn : tree.root.NumberedFrom 0) (hmem : body ∈ tree.rootNode.preorder)
  (hbody : f.body? = some body)
include hn hmem hbody

theorem FunctionDecl.binding?_eq_none_iff (huse : use ∈ body.preorder) :
    use.binding? name f.node = none ↔ use.isShadowed name f.node = false ∧
      ∀ scope ∈ use.ancestorsBelow f.node, name ∉ scope.otherNames use :=
  SyntaxTree.binding?_eq_none_iff hn (Node.mem_preorder_trans hmem huse)
    (under_of_mem_body hbody huse)

namespace NamesAreClear

variable (hclear : NamesAreClear f body name)
include hclear

theorem handsOnByName (hroot : root ∈ body.preorder) (h : RefersTo f body name root) :
    HandsOnByName f body name root := by
  refine h.handsOnByName fun htext => ?_
  cases h with
  | parameter _ _ hfree =>
    exact ((FunctionDecl.binding?_eq_none_iff hn hmem hbody hroot).1 hfree).1
  | ofLocal _ hp _ _ hlocal hvalue h =>
    have hstarts := Node.startsAtAny_iff.2 (h.namedAfter.imp_right mem_modifierNames_iff.2)
    have hkept := hclear.kept _ (mem_namedValues_iff.2 ⟨_, hp, hlocal, hvalue⟩) htext
    rw [hstarts] at hkept
    cases hkept

/-- A name that is looked up is declared before by a local that starts at such a name, and so on;
the search ends at the modifier. -/
theorem refersTo (hroot : root ∈ lookedUp body) (h : HandsOnByName f body name root) :
    RefersTo f body name root := by
  induction hid : root.id using Nat.strongRecOn generalizing root with
  | ind id ih =>
    obtain ⟨hkind, ⟨htext, hfree⟩ | ⟨htext, hnamed⟩⟩ := h
    · have hplain := hclear.plain root hroot hkind htext
      exact .parameter hkind htext ((FunctionDecl.binding?_eq_none_iff hn hmem hbody
        (lookedUp_mem_preorder hroot)).2 ⟨hfree, hplain⟩)
    · have hdeclared := hclear.aliases root hroot hkind htext (mem_modifierNames_iff.2 hnamed)
      simp only [Option.any_eq_true, Bool.and_eq_true, beq_iff_eq] at hdeclared
      obtain ⟨d, hd, hinside, p, hp, ⟨hlocal, hname⟩, value, hvalue, hstarts⟩ := hdeclared
      obtain ⟨rfl, hproperty⟩ := Property.ofNode?_eq_some_iff.1 hp
      have hrootin := lookedUp_mem_preorder hroot
      obtain ⟨hdmem, hbefore⟩ := SyntaxTree.of_binding? (Node.mem_preorder_trans hmem hrootin)
        (FunctionDecl.under_of_mem_body hbody hrootin) hd hproperty
      have hp : p ∈ Property.allIn body :=
        Property.mem_allIn_iff.2 ⟨SyntaxTree.mem_descendants hn hmem hdmem hinside, hproperty⟩
      have hvmem := Node.mem_preorder_trans (Property.initializer?_mem_preorder hvalue)
        value.chainRoot_mem_preorder
      have hlt : value.chainRoot.id < root.id :=
        Nat.lt_of_le_of_lt
          ((SyntaxTree.mem_preorder_iff hn hdmem (Node.mem_preorder_trans hdmem hvmem)).1 hvmem).2
          hbefore
      have hentry := mem_namedValues_iff.2 ⟨p, hp, hname, hvalue⟩
      obtain ⟨hkind', htext'⟩ := Node.startsAtAny_iff.1 hstarts
      have hlooked : value.chainRoot ∈ lookedUp body :=
        List.mem_append_right _ (List.mem_map.2 ⟨_, hentry, rfl⟩)
      refine .ofLocal hkind hp hlocal hd hname hvalue (ih _ (hid ▸ hlt) hlooked ⟨hkind', ?_⟩ rfl)
      by_cases hown : value.chainRoot.text = name
      · have hfree := hclear.own _ hentry
          (Node.startsAtAny_iff.2 ⟨hkind', List.mem_singleton.2 hown⟩)
        exact .inl ⟨hown, ((FunctionDecl.binding?_eq_none_iff hn hmem hbody
          (lookedUp_mem_preorder hlooked)).1 hfree).1⟩
      · exact .inr ⟨hown, mem_modifierNames_iff.1 htext'⟩

end NamesAreClear

end

end

/-- Which calls receive the modifier is decided by names; each of them is seen that is handed it by
a reference under a name that is not shadowed on the way; and where names are clear, the calls are
those that are handed a reference to it. -/
theorem usages_by_name_and_scope {parser : Parser} {text : String} {tree : SyntaxTree}
    (hread : SyntaxTree.read? parser text = some tree) {f : FunctionDecl}
    (hf : f.node ∈ tree.rootNode.preorder) {body : Node} {name : String} {backend : Backend}
    {memo : Memo} (hbody : f.body? = some body)
    (hname : ((ModifierTypes.read backend memo).1.parameterOf? f).bind (·.name?) = some name) :
    let calls := (f.modifierUsages backend memo).1.map (·.call)
    calls.Sublist (plainUpperCalls body) ∧
    (∀ call, call ∈ calls ↔
      call ∈ plainUpperCalls body ∧ ∃ root ∈ call.handedRoots, HandsOnByName f body name root) ∧
    (∀ call ∈ plainUpperCalls body, ∀ root ∈ call.handedRoots, RefersTo f body name root →
      (root.text = name → root.isShadowed name f.node = false) → call ∈ calls) ∧
    (NamesAreClear f body name → ∀ call, call ∈ calls ↔
      call ∈ plainUpperCalls body ∧ ∃ root ∈ call.handedRoots, RefersTo f body name root) := by
  intro calls
  have hn := SyntaxTree.numberedFrom_of_read? hread
  have hmem := Node.mem_preorder_trans hf (Node.mem_preorder_of_childOfKind? hbody)
  have hiff (call : Call) : call ∈ calls ↔ _ :=
    FunctionDecl.mem_modifierUsages_iff hbody hname
  refine ⟨?_, hiff, fun call hcall root hroot href hfree =>
    (hiff call).2 ⟨hcall, root, hroot, href.handsOnByName hfree⟩, fun hclear call => ?_⟩
  · have hcalls : calls = _ := FunctionDecl.map_call_modifierUsages hbody hname
    exact hcalls ▸ List.filter_sublist
  · rw [hiff call]
    refine and_congr_right fun hcall => exists_congr fun root => and_congr_right fun hroot => ?_
    have hlooked : root ∈ lookedUp body :=
      List.mem_append_left _ (List.mem_flatMap.2 ⟨call, hcall, hroot⟩)
    exact ⟨hclear.refersTo hn hmem hbody hlooked,
      hclear.handsOnByName hn hmem hbody (lookedUp_mem_preorder hlooked)⟩

/-- A composable that hands its modifier on under another name, with a lambda whose parameter has
the modifier's name. -/
def trayFile : String :=
  "fun A(modifier: Modifier) \x7b\n    val m = modifier\n    Box(m)\n" ++
    "    each \x7b modifier -> Text(modifier) \x7d\n\x7d"

def trayParser : Parser := fun text =>
  if text = trayFile then
    let named (kind : String) (start stop : Nat) (ts : List ParseTree) : ParseTree :=
      .node ⟨kind, true, false, start, stop⟩ ts
    let token (kind : String) (start stop : Nat) : ParseTree :=
      .node ⟨kind, false, false, start, stop⟩ []
    let identifier (start stop : Nat) : ParseTree := named "identifier" start stop []
    let call (start open_ stop : Nat) : ParseTree := named "call_expression" start stop
      [identifier start open_, named "value_arguments" open_ stop
        [token "(" open_ (open_ + 1),
          named "value_argument" (open_ + 1) (stop - 1) [identifier (open_ + 1) (stop - 1)],
          token ")" (stop - 1) stop]]
    let parameters := named "function_value_parameters" 5 25 [token "(" 5 6,
      named "parameter" 6 24 [identifier 6 14, token ":" 14 15,
        named "user_type" 16 24 [identifier 16 24]], token ")" 24 25]
    let derived := named "property_declaration" 32 48 [token "val" 32 35,
      named "variable_declaration" 36 37 [identifier 36 37], token "=" 38 39, identifier 40 48]
    let lambda := named "annotated_lambda" 69 99 [named "lambda_literal" 69 99
      [named "lambda_parameters" 71 79 [named "variable_declaration" 71 79 [identifier 71 79]],
        call 83 87 97]]
    let body := named "function_body" 26 101 [named "block" 26 101
      [derived, call 53 56 59, named "call_expression" 64 99 [identifier 64 68, lambda]]]
    let function := named "function_declaration" 0 101
      [token "fun" 0 3, identifier 4 5, parameters, body]
    some ⟨named "source_file" 0 101 [function], false⟩
  else none

def trayTree : SyntaxTree := (SyntaxTree.read? trayParser trayFile).get (by decide +kernel)

def trayFunction : FunctionDecl :=
  ⟨trayTree.rootNode.preorder.get (Fin.castLE (by decide +kernel) (1 : Fin 2))⟩

def trayBody : Node := trayFunction.body?.get (by decide +kernel)

def trayCalls : List Call :=
  (trayFunction.modifierUsages (fun _ => none) .empty).1.map (·.call)

/-- The first call is handed the modifier, the second the parameter of the lambda. -/
theorem usages_by_name_and_scope_trayFile :
    SyntaxTree.read? trayParser trayFile = some trayTree ∧
    trayFunction.node ∈ trayTree.rootNode.preorder ∧
    trayFunction.body? = some trayBody ∧
    ((ModifierTypes.read (fun _ => none) .empty).1.parameterOf? trayFunction).bind (·.name?) =
      some "modifier" ∧
    NamesAreClear trayFunction trayBody "modifier" ∧
    (plainUpperCalls trayBody).map (·.node.text) = ["Box(m)", "Text(modifier)"] ∧
    trayCalls.map (·.node.text) = ["Box(m)"] ∧
    (∀ call ∈ trayCalls,
      ∃ root ∈ call.handedRoots, RefersTo trayFunction trayBody "modifier" root) ∧
    ∀ call ∈ plainUpperCalls trayBody, call.node.text = "Text(modifier)" →
      ¬∃ root ∈ call.handedRoots, RefersTo trayFunction trayBody "modifier" root := by
  have hread : SyntaxTree.read? trayParser trayFile = some trayTree := (Option.some_get _).symm
  have hf : trayFunction.node ∈ trayTree.rootNode.preorder := List.get_mem _ _
  have hbody : trayFunction.body? = some trayBody := (Option.some_get _).symm
  have hname : ((ModifierTypes.read (fun _ => none) .empty).1.parameterOf? trayFunction).bind
      (·.name?) = some "modifier" := by decide +kernel
  have hclear : NamesAreClear trayFunction trayBody "modifier" :=
    ⟨by decide +kernel, by decide +kernel, by decide +kernel, by decide +kernel⟩
  have htexts : (plainUpperCalls trayBody).map (·.node.text) = ["Box(m)", "Text(modifier)"] := by
    decide +kernel
  have hcalls : trayCalls.map (·.node.text) = ["Box(m)"] := by decide +kernel
  have hscopes : ∀ call, call ∈ trayCalls ↔ _ :=
    (usages_by_name_and_scope hread hf hbody hname).2.2.2 hclear
  refine ⟨hread, hf, hbody, hname, hclear, htexts, hcalls,
    fun call hcall => ((hscopes call).1 hcall).2, fun call hcall htext hroot => ?_⟩
  have hmem := List.mem_map_of_mem (f := (·.node.text)) ((hscopes call).2 ⟨hcall, hroot⟩)
  rw [hcalls, htext] at hmem
  simp at hmem

end ComposeCheck
