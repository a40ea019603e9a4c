import ComposeCheck.Proofs.Shadows

/-!
# What a name refers to

Scopes are searched from the innermost one outwards, and the first that binds the name decides
(`Node.binding?`): in a scope the last of its properties that stands before the use, or else the
scope itself, if it gives the name to what is in it. The test for shadowed names looks only at
properties and at the parameters of lambdas and functions. A name that is not shadowed is bound by
nothing, unless it is bound by one of the other forms, such as a loop (`binding?_eq_none_iff`).
-/

namespace ComposeCheck

namespace Node

/-- The names of the variables that a node declares, of which there may be several. -/
def variableNames (holder : Node) : List String :=
  let several := holder.childOfKind? "multi_variable_declaration"
  ((holder.childOfKind? "variable_declaration").toList ++
    several.toList.flatMap (·.childrenOfKind "variable_declaration")).filterMap
      fun v => (v.childOfKind? "identifier").map text

/-- The names of the properties that stand directly in a node. -/
def propertyNames (holder : Node) : List String :=
  (holder.childrenOfKind "property_declaration").flatMap variableNames

/-- The names of a constructor's parameters, in the head of a class. -/
def constructorNames (type : Node) : List String :=
  let constructor := type.childOfKind? "primary_constructor"
  let list := constructor.bind (·.childOfKind? "class_parameters")
  (list.toList.flatMap (·.childrenOfKind "class_parameter")).filterMap
    fun p => (p.childOfKind? "identifier").map text

/-- The names that a scope gives to a use in it, besides those of parameters of lambdas and
functions: the variable of a loop to its body, that of a `catch` and of a setter to its block, the
subject of a `when` to the entries, and the properties in the body of a `do` to its condition; the
names that the language itself gives in a lambda without parameters and in an accessor; the
parameters of a constructor, and the members of a class in any order. -/
def otherNames (scope use : Node) : List String :=
  let holds (n : Node) : Bool := n == use || n.isAncestorOf use
  let inBody : Bool := (scope.childrenFrom ")").any holds
  let ownName := ((scope.childOfKind? "identifier").map text).toList
  if scope.kind = "for_statement" then if inBody then scope.variableNames else []
  else if scope.kind = "do_while_statement" then
    if (scope.childrenFrom "while").any holds then
      (scope.childOfKind? "block").toList.flatMap propertyNames
    else []
  else if scope.kind = "catch_block" then if inBody then ownName else []
  else if scope.kind = "setter" then if inBody then "field" :: ownName else []
  else if scope.kind = "getter" then ["field"]
  else if scope.kind = "when_expression" then
    if (scope.childrenOfKind "when_entry").any holds then
      (scope.childOfKind? "when_subject").toList.flatMap variableNames
    else []
  else if scope.kind = "lambda_literal" then
    if (scope.childOfKind? "lambda_parameters").isSome then [] else ["it"]
  else if scope.kind = "secondary_constructor" then
    ((scope.childOfKind? "function_value_parameters").toList.flatMap Parameter.allIn).filterMap
      Parameter.name?
  else if scope.kind = "class_declaration" then scope.constructorNames
  else if scope.kind = "class_body" ∨ scope.kind = "enum_class_body" then scope.propertyNames
  else []

/-- The last property of a name that stands before a use directly in a scope; a name is not known
in its own property. -/
def propertyBefore? (scope use : Node) (name : String) : Option Node :=
  (scope.children.filter fun p => p.kind == "property_declaration" && p.id < use.id &&
    !p.isAncestorOf use && p.variableNames.contains name).getLast?

def boundIn? (scope use : Node) (name : String) : Option Node :=
  (scope.propertyBefore? use name).or
    (if (scope.declaredNames ++ scope.otherNames use).contains name then some scope else none)

/-- What a name refers to at a use, if it is bound on the way to a boundary: a property, or the
scope that gives the name. The boundary binds by its properties only. -/
def binding? (use : Node) (name : String) (boundary : Node) : Option Node :=
  ((use.ancestorsBelow boundary).findSome? fun scope => scope.boundIn? use name).or
    (boundary.propertyBefore? use name)

section
variable {holder scope use boundary d : Node} {name : String}

theorem mem_variableNames_iff : name ∈ holder.variableNames ↔ BindsVariable name holder := by
  simp only [variableNames, List.mem_filterMap, List.mem_append, List.mem_flatMap,
    Option.mem_toList, Option.map_eq_some_iff, BindsVariable, IsVariable]

theorem of_propertyBefore? (h : scope.propertyBefore? use name = some d) :
    d.parent? = some scope ∧ d.kind = "property_declaration" ∧ d.id < use.id ∧
      d.isAncestorOf use = false ∧ BindsVariable name d := by
  obtain ⟨hchild, hd⟩ := List.mem_filter.1 (List.mem_of_getLast? h)
  simp only [Bool.and_eq_true, beq_iff_eq, decide_eq_true_eq, Bool.not_eq_true',
    List.contains_iff_mem, mem_variableNames_iff] at hd
  obtain ⟨⟨⟨hkind, hlt⟩, hbeside⟩, hname⟩ := hd
  exact ⟨parent?_of_mem_children hchild, hkind, hlt, hbeside, hname⟩

theorem propertyBefore?_eq_none_iff : scope.propertyBefore? use name = none ↔
    ¬∃ p, p.parent? = some scope ∧ p.kind = "property_declaration" ∧ p.id < use.id ∧
      p.isAncestorOf use = false ∧ BindsVariable name p := by
  rw [← not_iff_not, not_not]
  constructor
  · intro h
    obtain ⟨d, hd⟩ := Option.ne_none_iff_exists'.1 h
    exact ⟨d, of_propertyBefore? hd⟩
  · rintro ⟨p, hparent, hkind, hlt, hbeside, hname⟩ hnone
    have hnil := List.getLast?_eq_none_iff.1 hnone
    refine List.filter_eq_nil_iff.1 hnil p (mem_children_of_parent? hparent) ?_
    simp [hkind, hlt, hbeside, mem_variableNames_iff.2 hname]

theorem boundIn?_eq_none_iff : scope.boundIn? use name = none ↔
    scope.propertyBefore? use name = none ∧ name ∉ scope.declaredNames ∧
      name ∉ scope.otherNames use := by
  simp [boundIn?, Option.or_eq_none_iff, not_or]

theorem binding?_cases (h : use.binding? name boundary = some d) :
    (∃ scope, (scope ∈ use.ancestorsBelow boundary ∨ scope = boundary) ∧
      scope.propertyBefore? use name = some d) ∨
    name ∈ d.declaredNames ++ d.otherNames use := by
  rcases Option.or_eq_some_iff.1 h with h | ⟨-, h⟩
  · obtain ⟨scope, hmem, hscope⟩ := List.exists_of_findSome?_eq_some h
    rcases Option.or_eq_some_iff.1 hscope with h | ⟨-, h⟩
    · exact .inl ⟨scope, .inl hmem, h⟩
    · obtain ⟨hname, heq⟩ := Option.ite_none_right_eq_some.1 h
      exact .inr (Option.some.inj heq ▸ List.contains_iff_mem.1 hname)
  · exact .inl ⟨boundary, .inr rfl, h⟩

end

end Node

namespace SyntaxTree

open Node

section
variable {tree : SyntaxTree} {use boundary d : Node} {name : String}

/-- A name that is not shadowed is bound by nothing, unless it is bound by one of the forms that the
test for shadowed names does not look at. -/
theorem binding?_eq_none_iff (hn : tree.root.NumberedFrom 0) (hmem : use ∈ tree.rootNode.preorder)
    (hunder : use.Under boundary) : use.binding? name boundary = none ↔
      use.isShadowed name boundary = false ∧
        ∀ scope ∈ use.ancestorsBelow boundary, name ∉ scope.otherNames use := by
  have hscopes : use.binding? name boundary = none ↔
      (∀ scope ∈ use.ancestorsBelow boundary, scope.boundIn? use name = none) ∧
        boundary.propertyBefore? use name = none := by
    rw [binding?, Option.or_eq_none_iff, List.findSome?_eq_none_iff]
  have hbefore {block : Node} (hblock : use.Under block)
      (hbelow : block = boundary ∨ block.Under boundary) :
      block.propertyBefore? use name = none ↔ ¬BoundBefore use name boundary block := by
    rw [propertyBefore?_eq_none_iff, BoundBefore, and_iff_right hblock, and_iff_right hbelow]
    refine not_congr (exists_congr fun p => and_congr_right fun hparent => ?_)
    have hp : p ∈ tree.rootNode.preorder := mem_preorder_trans (mem_of_under hmem hblock)
      (mem_preorder_of_mem_children (mem_children_of_parent? hparent))
    rw [← isAncestorOf_iff hn hp hmem, Bool.not_eq_true]
  have hshadowed : use.isShadowed name boundary = false ↔
      ¬BoundByParameter use name boundary ∧ ∀ block, ¬BoundBefore use name boundary block := by
    rw [← Bool.not_eq_true, isShadowed_iff hn hmem hunder, not_or, not_exists]
  rw [hscopes, hshadowed]
  constructor
  · rintro ⟨hinner, houter⟩
    refine ⟨⟨?_, fun block hbound => ?_⟩, fun scope hscope =>
      (boundIn?_eq_none_iff.1 (hinner scope hscope)).2.2⟩
    · rintro ⟨callable, haround, hbelow, htakes⟩
      have hcallable := (mem_ancestorsBelow_iff hn hmem hunder).2 ⟨haround, hbelow⟩
      exact (boundIn?_eq_none_iff.1 (hinner callable hcallable)).2.1
        (mem_declaredNames_iff.2 htakes)
    · refine (hbefore hbound.1 hbound.2.1).1 ?_ hbound
      rcases hbound.2.1 with rfl | hbelow
      · exact houter
      · have hblock := (mem_ancestorsBelow_iff hn hmem hunder).2 ⟨hbound.1, hbelow⟩
        exact (boundIn?_eq_none_iff.1 (hinner block hblock)).1
  · rintro ⟨⟨hparameter, hproperty⟩, hother⟩
    refine ⟨fun scope hscope => ?_, (hbefore hunder (.inl rfl)).2 (hproperty _)⟩
    obtain ⟨haround, hbelow⟩ := (mem_ancestorsBelow_iff hn hmem hunder).1 hscope
    refine boundIn?_eq_none_iff.2
      ⟨(hbefore haround (.inr hbelow)).2 (hproperty _), fun htakes => ?_, hother scope hscope⟩
    exact hparameter ⟨scope, haround, hbelow, mem_declaredNames_iff.1 htakes⟩

/-- A property that a use refers to stands before it. -/
theorem of_binding? (hmem : use ∈ tree.rootNode.preorder) (hunder : use.Under boundary)
    (h : use.binding? name boundary = some d) (hkind : d.kind = "property_declaration") :
    d ∈ tree.rootNode.preorder ∧ d.place.last < use.id := by
  -- A property gives no names to what is in it, so the search has found it as a property.
  obtain ⟨scope, hscope, hfound⟩ := (binding?_cases h).resolve_right
    (by simp [declaredNames, otherNames, hkind])
  obtain ⟨hparent, -, hlt, hbeside, -⟩ := of_propertyBefore? hfound
  have haround : use.Under scope := by
    rcases hscope with hscope | rfl
    · exact mem_ancestors_iff.1 ((List.takeWhile_sublist _).mem hscope)
    · exact hunder
  refine ⟨mem_preorder_trans (mem_of_under hmem haround)
    (mem_preorder_of_mem_children (mem_children_of_parent? hparent)), ?_⟩
  simpa [isAncestorOf, hlt] using hbeside

end

end SyntaxTree

end ComposeCheck
