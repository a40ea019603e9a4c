import ComposeCheck.Proofs.EditPlaces
import ComposeCheck.Proofs.Family
import ComposeCheck.Proofs.Reading

/-!
# Halves of calls

A call with arguments and a trailing lambda stands in two call nodes, one below the other. Each
argument list and each trailing lambda belongs to one `Call`, as long as no call has two trailing
lambdas in a row: of such a call only the last lambda is seen, and neither the arguments nor the
lambdas before it are (`Call.halves_are_seen_once`).
-/

namespace ComposeCheck

namespace Node

variable {n m p c : Node} {kind : String}

theorem parent?_of_mem_children (h : c ∈ n.children) : c.parent? = some n := by
  obtain ⟨i, hi⟩ := List.mem_iff_getElem?.1 h
  exact (of_getElem?_children hi).1

theorem of_childOfKind? (h : n.childOfKind? kind = some c) :
    c.parent? = some n ∧ c.kind = kind := by
  have hkind := List.find?_some h
  exact ⟨parent?_of_mem_children (List.mem_of_find?_eq_some h), beq_iff_eq.1 hkind⟩

theorem parent?_of_firstNamedChild? (h : n.firstNamedChild? = some c) : c.parent? = some n :=
  parent?_of_mem_children (List.mem_filter.1 (List.mem_of_mem_head? h)).1

end Node

namespace Call

open Node

/-- The node with the arguments: the inner half if there are two. -/
def head? (n : Node) : Option Node := if isLambdaHalf n then n.firstNamedChild? else some n

/-- Whether a node is the inner half of a node that is an inner half itself. -/
def isStacked (n : Node) : Bool := isInnerHalf n && n.parent?.any isInnerHalf

section
variable {n m p half : Node} {c : Call}

theorem kind_of_isLambdaHalf (h : isLambdaHalf n = true) : n.kind = "call_expression" := by
  simp only [isLambdaHalf, Bool.and_eq_true, beq_iff_eq] at h
  exact h.1.1.1

theorem kind_of_firstNamedChild? (h : isLambdaHalf p = true) (hn : p.firstNamedChild? = some n) :
    n.kind = "call_expression" := by
  simp only [isLambdaHalf, Bool.and_eq_true, hn, Option.any_some, beq_iff_eq] at h
  exact h.2

theorem isLambdaHalf_of_valueArguments (h : n.childOfKind? "value_arguments" = some half) :
    isLambdaHalf n = false := by
  simp [isLambdaHalf, h]

theorem ofNode?_eq_some_iff : ofNode? n = some c ↔
    n.kind = "call_expression" ∧ isInnerHalf n = false ∧
      ∃ head callee, head? n = some head ∧ head.firstNamedChild? = some callee ∧ c =
        ⟨n, callee, head.childOfKind? "value_arguments", n.childOfKind? "annotated_lambda"⟩ := by
  have hcall : ofNode? n = if n.kind ≠ "call_expression" ∨ isInnerHalf n then none else
      (head? n).bind fun head => head.firstNamedChild?.bind fun callee =>
        some ⟨n, callee, head.childOfKind? "value_arguments",
          n.childOfKind? "annotated_lambda"⟩ := by
    rw [ofNode?, head?]
    split
    · rfl
    · split <;> rfl
  rw [hcall]
  split
  case isTrue h =>
    refine ⟨fun hnone => (Option.some_ne_none c hnone.symm).elim, ?_⟩
    rintro ⟨hkind, hinner, -⟩
    simp [hkind, hinner] at h
  case isFalse h =>
    obtain ⟨hkind, hinner⟩ := not_or.1 h
    simp only [Option.bind_eq_some_iff, Option.some.injEq]
    constructor
    · rintro ⟨head, hhead, callee, hcallee, rfl⟩
      exact ⟨not_not.1 hkind, Bool.eq_false_iff.2 hinner, head, callee, hhead, hcallee, rfl⟩
    · rintro ⟨-, -, head, callee, hhead, hcallee, rfl⟩
      exact ⟨head, hhead, callee, hcallee, rfl⟩

theorem node_of_ofNode? (h : ofNode? n = some c) : c.node = n := by
  obtain ⟨-, -, _, _, -, -, rfl⟩ := ofNode?_eq_some_iff.1 h
  rfl

theorem head?_of_valueArguments? (h : ofNode? m = some c) (hc : c.valueArguments? = some half)
    (hn : half.parent? = some n) :
    head? m = some n ∧ n.childOfKind? "value_arguments" = some half := by
  obtain ⟨-, -, head, _, hhead, -, rfl⟩ := ofNode?_eq_some_iff.1 h
  have hparent := (of_childOfKind? hc).1
  obtain rfl : head = n := Option.some.inj (hparent.symm.trans hn)
  exact ⟨hhead, hc⟩

theorem eq_of_trailing? (h : ofNode? m = some c) (hc : c.trailing? = some half)
    (hn : half.parent? = some n) : m = n ∧ n.childOfKind? "annotated_lambda" = some half := by
  obtain ⟨-, -, _, _, -, -, rfl⟩ := ofNode?_eq_some_iff.1 h
  have hparent := (of_childOfKind? hc).1
  obtain rfl : m = n := Option.some.inj (hparent.symm.trans hn)
  exact ⟨rfl, hc⟩

end

/-! ### In a tree -/

section
variable {tree : SyntaxTree} {n m p half : Node} {c : Call}

theorem isInnerHalf_iff (hn : tree.root.NumberedFrom 0) (hmem : n ∈ tree.rootNode.preorder) :
    isInnerHalf n = true ↔
      ∃ p, n.parent? = some p ∧ isLambdaHalf p = true ∧ p.firstNamedChild? = some n := by
  simp only [isInnerHalf, Option.any_eq_true, Bool.and_eq_true, beq_iff]
  constructor
  · rintro ⟨p, hp, hlambda, first, hfirst, hid⟩
    refine ⟨p, hp, hlambda, ?_⟩
    -- Numbers tell the nodes of a tree apart.
    have hpmem := SyntaxTree.parent?_mem hmem hp
    have hfmem := mem_preorder_trans hpmem (mem_preorder_of_firstNamedChild? hfirst)
    rwa [← SyntaxTree.node_eq_of_id_eq hn hfmem hmem hid]
  · rintro ⟨p, hp, hlambda, hfirst⟩
    exact ⟨p, hp, hlambda, n, hfirst, rfl⟩

/-- A node is the head of itself, or of its parent if it is an inner half. -/
theorem eq_of_head?_eq (hn : tree.root.NumberedFrom 0) (hmem : n ∈ tree.rootNode.preorder)
    (hhead : head? m = some n) :
    m = n ∧ isLambdaHalf n = false ∨ isInnerHalf n = true ∧ n.parent? = some m := by
  rw [head?] at hhead
  split at hhead
  case isTrue hlambda =>
    have hp := parent?_of_firstNamedChild? hhead
    exact .inr ⟨(isInnerHalf_iff hn hmem).2 ⟨m, hp, hlambda, hhead⟩, hp⟩
  case isFalse hlambda =>
    obtain rfl := Option.some.inj hhead
    exact .inl ⟨rfl, Bool.eq_false_iff.2 hlambda⟩

theorem eq_of_head?_eq_head? {m' : Node} (hn : tree.root.NumberedFrom 0)
    (hmem : n ∈ tree.rootNode.preorder) (hm : isInnerHalf m = false)
    (hm' : isInnerHalf m' = false) (hhead : head? m = some n) (hhead' : head? m' = some n) :
    m = m' := by
  rcases eq_of_head?_eq hn hmem hhead with ⟨rfl, -⟩ | ⟨hinner, hp⟩ <;>
    rcases eq_of_head?_eq hn hmem hhead' with ⟨rfl, -⟩ | ⟨hinner', hp'⟩
  · rfl
  · exact absurd hinner' (Bool.eq_false_iff.1 hm)
  · exact absurd hinner (Bool.eq_false_iff.1 hm')
  · exact Option.some.inj (hp.symm.trans hp')

/-- A node that is no outer half is the head of a call unless it is stacked. -/
theorem isStacked_eq_false_iff (hn : tree.root.NumberedFrom 0)
    (hmem : n ∈ tree.rootNode.preorder) (hkind : n.kind = "call_expression")
    (hlambda : isLambdaHalf n = false) :
    isStacked n = false ↔ ∃ m ∈ tree.rootNode.preorder, m.kind = "call_expression" ∧
      isInnerHalf m = false ∧ head? m = some n := by
  constructor
  · intro hstacked
    cases hinner : isInnerHalf n with
    | false => exact ⟨n, hmem, hkind, hinner, by simp [head?, hlambda]⟩
    | true =>
      obtain ⟨p, hp, houter, hfirst⟩ := (isInnerHalf_iff hn hmem).1 hinner
      rw [isStacked, hinner, hp, Option.any_some, Bool.true_and] at hstacked
      exact ⟨p, SyntaxTree.parent?_mem hmem hp, kind_of_isLambdaHalf houter, hstacked,
        by simp [head?, houter, hfirst]⟩
  · rintro ⟨m, -, -, hm, hhead⟩
    rcases eq_of_head?_eq hn hmem hhead with ⟨rfl, -⟩ | ⟨hinner, hp⟩
    · rw [isStacked, hm, Bool.false_and]
    · rw [isStacked, hinner, hp, Option.any_some, Bool.true_and, hm]

/-- The calls that the nodes of a tree are seen as. -/
def allOf (tree : SyntaxTree) : List Call := tree.rootNode.preorder.filterMap ofNode?

theorem mem_allOf_iff : c ∈ allOf tree ↔ ∃ n ∈ tree.rootNode.preorder, ofNode? n = some c :=
  List.mem_filterMap

theorem exists_call (hcallees : ∀ m ∈ tree.rootNode.preorder, m.kind = "call_expression" →
      m.firstNamedChild?.isSome = true)
    (hmem : n ∈ tree.rootNode.preorder) (hkind : n.kind = "call_expression")
    (hinner : isInnerHalf n = false) : ∃ head callee, head? n = some head ∧
      ofNode? n = some ⟨n, callee, head.childOfKind? "value_arguments",
        n.childOfKind? "annotated_lambda"⟩ := by
  obtain ⟨first, hfirst⟩ := Option.isSome_iff_exists.1 (hcallees n hmem hkind)
  cases hlambda : isLambdaHalf n with
  | false =>
    have hhead : head? n = some n := by simp [head?, hlambda]
    exact ⟨n, first, hhead, ofNode?_eq_some_iff.2 ⟨hkind, hinner, n, first, hhead, hfirst, rfl⟩⟩
  | true =>
    have hhead : head? n = some first := by simp [head?, hlambda, hfirst]
    have hfmem := mem_preorder_trans hmem (mem_preorder_of_firstNamedChild? hfirst)
    obtain ⟨callee, hcallee⟩ := Option.isSome_iff_exists.1
      (hcallees first hfmem (kind_of_firstNamedChild? hlambda hfirst))
    exact ⟨first, callee, hhead,
      ofNode?_eq_some_iff.2 ⟨hkind, hinner, first, callee, hhead, hcallee, rfl⟩⟩

end

/-- Exactly one of the calls has this part. -/
def ShownOnce (calls : List Call) (part : Call → Option Node) (half : Node) : Prop :=
  ∃! c, c ∈ calls ∧ part c = some half

/-- None of the calls has this part. -/
def NotShown (calls : List Call) (part : Call → Option Node) (half : Node) : Prop :=
  ∀ c ∈ calls, part c ≠ some half

/-- Where something is called in every call node, the argument list of a call node is that of
exactly one call, unless the node is the inner half of an inner half; and the trailing lambda of a
call node is that of exactly one call, unless the node is an inner half. What is not shown so is in
no call. -/
theorem halves_are_seen_once {parser : Parser} {text : String} {tree : SyntaxTree}
    (hread : SyntaxTree.read? parser text = some tree)
    (hcallees : ∀ m ∈ tree.rootNode.preorder, m.kind = "call_expression" →
      m.firstNamedChild?.isSome = true) :
    ∀ n ∈ tree.rootNode.preorder, n.kind = "call_expression" → ∀ half ∈ n.children,
      (half.kind = "value_arguments" →
        let isSeen := n.childOfKind? "value_arguments" = some half ∧ isStacked n = false
        (isSeen → ShownOnce (allOf tree) valueArguments? half) ∧
        (¬isSeen → NotShown (allOf tree) valueArguments? half)) ∧
      (half.kind = "annotated_lambda" →
        let isSeen := n.childOfKind? "annotated_lambda" = some half ∧ isInnerHalf n = false
        (isSeen → ShownOnce (allOf tree) trailing? half) ∧
        (¬isSeen → NotShown (allOf tree) trailing? half)) := by
  intro n hmem hkind half hhalf
  have hn := SyntaxTree.numberedFrom_of_read? hread
  have hparent := parent?_of_mem_children hhalf
  refine ⟨fun _ => ⟨?_, fun hnot c hc hpart => hnot ?_⟩,
    fun _ => ⟨?_, fun hnot c hc hpart => hnot ?_⟩⟩
  · rintro ⟨hfirst, hstacked⟩
    have hlambda := isLambdaHalf_of_valueArguments hfirst
    obtain ⟨m, hm, hcall, hinner, hhead⟩ :=
      (isStacked_eq_false_iff hn hmem hkind hlambda).1 hstacked
    obtain ⟨head, callee, hhead', hof⟩ := exists_call hcallees hm hcall hinner
    obtain rfl := Option.some.inj (hhead'.symm.trans hhead)
    refine ⟨_, ⟨mem_allOf_iff.2 ⟨m, hm, hof⟩, hfirst⟩, fun c ⟨hc, hpart⟩ => ?_⟩
    obtain ⟨m', hm', hof'⟩ := mem_allOf_iff.1 hc
    have hinner' := (ofNode?_eq_some_iff.1 hof').2.1
    obtain rfl := eq_of_head?_eq_head? hn hmem hinner hinner' hhead
      (head?_of_valueArguments? hof' hpart hparent).1
    exact Option.some.inj (hof'.symm.trans hof)
  · obtain ⟨m, hm, hof⟩ := mem_allOf_iff.1 hc
    obtain ⟨hcall, hinner, -⟩ := ofNode?_eq_some_iff.1 hof
    obtain ⟨hhead, hfirst⟩ := head?_of_valueArguments? hof hpart hparent
    have hlambda := isLambdaHalf_of_valueArguments hfirst
    exact ⟨hfirst, (isStacked_eq_false_iff hn hmem hkind hlambda).2 ⟨m, hm, hcall, hinner, hhead⟩⟩
  · rintro ⟨hfirst, hinner⟩
    obtain ⟨head, callee, -, hof⟩ := exists_call hcallees hmem hkind hinner
    refine ⟨_, ⟨mem_allOf_iff.2 ⟨n, hmem, hof⟩, hfirst⟩, fun c ⟨hc, hpart⟩ => ?_⟩
    obtain ⟨m, -, hof'⟩ := mem_allOf_iff.1 hc
    obtain ⟨rfl, -⟩ := eq_of_trailing? hof' hpart hparent
    exact Option.some.inj (hof'.symm.trans hof)
  · obtain ⟨m, -, hof⟩ := mem_allOf_iff.1 hc
    obtain ⟨rfl, hfirst⟩ := eq_of_trailing? hof hpart hparent
    exact ⟨hfirst, (ofNode?_eq_some_iff.1 hof).2.1⟩

/-- A call with arguments and two trailing lambdas. -/
def stackedFile : String := "val x = foo(1) \x7b 2 \x7d \x7b 3 \x7d"

def stackedParser : Parser := fun text =>
  if text = stackedFile then
    let named (kind : String) (start stop : Nat) (ts : List ParseTree) : ParseTree :=
      .node ⟨kind, true, false, start, stop⟩ ts
    let token (kind : String) (start stop : Nat) : ParseTree :=
      .node ⟨kind, false, false, start, stop⟩ []
    let number (start : Nat) : ParseTree := named "number_literal" start (start + 1) []
    let lambda (start : Nat) : ParseTree := named "annotated_lambda" start (start + 5)
      [named "lambda_literal" start (start + 5) [number (start + 2)]]
    let inner := named "call_expression" 8 14 [named "identifier" 8 11 [],
      named "value_arguments" 11 14 [named "value_argument" 12 13 [number 12]]]
    let middle := named "call_expression" 8 20 [inner, lambda 15]
    let outer := named "call_expression" 8 26 [middle, lambda 21]
    some ⟨named "source_file" 0 26 [named "property_declaration" 0 26
      [token "val" 0 3, named "variable_declaration" 4 5 [named "identifier" 4 5 []],
        token "=" 6 7, outer]], false⟩
  else none

def stackedTree : SyntaxTree := (SyntaxTree.read? stackedParser stackedFile).get (by decide +kernel)

/-- The call nodes, the outermost first. -/
def stackedCall (i : Fin 3) : Node :=
  stackedTree.rootNode.preorder.get ((i.natAdd 6).castLE (by decide +kernel))

theorem stackedCall_mem (i : Fin 3) : stackedCall i ∈ stackedTree.rootNode.preorder :=
  List.get_mem _ _

/-- Only the last lambda is seen. -/
theorem halves_are_seen_once_stackedFile :
    SyntaxTree.read? stackedParser stackedFile = some stackedTree ∧
    (∀ m ∈ stackedTree.rootNode.preorder, m.kind = "call_expression" →
      m.firstNamedChild?.isSome = true) ∧
    ∃ arguments first last,
      (stackedCall 2).childOfKind? "value_arguments" = some arguments ∧
      (stackedCall 1).childOfKind? "annotated_lambda" = some first ∧
      (stackedCall 0).childOfKind? "annotated_lambda" = some last ∧
      NotShown (allOf stackedTree) valueArguments? arguments ∧
      NotShown (allOf stackedTree) trailing? first ∧
      ShownOnce (allOf stackedTree) trailing? last := by
  have hread : SyntaxTree.read? stackedParser stackedFile = some stackedTree :=
    (Option.some_get _).symm
  have hcallees : ∀ m ∈ stackedTree.rootNode.preorder, m.kind = "call_expression" →
      m.firstNamedChild?.isSome = true := by decide +kernel
  have hkind : ∀ i, (stackedCall i).kind = "call_expression" := by decide +kernel
  have harguments : ((stackedCall 2).childOfKind? "value_arguments").isSome = true := by
    decide +kernel
  have hlambda : ∀ i : Fin 2,
      ((stackedCall i.castSucc).childOfKind? "annotated_lambda").isSome = true := by
    decide +kernel
  obtain ⟨arguments, harguments⟩ := Option.isSome_iff_exists.1 harguments
  obtain ⟨first, hfirst⟩ := Option.isSome_iff_exists.1 (hlambda 1)
  obtain ⟨last, hlast⟩ := Option.isSome_iff_exists.1 (hlambda 0)
  have hstacked : isStacked (stackedCall 2) = true := by decide +kernel
  have hinner : isInnerHalf (stackedCall 1) = true := by decide +kernel
  have houter : isInnerHalf (stackedCall 0) = false := by decide +kernel
  have hseen (i : Fin 3) := halves_are_seen_once hread hcallees _ (stackedCall_mem i) (hkind i)
  refine ⟨hread, hcallees, arguments, first, last, harguments, hfirst, hlast, ?_, ?_, ?_⟩
  · have hhidden := (hseen 2 _ (List.mem_of_find?_eq_some harguments)).1
    refine (hhidden (of_childOfKind? harguments).2).2 ?_
    simp [hstacked]
  · have hhidden := (hseen 1 _ (List.mem_of_find?_eq_some hfirst)).2
    refine (hhidden (of_childOfKind? hfirst).2).2 ?_
    simp [hinner]
  · exact ((hseen 0 _ (List.mem_of_find?_eq_some hlast)).2 (of_childOfKind? hlast).2).1
      ⟨hlast, houter⟩

end Call

end ComposeCheck
