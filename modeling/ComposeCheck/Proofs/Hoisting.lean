import ComposeCheck.Proofs.Derivations
import ComposeCheck.Proofs.Insertion

/-!
# Hoisting and the order of parameters

The expected order sorts parameters by rank: required ones, modifiers with a default, others with a
default (`expectedOrder_eq_self_iff`). A hoisted parameter has the highest rank, so it may stand at
the end or in front of a lambda at the end. It is put in front of what has the syntax of a function
type; behind a lambda by another name it takes the last place.
-/

namespace ComposeCheck

namespace Rules

section
variable {types : LambdaTypes} {modifiers : ModifierTypes} {p q : Parameter}
  {ps earlier added : List Parameter} {last : Parameter}

/-! ### The expected order -/

/-- The rank of a parameter in the expected order. -/
def rank (modifiers : ModifierTypes) (p : Parameter) : Nat :=
  if p.hasDefault then if modifiers.isModifier p then 1 else 2 else 0

/-- Whether the type of a parameter is that of a lambda. -/
def isLambdaTyped (types : LambdaTypes) (p : Parameter) : Bool := p.type?.any types.isLambda

/-- The parameters that are sorted: all but a lambda at the end. -/
def sortable (types : LambdaTypes) (ps : List Parameter) : List Parameter :=
  if ps.getLast?.any (isLambdaTyped types) then ps.dropLast else ps

/-- Parameters are sorted if their ranks never go down. -/
def Sorted (modifiers : ModifierTypes) (ps : List Parameter) : Prop :=
  ps.Pairwise fun p q => rank modifiers p ≤ rank modifiers q

/-- The parameters rank by rank. -/
def byRank (modifiers : ModifierTypes) (ps : List Parameter) : List Parameter :=
  (ps.filter fun p => !p.hasDefault) ++
    (ps.filter fun p => p.hasDefault && modifiers.isModifier p) ++
    (ps.filter fun p => p.hasDefault && !modifiers.isModifier p)

theorem byRank_eq_filter : byRank modifiers ps = ps.filter (rank modifiers · == 0) ++
    ps.filter (rank modifiers · == 1) ++ ps.filter (rank modifiers · == 2) := by
  have hrank (p : Parameter) : (rank modifiers p == 0) = !p.hasDefault ∧
      (rank modifiers p == 1) = (p.hasDefault && modifiers.isModifier p) ∧
      (rank modifiers p == 2) = (p.hasDefault && !modifiers.isModifier p) := by
    rw [rank]
    cases p.hasDefault <;> cases modifiers.isModifier p <;> decide
  rw [byRank, List.filter_congr fun p _ => (hrank p).1, List.filter_congr fun p _ => (hrank p).2.1,
    List.filter_congr fun p _ => (hrank p).2.2]

theorem rank_le (modifiers : ModifierTypes) (p : Parameter) : rank modifiers p ≤ 2 := by
  rw [rank]
  split
  · split <;> decide
  · decide

theorem sorted_filter (k : Nat) : Sorted modifiers (ps.filter (rank modifiers · == k)) :=
  List.pairwise_of_forall_mem_list fun _ hp _ hq => Nat.le_of_eq
    ((beq_iff_eq.1 (List.mem_filter.1 hp).2).trans (beq_iff_eq.1 (List.mem_filter.1 hq).2).symm)

theorem sorted_append {qs : List Parameter} : Sorted modifiers (ps ++ qs) ↔
    Sorted modifiers ps ∧ Sorted modifiers qs ∧
      ∀ p ∈ ps, ∀ q ∈ qs, rank modifiers p ≤ rank modifiers q := List.pairwise_append

theorem sorted_byRank : Sorted modifiers (byRank modifiers ps) := by
  have hmem {k : Nat} {p : Parameter} (h : p ∈ ps.filter (rank modifiers · == k)) :
      rank modifiers p = k := beq_iff_eq.1 (List.mem_filter.1 h).2
  rw [byRank_eq_filter, sorted_append, sorted_append]
  refine ⟨⟨sorted_filter 0, sorted_filter 1, fun p hp q _ => ?_⟩, sorted_filter 2,
    fun p _ q hq => ?_⟩
  · exact hmem hp ▸ Nat.zero_le _
  · exact hmem hq ▸ rank_le modifiers p

theorem byRank_eq_self (h : Sorted modifiers ps) : byRank modifiers ps = ps := by
  rw [byRank_eq_filter]
  induction ps with
  | nil => rfl
  | cons p ps ih =>
    obtain ⟨hp, hps⟩ := List.pairwise_cons.1 h
    have hnone {k : Nat} (hk : k < rank modifiers p) : ps.filter (rank modifiers · == k) = [] :=
      List.filter_eq_nil_iff.2 fun q hq heq =>
        absurd (hp q hq) (Nat.not_le.2 (beq_iff_eq.1 heq ▸ hk))
    have ih := ih hps
    have hrank := rank_le modifiers p
    obtain hk | hk | hk : rank modifiers p = 0 ∨ rank modifiers p = 1 ∨ rank modifiers p = 2 := by
      omega
    · simp only [List.filter_cons, hk, beq_self_eq_true, if_true, List.cons_append]
      exact congrArg (p :: ·) ih
    · rw [hnone (k := 0) (by omega)] at ih
      simp only [List.filter_cons, hk, beq_self_eq_true, if_true]
      rw [hnone (k := 0) (by omega)]
      exact congrArg (p :: ·) ih
    · rw [hnone (k := 0) (by omega), hnone (k := 1) (by omega)] at ih
      simp only [List.filter_cons, hk, beq_self_eq_true, if_true]
      rw [hnone (k := 0) (by omega), hnone (k := 1) (by omega)]
      exact congrArg (p :: ·) ih

theorem sortable_append_singleton : sortable types (earlier ++ [last]) =
    if isLambdaTyped types last then earlier else earlier ++ [last] := by
  rw [sortable, List.getLast?_concat, List.dropLast_concat]
  rfl

theorem exists_expectedOrder_eq (types : LambdaTypes) (modifiers : ModifierTypes)
    (ps : List Parameter) : ∃ trailing, ps = sortable types ps ++ trailing ∧
      expectedOrder types modifiers ps = byRank modifiers (sortable types ps) ++ trailing := by
  by_cases h : ps.getLast?.any (isLambdaTyped types) = true
  · obtain ⟨last, hlast, -⟩ := (Option.any_eq_true _ _).1 h
    refine ⟨[last], ?_, ?_⟩
    · rw [sortable, if_pos h]
      exact (List.dropLast_append_getLast? last hlast).symm
    · rw [sortable, if_pos h, expectedOrder]
      change (ps.getLast?.any fun p => p.type?.any types.isLambda) = true at h
      rw [if_pos h, if_pos h, hlast]
      rfl
  · refine ⟨[], ?_, ?_⟩
    · rw [sortable, if_neg h, List.append_nil]
    · rw [sortable, if_neg h, expectedOrder]
      change ¬(ps.getLast?.any fun p => p.type?.any types.isLambda) = true at h
      rw [if_neg h, if_neg h]
      rfl

/-- Parameters stand in the expected order iff all but a lambda at the end are sorted. -/
theorem expectedOrder_eq_self_iff :
    expectedOrder types modifiers ps = ps ↔ Sorted modifiers (sortable types ps) := by
  obtain ⟨trailing, hps, horder⟩ := exists_expectedOrder_eq types modifiers ps
  rw [horder]
  constructor
  · intro h
    have hsame := List.append_cancel_right (h.trans hps)
    exact hsame ▸ sorted_byRank
  · intro h
    rw [byRank_eq_self h, ← hps]

/-! ### Hoisted parameters -/

/-- Parameters of the highest rank may stand at the end. -/
theorem sorted_append_of_highest (h : ∀ p ∈ added, rank modifiers p = 2) :
    Sorted modifiers (ps ++ added) ↔ Sorted modifiers ps := by
  rw [sorted_append]
  refine ⟨fun hsorted => hsorted.1, fun hsorted => ⟨hsorted, ?_, fun p _ q hq => ?_⟩⟩
  · exact List.pairwise_of_forall_mem_list fun p hp q hq =>
      Nat.le_of_eq ((h p hp).trans (h q hq).symm)
  · exact h q hq ▸ rank_le modifiers p

theorem rank_of_mem_carrying {modifiers? : Option Node}
    (h : ∀ p ∈ added, rank modifiers p = 2) :
    ∀ p ∈ Parameter.carrying modifiers? added, rank modifiers p = 2 := by
  cases added with
  | nil => exact h
  | cons q added =>
    intro p hp
    rcases List.mem_cons.1 hp with rfl | hp
    · exact h q List.mem_cons_self
    · exact h p (List.mem_cons_of_mem q hp)

end

end Rules

section
open Rules
open Parameter (Added)

variable {tree : SyntaxTree} {f : FunctionDecl} {list : Node} {types : LambdaTypes}
  {modifiers : ModifierTypes}

theorem Rules.rank_added {a : Added} (h : modifiers.isModifier a.parameter = false) :
    rank modifiers a.parameter = 2 := by
  rw [rank, h]
  rfl

theorem Rules.isLambdaTyped_of_isFunctionTyped {p : Parameter} (h : p.isFunctionTyped = true) :
    isLambdaTyped types p = true := by
  rw [Parameter.isFunctionTyped, Option.any_eq_true] at h
  obtain ⟨type, htype, h⟩ := h
  rw [isLambdaTyped, htype]
  exact LambdaTypes.isLambda_of_isFunctionType h

theorem Rules.rank_of_mem_map_added {added : List Added}
    (hplain : ∀ a ∈ added, isLambdaTyped types a.parameter = false ∧
      modifiers.isModifier a.parameter = false) :
    ∀ p ∈ added.map Added.parameter, rank modifiers p = 2 := by
  intro p hp
  obtain ⟨a, ha, rfl⟩ := List.mem_map.1 hp
  exact rank_added (hplain a ha).2

/-- Behind parameters, added ones keep the expected order iff all of the others are sorted. -/
theorem Rules.expectedOrder_append_added_iff {added : List Added} {ps : List Parameter}
    (hadded : added ≠ [])
    (hplain : ∀ a ∈ added, isLambdaTyped types a.parameter = false ∧
      modifiers.isModifier a.parameter = false) :
    expectedOrder types modifiers (ps ++ added.map Added.parameter) =
      ps ++ added.map Added.parameter ↔ Sorted modifiers ps := by
  have hsortable : sortable types (ps ++ added.map Added.parameter) =
      ps ++ added.map Added.parameter := by
    obtain ⟨others, final, rfl⟩ : ∃ others final, added = others ++ [final] :=
      ⟨_, _, (List.dropLast_append_getLast hadded).symm⟩
    have hfinal := hplain final (List.mem_append_right _ (List.mem_singleton_self final))
    rw [List.map_append, List.map_singleton, ← List.append_assoc, sortable_append_singleton,
      if_neg (Bool.eq_false_iff.1 hfinal.1)]
  rw [expectedOrder_eq_self_iff, hsortable]
  exact sorted_append_of_highest (rank_of_mem_map_added hplain)

/-- In front of a lambda at the end, added parameters keep the expected order iff all of the others
are sorted. -/
theorem Rules.expectedOrder_insert_added_iff {added : List Added} {earlier : List Parameter}
    {last : Parameter} {modifiers? : Option Node} (hlast : isLambdaTyped types last = true)
    (hplain : ∀ a ∈ added, isLambdaTyped types a.parameter = false ∧
      modifiers.isModifier a.parameter = false) :
    let after := earlier ++ Parameter.carrying modifiers? (added.map Added.parameter) ++ [last]
    expectedOrder types modifiers after = after ↔ Sorted modifiers earlier := by
  intro after
  rw [expectedOrder_eq_self_iff, sortable_append_singleton, if_pos hlast]
  exact sorted_append_of_highest (rank_of_mem_carrying (rank_of_mem_map_added hplain))

/-- Hoisting keeps the expected order and a lambda at the end if that lambda has the syntax of a
function type or there is none. Behind any other lambda a hoisted parameter takes the last place,
and the order is kept only if the lambda has its place among the others. -/
theorem hoisting_keeps_order (hwell : tree.WellFormed)
    (hf : f.node ∈ tree.rootNode.preorder) (hlist : f.parameterList? = some list)
    (horderly : Parameter.isOrderly list.children = true)
    (horder : expectedOrder types modifiers f.parameters = f.parameters)
    {added : List Added} (hadded : added ≠ [])
    (hplain : ∀ a ∈ added, isLambdaTyped types a.parameter = false ∧
      modifiers.isModifier a.parameter = false) :
    let edits := Rules.addParameters f (", ".intercalate (added.map Added.text))
    let after := Parameter.reread list added edits
    (f.parameters = [] → expectedOrder types modifiers after = after) ∧
    ∀ earlier last, f.parameters = earlier ++ [last] →
      (isLambdaTyped types last = false ∨ last.isFunctionTyped = true →
        expectedOrder types modifiers after = after ∧
        (isLambdaTyped types last = true →
          after.getLast?.map Parameter.node = some last.node)) ∧
      (isLambdaTyped types last = true → last.isFunctionTyped = false →
        (∃ a ∈ added, after.getLast? = some a.parameter) ∧
        (expectedOrder types modifiers after = after ↔
          ∀ p ∈ earlier, rank modifiers p ≤ rank modifiers last)) := by
  intro edits after
  have hmem : list ∈ tree.rootNode.preorder :=
    Node.mem_preorder_trans hf (Node.mem_preorder_of_childOfKind? hlist)
  refine ⟨fun hnone => ?_, fun earlier last hlast => ?_⟩
  · have hafter : after = [] ++ added.map Added.parameter := Parameter.reread_of_nil hlist hnone
    rw [hafter]
    exact (expectedOrder_append_added_iff hadded hplain).2 List.Pairwise.nil
  rw [hlast, expectedOrder_eq_self_iff, sortable_append_singleton] at horder
  have hbehind (htyped : last.isFunctionTyped = false) :
      after = earlier ++ [last] ++ added.map Added.parameter :=
    Parameter.reread_of_not_isFunctionTyped hwell hmem hlist horderly hlast htyped
  refine ⟨fun hkept => ?_, fun hlambda htyped => ⟨?_, ?_⟩⟩
  · cases htyped : last.isFunctionTyped with
    | true =>
      have hlambda : isLambdaTyped types last = true := isLambdaTyped_of_isFunctionTyped htyped
      have hbare : isLambdaTyped types { last with modifiers? := none } = true := hlambda
      have hafter : after = _ :=
        Parameter.reread_of_isFunctionTyped hwell hmem hlist horderly hlast htyped hadded
      rw [if_pos hlambda] at horder
      rw [hafter, List.getLast?_concat]
      exact ⟨(expectedOrder_insert_added_iff hbare hplain).2 horder, fun _ => rfl⟩
    | false =>
      have hother : isLambdaTyped types last = false :=
        hkept.resolve_right (Bool.eq_false_iff.1 htyped)
      rw [if_neg (Bool.eq_false_iff.1 hother)] at horder
      rw [hbehind htyped]
      exact ⟨(expectedOrder_append_added_iff hadded hplain).2 horder,
        fun hlambda => absurd (hother.symm.trans hlambda) Bool.false_ne_true⟩
  · obtain ⟨others, final, rfl⟩ : ∃ others final, added = others ++ [final] :=
      ⟨_, _, (List.dropLast_append_getLast hadded).symm⟩
    refine ⟨final, List.mem_append_right _ (List.mem_singleton_self final), ?_⟩
    rw [hbehind htyped, List.map_append, List.map_singleton, ← List.append_assoc,
      List.getLast?_concat]
  · rw [if_pos hlambda] at horder
    rw [hbehind htyped, expectedOrder_append_added_iff hadded hplain, sorted_append]
    simp only [List.mem_singleton, forall_eq]
    exact ⟨fun h => h.2.2, fun h => ⟨horder, List.pairwise_singleton _ _, h⟩⟩

end

section
open ParseTree

/-- A last parameter whose type is an alias of a function type, and a state holder that is
fetched. -/
def callbackFile : String := "typealias Callback = () -> Unit\n\n@Composable\n" ++
  "fun A(x: Int = 1, onBack: Callback) \x7b\n    val vm = viewModel<VM>()\n\x7d\n"

def callbackRoot : ParseTree :=
  let modifiers := named "modifiers" 33 44 [composableMarker 33]
  let parameters := named "function_value_parameters" 50 80 [token "(" 50 51,
    letterParameter 51 (typeName 54 57), token "=" 58 59,
    named "number_literal" 60 61 [], token "," 61 62,
    named "parameter" 63 79 [name 63 69, token ":" 69 70, typeName 71 79], token ")" 79 80]
  let property := named "property_declaration" 87 111 [token "val" 87 90,
    named "variable_declaration" 91 93 [name 91 93], token "=" 94 95, fetch 96]
  named "source_file" 0 114 [named "type_alias" 0 31 [token "typealias" 0 9, name 10 18,
      token "=" 19 20, plainFunction 21],
    named "function_declaration" 33 113 [modifiers, token "fun" 45 48, name 49 50, parameters,
      named "function_body" 81 113 [named "block" 81 113
        [token "\x7b" 81 82, property, token "\x7d" 112 113]]]]

def callbackTree : SyntaxTree :=
  ⟨.ofText callbackFile, SyntaxTree.number (.ofText callbackFile) 0 callbackRoot, false⟩

theorem wellFormed_callbackTree : callbackTree.WellFormed :=
  SyntaxTree.wellFormed_number ⟨by decide +kernel, by decide +kernel⟩

def callbackTypes : LambdaTypes := .collect callbackTree.rootNode [] []

def callbackRun : Run :=
  (dispatch callbackTree (.of "" "A.kt" callbackFile) [⟨Rules.viewModelInjection, .error⟩] .fix
    (fun _ => none) .empty).1

/-- The parameter for the state holder takes the last place from the lambda, and the parameters no
longer stand in the expected order. -/
theorem hoisting_keeps_order_callback :
    callbackTree.WellFormed ∧ ∃ (f : FunctionDecl) (list : Node) (x last : Parameter),
      f.node ∈ callbackTree.rootNode.preorder ∧ f.parameterList? = some list ∧
      Parameter.isOrderly list.children = true ∧ f.parameters = [x, last] ∧
      Rules.expectedOrder callbackTypes ⟨[]⟩ f.parameters = f.parameters ∧
      Rules.isLambdaTyped callbackTypes last = true ∧ last.isFunctionTyped = false ∧
      (let after := Parameter.reread list [holder] (Rules.addParameters f holder.text)
      after.getLast? = some holder.parameter ∧
        Rules.expectedOrder callbackTypes ⟨[]⟩ after ≠ after) ∧
      callbackTree.render callbackRun.rewrites = "typealias Callback = () -> Unit\n\n" ++
        "@Composable\nfun A(x: Int = 1, onBack: Callback, vm: VM = viewModel<VM>()) \x7b\n" ++
        "    \n\x7d\n" := by
  have hfile : (FunctionDecl.allIn callbackTree.rootNode).map (fun f =>
      (f.parameterList?.map fun list => Parameter.isOrderly list.children,
        f.parameters.map fun p => (p.isFunctionTyped, Rules.rank ⟨[]⟩ p))) =
      [(some true, [(false, 2), (false, 0)])] := by
    decide +kernel
  have htypes : (FunctionDecl.allIn callbackTree.rootNode).map (fun f =>
      f.parameters.map fun p => p.type?.map fun type =>
        ((callbackTypes.resolveIn 30 [] type).map Option.isSome,
          decide (LambdaTypes.reach callbackTypes.aliases type ≤ 30))) =
      [[some (some false, true), some (some true, true)]] := by
    decide +kernel
  have hholder : holder.parameter.type?.map (fun type =>
      ((callbackTypes.resolveIn 30 [] type).map Option.isSome,
        decide (LambdaTypes.reach callbackTypes.aliases type ≤ 30))) = some (some false, true) := by
    decide +kernel
  have hrender : callbackTree.render callbackRun.rewrites = "typealias Callback = () -> Unit\n\n" ++
        "@Composable\nfun A(x: Int = 1, onBack: Callback, vm: VM = viewModel<VM>()) \x7b\n" ++
        "    \n\x7d\n" := by
    decide +kernel
  have hlambdas {p : Parameter} {lambda : Bool} (h : p.type?.map (fun type =>
      ((callbackTypes.resolveIn 30 [] type).map Option.isSome,
        decide (LambdaTypes.reach callbackTypes.aliases type ≤ 30))) = some (some lambda, true)) :
      Rules.isLambdaTyped callbackTypes p = lambda := by
    obtain ⟨type, htype, h⟩ := Option.map_eq_some_iff.1 h
    obtain ⟨hresolved, hreach⟩ := Prod.mk.inj h
    obtain ⟨answer, hanswer, rfl⟩ := Option.map_eq_some_iff.1 hresolved
    rw [Rules.isLambdaTyped, htype, Option.any_some, LambdaTypes.isLambda,
      LambdaTypes.resolve_of_resolveIn (of_decide_eq_true hreach) hanswer]
  obtain ⟨f, others, hfound, hf, hothers⟩ := List.map_eq_cons_iff.1 hfile
  obtain rfl := List.map_eq_nil_iff.1 hothers
  obtain ⟨hlist, hparameters⟩ := Prod.mk.inj hf
  obtain ⟨list, hlist, horderly⟩ := Option.map_eq_some_iff.1 hlist
  obtain ⟨x, _, hx, hxRead, hrest⟩ := List.map_eq_cons_iff.1 hparameters
  obtain ⟨last, _, rfl, hlastRead, hrest⟩ := List.map_eq_cons_iff.1 hrest
  obtain rfl := List.map_eq_nil_iff.1 hrest
  obtain ⟨-, hxRank⟩ := Prod.mk.inj hxRead
  obtain ⟨htyped, hlastRank⟩ := Prod.mk.inj hlastRead
  have hlambda : Rules.isLambdaTyped callbackTypes last = true := by
    rw [hfound, List.map_singleton, hx] at htypes
    obtain ⟨-, htypes⟩ := List.cons.inj (List.singleton_inj.1 htypes)
    exact hlambdas (List.singleton_inj.1 htypes)
  have hnode : f.node ∈ callbackTree.rootNode.preorder :=
    FunctionDecl.mem_preorder_of_mem_allIn (hfound ▸ List.mem_cons_self)
  have horder : Rules.expectedOrder callbackTypes ⟨[]⟩ f.parameters = f.parameters := by
    rw [hx, show [x, last] = [x] ++ [last] from rfl, Rules.expectedOrder_eq_self_iff,
      Rules.sortable_append_singleton, if_pos hlambda]
    exact List.pairwise_singleton _ _
  have hplain : ∀ a ∈ [holder], Rules.isLambdaTyped callbackTypes a.parameter = false ∧
      (⟨[]⟩ : ModifierTypes).isModifier a.parameter = false := by
    rw [List.forall_mem_singleton]
    exact ⟨hlambdas hholder, by decide +kernel⟩
  obtain ⟨-, hkept⟩ := hoisting_keeps_order wellFormed_callbackTree hnode hlist horderly horder
    (List.cons_ne_nil _ _) hplain
  obtain ⟨⟨a, ha, hend⟩, hsorted⟩ := (hkept [x] last hx).2 hlambda htyped
  obtain rfl := List.mem_singleton.1 ha
  refine ⟨wellFormed_callbackTree, f, list, x, last, hnode, hlist, horderly, hx, horder, hlambda,
    htyped, ⟨hend, fun hkept => ?_⟩, hrender⟩
  have hle := hsorted.1 hkept x (List.mem_singleton_self x)
  rw [hxRank, hlastRank] at hle
  exact absurd hle (by decide)

end

end ComposeCheck
