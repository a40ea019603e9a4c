import ComposeCheck.Proofs.Hoisting
import ComposeCheck.Rules.ContentTrailingLambda

/-!
# Advice on the order of parameters

The expected order is a rearrangement that keeps the order of parameters of one rank and leaves a
lambda at the end where it is (`expectedOrder_cases`). Sorting may bring another lambda to the end,
but then the parameters before it are sorted as well, so nothing is left to advise
(`expectedOrder_idem`). What the rules say of a list depends on the standing of its parameters only,
so the advised list gets no finding in any file in which its parameters have that standing.
-/

namespace ComposeCheck

namespace Rules

section
variable {types types' : LambdaTypes} {modifiers modifiers' : ModifierTypes} {p last : Parameter}
  {ps qs earlier : List Parameter}

/-! ### Ranks -/

theorem filter_rank_filter_rank (j k : Nat) :
    (ps.filter (rank modifiers · == j)).filter (rank modifiers · == k) =
      if j = k then ps.filter (rank modifiers · == k) else [] := by
  rw [List.filter_filter]
  split
  case isTrue h =>
    subst h
    simp only [Bool.and_self]
  case isFalse h =>
    refine List.filter_eq_nil_iff.2 fun p _ hp => h ?_
    rw [Bool.and_eq_true, beq_iff_eq, beq_iff_eq] at hp
    exact hp.2.symm.trans hp.1

theorem filter_rank_byRank (k : Nat) : (byRank modifiers ps).filter (rank modifiers · == k) =
    ps.filter (rank modifiers · == k) := by
  rw [byRank_eq_filter, List.filter_append, List.filter_append, filter_rank_filter_rank,
    filter_rank_filter_rank, filter_rank_filter_rank]
  obtain rfl | rfl | rfl | hk : k = 0 ∨ k = 1 ∨ k = 2 ∨ 2 < k := by omega
  · simp
  · simp
  · simp
  · rw [if_neg (by omega), if_neg (by omega), if_neg (by omega)]
    refine (List.filter_eq_nil_iff.2 fun p _ hp => ?_).symm
    exact absurd (beq_iff_eq.1 hp ▸ rank_le modifiers p) (Nat.not_le.2 hk)

theorem byRank_perm : (byRank modifiers ps).Perm ps := by
  have hdefaults : (ps.filter (fun p => p.hasDefault && modifiers.isModifier p) ++
      ps.filter fun p => p.hasDefault && !modifiers.isModifier p).Perm
        (ps.filter fun p => !!p.hasDefault) := by
    simp only [Bool.not_not, ← List.filter_filter, Bool.and_comm (Parameter.hasDefault _)]
    exact List.filter_append_perm _ _
  rw [byRank, List.append_assoc]
  exact (hdefaults.append_left _).trans (List.filter_append_perm (fun p => !p.hasDefault) ps)

/-! ### The expected order -/

theorem expectedOrder_of_lambda (h : isLambdaTyped types last = true) :
    expectedOrder types modifiers (earlier ++ [last]) = byRank modifiers earlier ++ [last] := by
  obtain ⟨trailing, hsplit, horder⟩ := exists_expectedOrder_eq types modifiers (earlier ++ [last])
  rw [sortable_append_singleton, if_pos h] at hsplit horder
  rw [horder, List.append_cancel_left hsplit]

theorem expectedOrder_of_no_lambda (h : ps.getLast?.any (isLambdaTyped types) = false) :
    expectedOrder types modifiers ps = byRank modifiers ps := by
  obtain ⟨trailing, hsplit, horder⟩ := exists_expectedOrder_eq types modifiers ps
  rw [sortable, if_neg (Bool.eq_false_iff.1 h)] at hsplit horder
  obtain rfl := List.self_eq_append_right.1 hsplit
  rw [horder, List.append_nil]

/-- A lambda at the end stays there and the others are sorted, or all parameters are sorted. -/
theorem expectedOrder_cases (types : LambdaTypes) (modifiers : ModifierTypes)
    (ps : List Parameter) :
    (∃ earlier last, ps = earlier ++ [last] ∧ isLambdaTyped types last = true ∧
      expectedOrder types modifiers ps = byRank modifiers earlier ++ [last]) ∨
    (ps.getLast?.any (isLambdaTyped types) = false ∧
      expectedOrder types modifiers ps = byRank modifiers ps) := by
  cases h : ps.getLast?.any (isLambdaTyped types) with
  | true =>
    obtain ⟨last, hlast, hlambda⟩ := (Option.any_eq_true _ _).1 h
    obtain ⟨earlier, rfl⟩ := List.getLast?_eq_some_iff.1 hlast
    exact .inl ⟨earlier, last, rfl, hlambda, expectedOrder_of_lambda hlambda⟩
  | false => exact .inr ⟨rfl, expectedOrder_of_no_lambda h⟩

theorem expectedOrder_perm : (expectedOrder types modifiers ps).Perm ps := by
  rcases expectedOrder_cases types modifiers ps with ⟨earlier, last, rfl, -, h⟩ | ⟨-, h⟩
  · rw [h]
    exact byRank_perm.append_right _
  · rw [h]
    exact byRank_perm

theorem filter_rank_expectedOrder (k : Nat) :
    (expectedOrder types modifiers ps).filter (rank modifiers · == k) =
      ps.filter (rank modifiers · == k) := by
  rcases expectedOrder_cases types modifiers ps with ⟨earlier, last, rfl, -, h⟩ | ⟨-, h⟩
  · rw [h, List.filter_append, List.filter_append, filter_rank_byRank]
  · rw [h, filter_rank_byRank]

theorem sortable_sublist : (sortable types ps).Sublist ps := by
  rw [sortable]
  split
  · exact List.dropLast_sublist ps
  · exact List.Sublist.refl ps

/-- In the expected order nothing is left to sort, whatever has come to the end. -/
theorem expectedOrder_idem : expectedOrder types modifiers (expectedOrder types modifiers ps) =
    expectedOrder types modifiers ps := by
  rw [expectedOrder_eq_self_iff]
  rcases expectedOrder_cases types modifiers ps with ⟨earlier, last, rfl, hlambda, h⟩ | ⟨-, h⟩
  · rw [h, sortable_append_singleton, if_pos hlambda]
    exact sorted_byRank
  · rw [h]
    exact sorted_byRank.sublist sortable_sublist

theorem getLast?_expectedOrder (hlast : ps.getLast? = some last)
    (hlambda : isLambdaTyped types last = true) :
    (expectedOrder types modifiers ps).getLast? = some last := by
  obtain ⟨earlier, rfl⟩ := List.getLast?_eq_some_iff.1 hlast
  rw [expectedOrder_of_lambda hlambda, List.getLast?_concat]

/-! ### Content slots -/

/-- Whether a parameter is a content slot: a composable lambda named `content`. -/
def isContentSlot (types : LambdaTypes) (p : Parameter) : Bool :=
  p.name? == some "content" && p.type?.any types.isComposableLambda

theorem isLambdaTyped_of_isContentSlot (h : isContentSlot types p = true) :
    isLambdaTyped types p = true := by
  rw [isContentSlot, Bool.and_eq_true, Option.any_eq_true] at h
  obtain ⟨-, type, htype, hcomposable⟩ := h
  rw [isLambdaTyped, htype, Option.any_some, LambdaTypes.isLambda,
    beq_iff_eq.1 (show (types.resolve type == some true) = true from hcomposable)]
  rfl

/-- If the only content slot is at the end, it is so in the expected order. -/
theorem isContentSlot_expectedOrder (modifiers : ModifierTypes)
    (h : ∀ p ∈ ps.dropLast, isContentSlot types p = false) :
    ∀ p ∈ (expectedOrder types modifiers ps).dropLast, isContentSlot types p = false := by
  intro p hp
  rcases expectedOrder_cases types modifiers ps with ⟨earlier, last, rfl, -, horder⟩ | ⟨hnone, -⟩
  · rw [horder, List.dropLast_concat] at hp
    rw [List.dropLast_concat] at h
    exact h p (byRank_perm.subset hp)
  · -- the last parameter is no lambda, so there is no slot at all
    have hmem := expectedOrder_perm.subset ((List.dropLast_sublist _).subset hp)
    cases hlast : ps.getLast? with
    | none => exact absurd (List.getLast?_eq_none_iff.1 hlast ▸ hmem) List.not_mem_nil
    | some last =>
      rw [hlast, Option.any_some] at hnone
      obtain ⟨earlier, rfl⟩ := List.getLast?_eq_some_iff.1 hlast
      rw [List.dropLast_concat] at h
      rcases List.mem_append.1 hmem with hmem | hmem
      · exact h p hmem
      · rw [List.mem_singleton.1 hmem, Bool.eq_false_iff]
        exact fun hslot => absurd (isLambdaTyped_of_isContentSlot hslot) (Bool.eq_false_iff.1 hnone)

/-! ### What the rules say -/

/-- What the rules about the order of parameters see of one: its rank, whether it is a lambda, and
whether it is a content slot. -/
structure Standing where
  rank : Nat
  isLambda : Bool
  isContent : Bool

def standing (types : LambdaTypes) (modifiers : ModifierTypes) (p : Parameter) : Standing :=
  ⟨rank modifiers p, isLambdaTyped types p, isContentSlot types p⟩

theorem sorted_iff_standing (types : LambdaTypes) : Sorted modifiers ps ↔
    (ps.map (standing types modifiers)).Pairwise fun a b => a.rank ≤ b.rank := by
  rw [Sorted, List.pairwise_map]
  rfl

theorem map_standing_sortable : (sortable types ps).map (standing types modifiers) =
    if (ps.map (standing types modifiers)).getLast?.any Standing.isLambda then
      (ps.map (standing types modifiers)).dropLast
    else ps.map (standing types modifiers) := by
  have hany : (ps.map (standing types modifiers)).getLast?.any Standing.isLambda =
      ps.getLast?.any (isLambdaTyped types) := by
    rw [List.getLast?_map, Option.any_map]
    rfl
  rw [hany, sortable]
  split
  · exact List.map_dropLast
  · rfl

theorem expectedOrder_eq_self_congr
    (h : qs.map (standing types' modifiers') = ps.map (standing types modifiers)) :
    expectedOrder types' modifiers' qs = qs ↔ expectedOrder types modifiers ps = ps := by
  rw [expectedOrder_eq_self_iff, expectedOrder_eq_self_iff,
    sorted_iff_standing types', sorted_iff_standing types,
    map_standing_sortable, map_standing_sortable, h]

theorem isContentSlot_dropLast_congr
    (h : qs.map (standing types' modifiers') = ps.map (standing types modifiers)) :
    (∀ p ∈ qs.dropLast, isContentSlot types' p = false) ↔
      ∀ p ∈ ps.dropLast, isContentSlot types p = false := by
  have hall (types : LambdaTypes) (modifiers : ModifierTypes) (ps : List Parameter) :
      (∀ p ∈ ps.dropLast, isContentSlot types p = false) ↔
        ∀ s ∈ (ps.map (standing types modifiers)).dropLast, s.isContent = false := by
    rw [← List.map_dropLast, List.forall_mem_map]
    rfl
  rw [hall types' modifiers', hall types modifiers, h]

end

section
variable {f : FunctionDecl} {occasion : Occasion} {backend : Backend} {memo : Memo}

/-- The types of lambdas that the rules see at a function. -/
def lambdaTypesAt (f : FunctionDecl) (backend : Backend) (memo : Memo) : LambdaTypes :=
  (LambdaTypes.read f.node.root backend memo).1

/-- The modifier types that are read after the types of lambdas. -/
def modifierTypesAt (f : FunctionDecl) (backend : Backend) (memo : Memo) : ModifierTypes :=
  (ModifierTypes.read backend (LambdaTypes.read f.node.root backend memo).2).1

theorem findings_parameterOrder_of_eq (h : expectedOrder (lambdaTypesAt f backend memo)
    (modifierTypesAt f backend memo) f.parameters = f.parameters) :
    (parameterOrder.report (.composable f) occasion backend memo).1.findings = [] := by
  rw [RuleM.report_eq_visit]
  simp only [parameterOrder]
  split
  · rfl
  cases f.parameterList? with
  | none => rfl
  | some list =>
    rw [lambdaTypesAt, modifierTypesAt] at h
    have hids := congrArg (List.map (·.node.id)) h.symm
    dsimp only
    rw [RuleM.liftM_bind_apply, RuleM.liftM_bind_apply, if_pos hids]
    rfl

theorem findings_contentTrailingLambda_eq_nil_iff :
    (contentTrailingLambda.report (.composable f) occasion backend memo).1.findings = [] ↔
      f.hasFixedSignature = true ∨
        ∀ p ∈ f.parameters.dropLast, isContentSlot (lambdaTypesAt f backend memo) p = false := by
  rw [RuleM.report_eq_visit]
  simp only [contentTrailingLambda]
  split
  case isTrue hskipped =>
    refine iff_of_true rfl ((Bool.or_eq_true_iff.1 hskipped).imp_right fun hnone p hp => ?_)
    rw [List.isEmpty_iff.1 hnone] at hp
    exact absurd hp List.not_mem_nil
  case isFalse hchecked =>
    rw [Bool.or_eq_true, not_or] at hchecked
    rw [RuleM.liftM_bind_apply]
    change ((f.parameters.dropLast.find? (isContentSlot (lambdaTypesAt f backend memo))).map
      _).toList = [] ↔ _
    rw [Option.toList_eq_nil_iff, Option.map_eq_none_iff, List.find?_eq_none,
      or_iff_right hchecked.1]
    simp only [Bool.not_eq_true]

end

/-- The advice on the order of parameters rearranges them, and there is no further advice on its
result. Parameters of one rank keep their order, and a lambda at the end stays there, a content slot
among them. A function whose parameters stand as advised has no finding about their order, and none
about its content slot if the function from which the advice comes had none. -/
theorem advice_is_consistent (types : LambdaTypes) (modifiers : ModifierTypes)
    (ps : List Parameter) :
    let advised := expectedOrder types modifiers ps
    advised.Perm ps ∧
    expectedOrder types modifiers advised = advised ∧
    (∀ k, advised.filter (rank modifiers · == k) = ps.filter (rank modifiers · == k)) ∧
    (∀ last, ps.getLast? = some last → isLambdaTyped types last = true ∨
      isContentSlot types last = true → advised.getLast? = some last) ∧
    ∀ (f g : FunctionDecl) (occasion occasion' : Occasion) (backend : Backend) (memo memo' : Memo),
      f.parameters = ps → lambdaTypesAt f backend memo = types →
      g.parameters.map
          (standing (lambdaTypesAt g backend memo') (modifierTypesAt g backend memo')) =
        advised.map (standing types modifiers) →
      (parameterOrder.report (.composable g) occasion' backend memo').1.findings = [] ∧
      (f.hasFixedSignature = false →
        (contentTrailingLambda.report (.composable f) occasion backend memo).1.findings = [] →
        (contentTrailingLambda.report (.composable g) occasion' backend memo').1.findings =
          []) := by
  intro advised
  refine ⟨expectedOrder_perm, expectedOrder_idem, filter_rank_expectedOrder,
    fun last hlast hlambda => ?_,
    fun f g occasion occasion' backend memo memo' hf htypes hg => ⟨?_, fun hfree hnone => ?_⟩⟩
  · exact getLast?_expectedOrder hlast (hlambda.elim id isLambdaTyped_of_isContentSlot)
  · exact findings_parameterOrder_of_eq ((expectedOrder_eq_self_congr hg).2 expectedOrder_idem)
  · rw [findings_contentTrailingLambda_eq_nil_iff, hfree, hf, htypes] at hnone
    have hslots := isContentSlot_expectedOrder modifiers
      (hnone.resolve_left Bool.false_ne_true)
    exact findings_contentTrailingLambda_eq_nil_iff.2
      (.inr ((isContentSlot_dropLast_congr hg).2 hslots))

section
open ParseTree

/-- A function with a lambda before its required parameter, and one that has followed the advice. -/
def advisedFile : String :=
  "@Composable\nfun A(onBack: () -> Unit = back, name: String) \x7b\x7d\n\n" ++
  "@Composable\nfun B(name: String, onBack: () -> Unit = back) \x7b\x7d\n"

def advisedRoot : ParseTree :=
  let title (start : Nat) : ParseTree := named "parameter" start (start + 12)
    [name start (start + 4), token ":" (start + 4) (start + 5), typeName (start + 6) (start + 12)]
  let callback (start : Nat) : List ParseTree :=
    [named "parameter" start (start + 18) [name start (start + 6),
      token ":" (start + 6) (start + 7), plainFunction (start + 8)],
      token "=" (start + 19) (start + 20), name (start + 21) (start + 25)]
  let function (start : Nat) (parameters : List ParseTree) : ParseTree :=
    named "function_declaration" start (start + 61) [named "modifiers" start (start + 11)
        [composableMarker start], token "fun" (start + 12) (start + 15),
      name (start + 16) (start + 17), named "function_value_parameters" (start + 17) (start + 58)
        (token "(" (start + 17) (start + 18) :: parameters ++
          [token ")" (start + 57) (start + 58)]),
      named "function_body" (start + 59) (start + 61) [named "block" (start + 59) (start + 61)
        [token "\x7b" (start + 59) (start + 60), token "\x7d" (start + 60) (start + 61)]]]
  named "source_file" 0 125 [function 0 (callback 18 ++ [token "," 43 44, title 45]),
    function 63 (title 81 :: token "," 93 94 :: callback 95)]

def advisedTree : SyntaxTree :=
  ⟨.ofText advisedFile, SyntaxTree.number (.ofText advisedFile) 0 advisedRoot, false⟩

/-- Following the advice brings the lambda to the end, and nothing is left to advise. -/
theorem advice_is_consistent_callback :
    ∃ (f g : FunctionDecl) (callback title : Parameter),
      FunctionDecl.allIn advisedTree.rootNode = [f, g] ∧ f.hasFixedSignature = false ∧
      f.parameters = [callback, title] ∧
      let types := lambdaTypesAt f (fun _ => none) .empty
      isLambdaTyped types callback = true ∧ isLambdaTyped types title = false ∧
      expectedOrder types ⟨[]⟩ f.parameters = [title, callback] ∧
      expectedOrder types ⟨[]⟩ [title, callback] = [title, callback] ∧
      (expectedOrder types ⟨[]⟩ [title, callback]).getLast? = some callback ∧
      g.parameters.map (standing (lambdaTypesAt g (fun _ => none) .empty)
        (modifierTypesAt g (fun _ => none) .empty)) =
          [title, callback].map (standing types ⟨[]⟩) ∧
      (parameterOrder.report (.composable g) .plain (fun _ => none) .empty).1.findings = [] ∧
      (contentTrailingLambda.report (.composable f) .plain (fun _ => none) .empty).1.findings = [] ∧
      (contentTrailingLambda.report (.composable g) .plain (fun _ => none) .empty).1.findings = [] := by
  have hfile : (FunctionDecl.allIn advisedTree.rootNode).map (fun f => (f.hasFixedSignature,
      f.parameters.map fun p => (rank ⟨[]⟩ p, p.name?))) =
      [(false, [(2, some "onBack"), (0, some "name")]),
        (false, [(0, some "name"), (2, some "onBack")])] := by
    decide +kernel
  have hresolved : (FunctionDecl.allIn advisedTree.rootNode).map (fun f =>
      f.parameters.map fun p => p.type?.map fun type =>
        ((LambdaTypes.collect f.node.root [] []).resolveIn 30 [] type, decide
          (LambdaTypes.reach (LambdaTypes.collect f.node.root [] []).aliases type ≤ 30))) =
      [[some (some (some false), true), some (some none, true)],
        [some (some none, true), some (some (some false), true)]] := by
    decide +kernel
  have hstanding {f : FunctionDecl} {p : Parameter} {k : Nat} {n : String} {answer : Option Bool}
      (hread : (rank ⟨[]⟩ p, p.name?) = (k, some n))
      (htype : p.type?.map (fun type =>
        ((LambdaTypes.collect f.node.root [] []).resolveIn 30 [] type, decide
          (LambdaTypes.reach (LambdaTypes.collect f.node.root [] []).aliases type ≤ 30))) =
        some (some answer, true)) (hname : (some n == some "content") = false) :
      standing (lambdaTypesAt f (fun _ => none) .empty) ⟨[]⟩ p = ⟨k, answer.isSome, false⟩ := by
    obtain ⟨hrank, hread⟩ := Prod.mk.inj hread
    obtain ⟨type, htype, hanswer⟩ := Option.map_eq_some_iff.1 htype
    obtain ⟨hanswer, hreach⟩ := Prod.mk.inj hanswer
    have htypes : lambdaTypesAt f (fun _ => none) .empty = .collect f.node.root [] [] := rfl
    have hlambda : isLambdaTyped (.collect f.node.root [] []) p = answer.isSome := by
      rw [isLambdaTyped, htype, Option.any_some, LambdaTypes.isLambda,
        LambdaTypes.resolve_of_resolveIn (of_decide_eq_true hreach) hanswer]
    rw [htypes, standing, hrank, hlambda, isContentSlot, hread, hname, Bool.false_and]
  obtain ⟨f, _, hall, hf, hrest⟩ := List.map_eq_cons_iff.1 hfile
  obtain ⟨g, _, rfl, hg, hrest⟩ := List.map_eq_cons_iff.1 hrest
  obtain rfl := List.map_eq_nil_iff.1 hrest
  obtain ⟨hfree, hf⟩ := Prod.mk.inj hf
  obtain ⟨-, hg⟩ := Prod.mk.inj hg
  obtain ⟨callback, _, hparameters, hcallback, hrest⟩ := List.map_eq_cons_iff.1 hf
  obtain ⟨title, _, rfl, htitle, hrest⟩ := List.map_eq_cons_iff.1 hrest
  obtain rfl := List.map_eq_nil_iff.1 hrest
  obtain ⟨title', _, hparameters', htitle', hrest⟩ := List.map_eq_cons_iff.1 hg
  obtain ⟨callback', _, rfl, hcallback', hrest⟩ := List.map_eq_cons_iff.1 hrest
  obtain rfl := List.map_eq_nil_iff.1 hrest
  simp only [hall, hparameters, hparameters', List.map_cons, List.map_nil, List.cons.injEq,
    and_true] at hresolved
  obtain ⟨⟨hcallbackType, htitleType⟩, htitleType', hcallbackType'⟩ := hresolved
  have hseen := hstanding hcallback hcallbackType (by decide)
  have hseenTitle := hstanding htitle htitleType (by decide)
  have hlambda := congrArg Standing.isLambda hseen
  have hother := congrArg Standing.isLambda hseenTitle
  have hnoLambda : [callback, title].getLast?.any
      (isLambdaTyped (lambdaTypesAt f (fun _ => none) .empty)) = false := hother
  have horder : expectedOrder (lambdaTypesAt f (fun _ => none) .empty) ⟨[]⟩ f.parameters =
      [title, callback] := by
    rw [hparameters, expectedOrder_of_no_lambda hnoLambda, byRank_eq_filter]
    simp [(Prod.mk.inj hcallback).1, (Prod.mk.inj htitle).1]
  have hstands : g.parameters.map (standing (lambdaTypesAt g (fun _ => none) .empty)
      (modifierTypesAt g (fun _ => none) .empty)) = [title, callback].map
        (standing (lambdaTypesAt f (fun _ => none) .empty) ⟨[]⟩) := by
    rw [hparameters', List.map_cons, List.map_singleton, List.map_cons, List.map_singleton, hseen,
      hseenTitle, ← hstanding htitle' htitleType' (by decide),
      ← hstanding hcallback' hcallbackType' (by decide)]
    rfl
  have hslots : (contentTrailingLambda.report (.composable f) .plain (fun _ => none)
      .empty).1.findings = [] := by
    refine findings_contentTrailingLambda_eq_nil_iff.2 (.inr fun p hp => ?_)
    rw [hparameters] at hp
    rw [List.mem_singleton.1 hp]
    exact congrArg Standing.isContent hseen
  obtain ⟨-, hidem, -, -, hfollowed⟩ := advice_is_consistent
    (lambdaTypesAt f (fun _ => none) .empty) ⟨[]⟩ f.parameters
  rw [horder] at hidem hfollowed
  obtain ⟨-, -, -, hlast, -⟩ := advice_is_consistent
    (lambdaTypesAt f (fun _ => none) .empty) ⟨[]⟩ [title, callback]
  obtain ⟨hnone, hkept⟩ := hfollowed f g .plain .plain (fun _ => none) .empty .empty rfl rfl hstands
  exact ⟨f, g, callback, title, hall, hfree, hparameters, hlambda, hother, horder, hidem,
    hlast callback rfl (.inl hlambda), hstands, hnone, hslots, hkept hfree hslots⟩

end

end Rules

end ComposeCheck
