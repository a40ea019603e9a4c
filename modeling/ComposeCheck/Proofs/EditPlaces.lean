import ComposeCheck.Catalogue
import ComposeCheck.Proofs.Carried
import ComposeCheck.Proofs.Plans
import ComposeCheck.Proofs.Weaving

/-!
# Where rules edit, and what they notice

A rule edits nothing but nodes at or below the one at which it is asked (`EditsBelow`), it edits
nothing if nothing is corrected, and it does not notice what has been asked before (`Independent`).
It could: a rule that tells the current text of a node is not independent
(`not_independent_of_currentText`). Most rules only report; four have fixes. `tame_of_mem_allRules`
puts them together.
-/

namespace ComposeCheck

open OptionM RuleM

def Visit.node : Visit → Node
  | .file root => root
  | .type declaration => declaration
  | .function f => f.node
  | .composable f => f.node

namespace Plan

/-- All edits to which a plan can lead are edits of these nodes. -/
structure EditsIn (plan : Plan) (nodes : List Node) : Prop where
  fixes : ∀ finding ∈ plan.findings, ∀ edit ∈ finding.fix?.getD [], edit.node ∈ nodes
  shared : ∀ corrected, ∀ edit ∈ plan.conclude corrected, edit.node ∈ nodes

/-- If nothing is corrected, the findings have nothing to share. -/
def Idle (plan : Plan) : Prop :=
  ∀ corrected, (∀ c ∈ corrected, c = false) → plan.conclude corrected = []

/-- A plan that edits these nodes only, and nothing unless something is corrected. It fails on a sum
only if it may. -/
structure TameIn (plan : Plan) (nodes : List Node) (mayFail : Prop) : Prop where
  editsIn : plan.EditsIn nodes
  idle : plan.Idle
  fails : plan.overflowed = true → mayFail

section
variable {plan : Plan} {nodes : List Node} {outcome : Finding → Outcome}

theorem EditsIn.node_mem (h : plan.EditsIn nodes) :
    ∀ edit ∈ plan.edits outcome, edit.node ∈ nodes := by
  intro edit hedit
  rcases List.mem_append.1 hedit with hedit | hedit
  · obtain ⟨finding, hfinding, hedit⟩ := List.mem_flatMap.1 hedit
    rw [Finding.edits] at hedit
    split at hedit
    · exact h.fixes finding hfinding edit hedit
    · exact absurd hedit List.not_mem_nil
  · exact h.shared _ edit hedit

theorem Idle.edits_eq_nil (h : plan.Idle)
    (ho : ∀ finding ∈ plan.findings, outcome finding ≠ .corrected) : plan.edits outcome = [] := by
  refine List.append_eq_nil_iff.2 ⟨List.flatMap_eq_nil_iff.2 fun finding hfinding => ?_, ?_⟩
  · exact if_neg (ho finding hfinding)
  · refine h _ fun c hc => ?_
    obtain ⟨finding, hfinding, rfl⟩ := List.mem_map.1 hc
    exact decide_eq_false (ho finding hfinding)

end

end Plan

namespace Rule

/-- Whatever the options are and whatever has been rewritten, a rule edits at or below the node at
which it is asked. -/
def EditsBelow (rule : Rule) : Prop :=
  ∀ visit occasion, Yields (rule.report visit occasion) fun report =>
    ∀ edit ∈ report.edits, edit.node ∈ visit.node.preorder

/-- Whether a rule adds up what composables emit. -/
def CountsEmissions (rule : Rule) : Prop :=
  rule.code = Rules.multipleContentEmitters.code ∨
    rule.code = Rules.contentEmitterReturningValues.code

/-- Whatever has been asked before, a rule says the same. What has been rewritten and what becomes
of its findings shows neither in them nor in what it asks; it edits nothing unless it corrects, and
it fails on a sum only if it counts emissions. -/
structure Independent (rule : Rule) : Prop where
  steady : ∀ visit occasion, Steady (rule.report visit occasion)
  idle : ∀ visit occasion, Yields (rule.report visit occasion) fun report =>
    (∀ finding ∈ report.findings, occasion.outcome finding ≠ .corrected) → report.edits = []
  memo_eq : ∀ visit occasion other backend memo,
    (rule.report visit occasion backend memo).2 = (rule.report visit other backend memo).2
  findings_eq : ∀ visit occasion other backend memo,
    (rule.report visit occasion backend memo).1.findings =
      (rule.report visit other backend memo).1.findings
  overflowed_eq : ∀ visit occasion other backend memo,
    (rule.report visit occasion backend memo).1.overflowed =
      (rule.report visit other backend memo).1.overflowed
  fails : ∀ visit occasion, Yields (rule.report visit occasion) fun report =>
    report.overflowed = true → rule.CountsEmissions

/-- A rule carries out a plan: one that edits at or below the node at which the rule is asked, and
nothing unless it corrects, and that does not depend on what has been asked before. -/
def Tame (rule : Rule) : Prop :=
  ∀ visit, (rule.visit visit).Plans (·.TameIn visit.node.preorder rule.CountsEmissions)

/-- What a rule says and does at a visit comes of its plan. -/
theorem Tame.exists_plan {rule : Rule} (h : rule.Tame) (visit : Visit) :
    ∃ plan : OptionM Plan, Asks plan (·.TameIn visit.node.preorder rule.CountsEmissions) ∧
      ∀ occasion,
      rule.report visit occasion = plan >>= fun plan => pure (plan.report occasion.outcome) := by
  obtain ⟨plan, hasks, hcarries⟩ := h visit
  exact ⟨plan, hasks, hcarries.report_eq⟩

theorem Tame.editsBelow {rule : Rule} (h : rule.Tame) : rule.EditsBelow := by
  intro visit occasion backend memo
  obtain ⟨plan, hasks, hreport⟩ := h.exists_plan visit
  rw [hreport]
  exact (hasks.yields backend memo).editsIn.node_mem

theorem Tame.independent {rule : Rule} (h : rule.Tame) : rule.Independent := by
  refine ⟨fun visit occasion => ?_, fun visit occasion backend memo => ?_,
    fun visit occasion other backend memo => ?_, fun visit occasion other backend memo => ?_,
    fun visit occasion other backend memo => ?_, fun visit occasion backend memo => ?_⟩
  all_goals
    obtain ⟨plan, hasks, hreport⟩ := h.exists_plan visit
    simp only [hreport]
  · exact hasks.steady.bind fun _ => steady_pure _
  · exact (hasks.yields backend memo).idle.edits_eq_nil
  · rfl
  · rfl
  · rfl
  · exact (hasks.yields backend memo).fails

/-- A rule that tells the current text of a node notices what has been rewritten. -/
theorem not_independent_of_currentText {rule : Rule} {visit : Visit} {tree : SyntaxTree} {n : Node}
    (hwell : tree.WellFormed) (hn : n ∈ tree.rootNode.preorder)
    (hvisit : rule.visit visit = do tell [{ node := n, message := ← currentText n }]) :
    ¬rule.Independent := by
  intro h
  have htold (text : String) : ((rule.report visit ⟨Rewrites.none.set n.id text, fun _ => .reported⟩
      (fun _ => none) .empty).1.findings.map (·.message)) = [text] := by
    rw [report_eq_visit, hvisit]
    exact congrArg (fun told => [told]) (SyntaxTree.currentText_set hwell hn)
  have hsame := (htold "").symm.trans
    ((congrArg (List.map (·.message)) (h.findings_eq visit _ _ _ .empty)).trans (htold "x"))
  exact absurd hsame (by decide)

end Rule

namespace RuleM

section
variable {nodes : List Node} {mayFail : Prop} {findings : List Finding} {finding : Finding}

theorem tameIn_of_fixes (h : ∀ f ∈ findings, ∀ edit ∈ f.fix?.getD [], edit.node ∈ nodes) :
    ({ findings } : Plan).TameIn nodes mayFail :=
  ⟨⟨h, fun _ _ hedit => absurd hedit List.not_mem_nil⟩, fun _ _ => rfl, Bool.noConfusion⟩

theorem plans_silent : Plans (pure ()) (·.TameIn nodes mayFail) :=
  carriesOut_pure.plans (tameIn_of_fixes fun _ hf => absurd hf List.not_mem_nil)

theorem plans_unfixed (h : ∀ f ∈ findings, f.fix? = none) :
    (tell findings).Plans (·.TameIn nodes mayFail) := by
  refine (carriesOut_tell h).plans (tameIn_of_fixes fun f hf edit hedit => ?_)
  rw [h f hf] at hedit
  exact absurd hedit List.not_mem_nil

theorem plans_map {α : Type} {xs : List α} {report : α → Finding}
    (h : ∀ x, (report x).fix? = none) : (tell (xs.map report)).Plans (·.TameIn nodes mayFail) :=
  plans_unfixed fun f hf => by
    obtain ⟨x, -, rfl⟩ := List.mem_map.1 hf
    exact h x

theorem plans_filterMap {α : Type} {xs : List α} {report : α → Option Finding}
    (h : ∀ x f, report x = some f → f.fix? = none) :
    (tell (xs.filterMap report)).Plans (·.TameIn nodes mayFail) :=
  plans_unfixed fun f hf => by
    obtain ⟨x, -, hx⟩ := List.mem_filterMap.1 hf
    exact h x f hx

/-- Whether a sum overflows makes no difference to what is edited. -/
theorem plans_emissions {overflowed : Bool} {body : RuleM Unit} (hfail : mayFail)
    (h : body.Plans (·.TameIn nodes mayFail)) :
    (overflow overflowed >>= fun _ => body).Plans (·.TameIn nodes mayFail) :=
  plans_overflow h fun _ hplan =>
    ⟨⟨hplan.editsIn.fixes, hplan.editsIn.shared⟩, hplan.idle, fun _ => hfail⟩

end

end RuleM

/-! ### Nodes that rules edit -/

namespace Node

section
variable {n m : Node} {kind : String}

theorem mem_preorder_of_childOfKind? (h : n.childOfKind? kind = some m) : m ∈ n.preorder :=
  mem_preorder_of_mem_children (List.mem_of_find?_eq_some h)

theorem mem_preorder_of_firstNamedChild? (h : n.firstNamedChild? = some m) : m ∈ n.preorder :=
  mem_preorder_of_mem_children (List.mem_filter.1 (List.mem_of_mem_head? h)).1

end

end Node

namespace Parameter

def Reading.IsIn (nodes : List Node) (state : Reading) : Prop :=
  ∀ p ∈ state.found, p.node ∈ nodes ∧ ∀ default, p.default? = some default → default ∈ nodes

theorem Reading.isIn_step {nodes : List Node} {state : Reading} {child : Node}
    (h : state.IsIn nodes) (hchild : child ∈ nodes) : (state.step child).IsIn nodes := by
  rw [Reading.step]
  split
  · exact h
  split
  · exact h
  split
  · intro p hp
    rcases List.mem_cons.1 hp with rfl | hp
    · exact ⟨hchild, fun _ hdefault => absurd hdefault (Option.some_ne_none _).symm⟩
    · exact h p hp
  split
  · exact h
  split
  · exact h
  split
  · split
    · exact h
    case h_2 last earlier hfound =>
      intro p hp
      rcases List.mem_cons.1 hp with rfl | hp
      · refine ⟨(h last (hfound ▸ List.mem_cons_self)).1, fun default hdefault => ?_⟩
        obtain rfl := Option.some.inj hdefault
        exact hchild
      · exact h p (hfound ▸ List.mem_cons_of_mem last hp)
  · exact h

theorem Reading.isIn_foldl {nodes children : List Node} {state : Reading} (h : state.IsIn nodes)
    (hchildren : ∀ c ∈ children, c ∈ nodes) : (children.foldl Reading.step state).IsIn nodes := by
  induction children generalizing state with
  | nil => exact h
  | cons c children ih =>
    exact ih (Reading.isIn_step h (hchildren c List.mem_cons_self))
      fun d hd => hchildren d (List.mem_cons_of_mem c hd)

theorem of_mem_allIn {list : Node} {p : Parameter} (h : p ∈ allIn list) :
    p.node ∈ list.children ∧ ∀ default, p.default? = some default → default ∈ list.children :=
  Reading.isIn_foldl (fun _ hp => absurd hp List.not_mem_nil) (fun _ hc => hc) p
    (List.mem_reverse.1 h)

end Parameter

theorem FunctionDecl.of_mem_parameters {f : FunctionDecl} {p : Parameter} (h : p ∈ f.parameters) :
    p.node ∈ f.node.preorder ∧
      ∀ default, p.default? = some default → default ∈ f.node.preorder := by
  rw [parameters] at h
  cases hlist : f.parameterList? with
  | none =>
    rw [hlist] at h
    exact absurd h List.not_mem_nil
  | some list =>
    rw [hlist] at h
    have hmem := Node.mem_preorder_of_childOfKind? hlist
    obtain ⟨hnode, hdefault⟩ := Parameter.of_mem_allIn h
    exact ⟨Node.mem_preorder_trans hmem (Node.mem_preorder_of_mem_children hnode),
      fun default h => Node.mem_preorder_trans hmem
        (Node.mem_preorder_of_mem_children (hdefault default h))⟩

theorem Call.callee_of_ofNode? {n : Node} {call : Call} (h : Call.ofNode? n = some call) :
    ∃ head ∈ n.preorder, head.firstNamedChild? = some call.callee := by
  rw [Call.ofNode?] at h
  split at h
  · cases h
  dsimp only at h
  split at h
  · obtain ⟨head, hhead, h⟩ := Option.bind_eq_some_iff.1 h
    obtain ⟨callee, hcallee, h⟩ := Option.bind_eq_some_iff.1 h
    cases h
    exact ⟨head, Node.mem_preorder_of_firstNamedChild? hhead, hcallee⟩
  · rw [Option.bind_eq_bind, Option.bind_some] at h
    obtain ⟨callee, hcallee, h⟩ := Option.bind_eq_some_iff.1 h
    cases h
    exact ⟨n, n.self_mem_preorder, hcallee⟩

theorem Call.callee_mem_preorder {scope : Node} {call : Call} (h : call ∈ Call.allIn scope) :
    call.callee ∈ scope.preorder := by
  obtain ⟨n, hn, hcall⟩ := List.mem_filterMap.1 h
  refine Node.mem_preorder_trans (Node.mem_preorder_of_mem_descendants hn) ?_
  obtain ⟨head, hhead, hcallee⟩ := Call.callee_of_ofNode? hcall
  exact Node.mem_preorder_trans hhead (Node.mem_preorder_of_firstNamedChild? hcallee)

theorem Property.node_mem_preorder {scope : Node} {p : Property} (h : p ∈ Property.allIn scope) :
    p.node ∈ scope.preorder := by
  obtain ⟨n, hn, hp⟩ := List.mem_filterMap.1 h
  rw [Property.ofNode?] at hp
  split at hp
  · cases hp
    exact Node.mem_preorder_of_mem_descendants hn
  · cases hp

namespace Rules

/-! ### Rules that only report -/

theorem tame_composableNaming : composableNaming.Tame := by
  rintro (root | n | f | f) <;> try exact plans_silent
  simp only [composableNaming]
  split
  · exact plans_silent
  split
  · exact plans_silent
  refine (steady_readOption rfl).plans_bind fun allowed => ?_
  split
  · exact plans_silent
  · exact plans_unfixed (by simp)

theorem tame_compositionLocalAllowlist : compositionLocalAllowlist.Tame := by
  rintro (root | n | f | f) <;> try exact plans_silent
  refine (steady_set _).plans_bind fun allowed => plans_filterMap fun p finding hp => ?_
  obtain ⟨name, -, hname⟩ := Option.bind_eq_some_iff.1 hp
  split at hname
  · cases hname
  · cases hname; rfl

theorem tame_compositionLocalNaming : compositionLocalNaming.Tame := by
  rintro (root | n | f | f) <;> try exact plans_silent
  exact plans_map fun _ => rfl

theorem tame_contentEmitterReturningValues : contentEmitterReturningValues.Tame := by
  rintro (root | n | f | f) <;> try exact plans_silent
  exact steady_emitters.plans_bind fun emitters => plans_emissions (.inr rfl) (plans_map fun _ => rfl)

theorem tame_contentSlotReused : contentSlotReused.Tame := by
  rintro (root | n | f | f) <;> try exact plans_silent
  simp only [contentSlotReused]
  split
  · exact plans_silent
  refine (steady_lambdaTypes _).plans_bind fun types => plans_filterMap fun p finding hp => ?_
  obtain ⟨name, -, hname⟩ := Option.bind_eq_some_iff.1 hp
  obtain ⟨type, -, htype⟩ := Option.bind_eq_some_iff.1 hname
  split at htype
  · cases htype
  split at htype
  · cases htype; rfl
  · cases htype

theorem tame_contentTrailingLambda : contentTrailingLambda.Tame := by
  rintro (root | n | f | f) <;> try exact plans_silent
  simp only [contentTrailingLambda]
  split
  · exact plans_silent
  · exact (steady_lambdaTypes _).plans_bind fun types => plans_unfixed (by simp)

theorem tame_defaultsVisibility : defaultsVisibility.Tame := by
  rintro (root | n | f | f) <;> try exact plans_silent
  exact plans_map fun _ => rfl

theorem tame_lambdaParamInEffect : lambdaParamInEffect.Tame := by
  rintro (root | n | f | f) <;> try exact plans_silent
  simp only [lambdaParamInEffect]
  split
  · exact plans_silent
  refine (steady_lambdaTypes _).plans_bind fun types => ?_
  split
  · exact plans_silent
  refine plans_unfixed fun finding hf => ?_
  obtain ⟨effect, -, heffect⟩ := List.mem_flatMap.1 hf
  obtain ⟨name, -, hname⟩ := List.mem_filterMap.1 heffect
  obtain ⟨n, -, rfl⟩ := Option.map_eq_some_iff.1 hname
  rfl

theorem tame_material2 : material2.Tame := by
  rintro (root | n | f | f) <;> try exact plans_silent
  simp only [material2]
  refine (steady_get rfl).plans_bind fun disallowed => ?_
  split
  · exact plans_silent
  · exact (steady_get rfl).plans_bind fun allowed => plans_map fun _ => rfl

theorem tame_modifierClickableOrder : modifierClickableOrder.Tame := by
  rintro (root | n | f | f) <;> try exact plans_silent
  exact plans_map fun _ => rfl

theorem tame_modifierComposable : modifierComposable.Tame := by
  rintro (root | n | f | f) <;> try exact plans_silent
  simp only [modifierComposable]
  split
  · exact plans_unfixed (by simp)
  · exact plans_silent

theorem tame_modifierComposed : modifierComposed.Tame := by
  rintro (root | n | f | f) <;> try exact plans_silent
  simp only [modifierComposed]
  split
  · exact plans_unfixed (by simp)
  · exact plans_silent

theorem tame_modifierMissing : modifierMissing.Tame := by
  rintro (root | n | f | f) <;> try exact plans_silent
  simp only [modifierMissing]
  split
  · exact plans_silent
  refine (steady_get rfl).plans_bind fun setting => ?_
  split
  · exact plans_silent
  refine steady_modifierTypes.plans_bind fun types => ?_
  split
  · exact plans_silent
  split
  · exact plans_silent
  refine steady_emitters.plans_bind fun emitters => ?_
  split
  · exact plans_unfixed (by simp)
  · exact plans_silent

theorem tame_modifierNaming : modifierNaming.Tame := by
  rintro (root | n | f | f) <;> try exact plans_silent
  simp only [modifierNaming]
  split
  · exact plans_silent
  refine steady_modifierTypes.plans_bind fun types => ?_
  split
  · split
    · exact plans_unfixed (by simp)
    · exact plans_silent
  · exact plans_map fun _ => rfl

theorem tame_modifierNotUsedAtRoot : modifierNotUsedAtRoot.Tame := by
  rintro (root | n | f | f) <;> try exact plans_silent
  refine (steady_modifierUsages f).plans_bind fun usages => ?_
  split
  · exact plans_silent
  · exact steady_emitters.plans_bind fun emitters => plans_map fun _ => rfl

theorem tame_modifierReused : modifierReused.Tame := by
  rintro (root | n | f | f) <;> try exact plans_silent
  exact (steady_modifierUsages f).plans_bind fun usages => plans_map fun _ => rfl

theorem tame_multipleContentEmitters : multipleContentEmitters.Tame := by
  rintro (root | n | f | f) <;> try exact plans_silent
  exact steady_emitters.plans_bind fun emitters => plans_emissions (.inl rfl) (plans_map fun _ => rfl)

theorem tame_mutableParams : mutableParams.Tame := by
  rintro (root | n | f | f) <;> try exact plans_silent
  exact plans_map fun _ => rfl

theorem tame_parameterNaming : parameterNaming.Tame := by
  rintro (root | n | f | f) <;> try exact plans_silent
  simp only [parameterNaming]
  split
  · exact plans_silent
  refine (steady_lambdaTypes _).plans_bind fun types => plans_filterMap fun p finding hp => ?_
  obtain ⟨name, -, hname⟩ := Option.bind_eq_some_iff.1 hp
  obtain ⟨type, -, htype⟩ := Option.bind_eq_some_iff.1 hname
  split at htype
  · cases htype; rfl
  · cases htype

theorem tame_parameterOrder : parameterOrder.Tame := by
  rintro (root | n | f | f) <;> try exact plans_silent
  simp only [parameterOrder]
  split
  · exact plans_silent
  split
  · exact plans_silent
  refine (steady_lambdaTypes _).plans_bind fun types => ?_
  refine steady_modifierTypes.plans_bind fun modifiers => ?_
  split
  · exact plans_silent
  · exact plans_unfixed (by simp)

theorem tame_rememberMissing : rememberMissing.Tame := by
  rintro (root | n | f | f) <;> try exact plans_silent
  refine plans_filterMap fun call finding hcall => ?_
  obtain ⟨name, -, hname⟩ := Option.bind_eq_some_iff.1 hcall
  split at hname
  · cases hname; rfl
  · cases hname

theorem tame_unstableCollections : unstableCollections.Tame := by
  rintro (root | n | f | f) <;> try exact plans_silent
  refine plans_filterMap fun p finding hp => ?_
  obtain ⟨type, -, htype⟩ := Option.bind_eq_some_iff.1 hp
  split at htype
  · cases htype; rfl
  · cases htype

theorem tame_viewModelForwarding : viewModelForwarding.Tame := by
  rintro (root | n | f | f) <;> try exact plans_silent
  simp only [viewModelForwarding]
  split
  · exact plans_silent
  refine (steady_readOption rfl).plans_bind fun holders => ?_
  refine (steady_readOption rfl).plans_bind fun forwardable => ?_
  refine (steady_set _).plans_bind fun allowed => ?_
  split
  · exact plans_silent
  · exact plans_map fun _ => rfl

/-! ### Rules with fixes -/

theorem node_mem_of_mem_makePrivate {f : FunctionDecl} {edit : Edit} (h : edit ∈ makePrivate f) :
    edit.node ∈ f.node.preorder := by
  rw [makePrivate] at h
  split at h
  case h_1 visibility hvisibility =>
    obtain rfl := List.mem_singleton.1 h
    obtain ⟨modifiers, hmodifiers, hchild⟩ := Option.bind_eq_some_iff.1 hvisibility
    exact Node.mem_preorder_trans (Node.mem_preorder_of_childOfKind? hmodifiers)
      (Node.mem_preorder_of_childOfKind? hchild)
  split at h
  case h_1 keyword hkeyword =>
    obtain rfl := List.mem_singleton.1 h
    exact Node.mem_preorder_of_mem_children (List.mem_of_find?_eq_some hkeyword)
  · exact absurd h List.not_mem_nil

theorem node_mem_of_mem_addParameters {f : FunctionDecl} {added : String} {edit : Edit}
    (h : edit ∈ addParameters f added) : edit.node ∈ f.node.preorder := by
  rw [addParameters] at h
  split at h
  · exact absurd h List.not_mem_nil
  case h_2 list hlist _ =>
    obtain rfl := List.mem_singleton.1 h
    exact Node.mem_preorder_of_childOfKind? hlist
  case h_3 list last hlist hlast =>
    obtain ⟨hnode, hdefault⟩ := FunctionDecl.of_mem_parameters (List.mem_of_mem_getLast? hlast)
    split at h
    · obtain rfl := List.mem_singleton.1 h
      exact hnode
    obtain rfl := List.mem_singleton.1 h
    cases hd : last.default? with
    | none => simpa [Edit.node, hd] using hnode
    | some default => simpa [Edit.node, hd] using hdefault default hd

theorem tame_modifierWithoutDefault : modifierWithoutDefault.Tame := by
  rintro (root | n | f | f) <;> try exact plans_silent
  simp only [modifierWithoutDefault]
  split
  · exact plans_silent
  refine steady_modifierTypes.plans_bind fun types =>
    carriesOut_offerAll.plans (tameIn_of_fixes fun finding hf edit hedit => ?_)
  obtain ⟨p, hp, rfl⟩ := List.mem_map.1 hf
  obtain rfl := List.mem_singleton.1 hedit
  exact (FunctionDecl.of_mem_parameters (List.mem_filter.1 hp).1).1

theorem tame_mutableStateAutoboxing : mutableStateAutoboxing.Tame := by
  rintro (root | n | f | f) <;> try exact plans_silent
  refine carriesOut_offerAll.plans (tameIn_of_fixes fun finding hf edit hedit => ?_)
  obtain ⟨call, hcall, hfinding⟩ := List.mem_filterMap.1 hf
  obtain ⟨factory, -, hfactory⟩ := Option.bind_eq_some_iff.1 hfinding
  cases hfactory
  obtain rfl := List.mem_singleton.1 hedit
  exact Call.callee_mem_preorder hcall

theorem tame_previewPublic : previewPublic.Tame := by
  rintro (root | n | f | f) <;> try exact plans_silent
  simp only [previewPublic]
  split
  · refine carriesOut_offer.plans (tameIn_of_fixes fun finding hf edit hedit => ?_)
    obtain rfl := List.mem_singleton.1 hf
    exact node_mem_of_mem_makePrivate hedit
  · exact plans_silent

theorem property_of_injectionOf? {factories : List String} {p : Property} {injection : Injection}
    (h : injectionOf? factories p = some injection) : injection.property = p := by
  obtain ⟨value, -, h⟩ := Option.bind_eq_some_iff.1 h
  obtain ⟨call, -, h⟩ := Option.bind_eq_some_iff.1 h
  obtain ⟨factory, -, h⟩ := Option.bind_eq_some_iff.1 h
  split at h
  · cases h
  · cases h; rfl

theorem node_mem_of_mem_injections {factories : List String} {f : FunctionDecl} {body : Node}
    {injection : Injection} (h : injection ∈ injections factories f body) :
    injection.property.node ∈ body.preorder := by
  obtain ⟨p, hp, hinjection⟩ := List.mem_filterMap.1 h
  rw [property_of_injectionOf? hinjection]
  exact Property.node_mem_preorder (List.mem_filter.1 hp).1

theorem movedParameters_of_uncorrected (found : List Injection) {corrected : List Bool}
    (h : ∀ c ∈ corrected, c = false) : movedParameters found corrected = [] := by
  refine List.filterMap_eq_nil_iff.2 fun (injection, moved) hpair => ?_
  rw [h moved (List.of_mem_zip hpair).2]
  rfl

theorem tame_viewModelInjection : viewModelInjection.Tame := by
  rintro (root | n | f | f) <;> try exact plans_silent
  simp only [viewModelInjection]
  split
  · exact plans_silent
  case h_2 body hbody =>
  refine (steady_set _).plans_bind fun extra => (carriesOut_conclude fun _ => rfl).plans
    ⟨⟨fun finding hf edit hedit => ?_, fun corrected edit hedit => ?_⟩, fun corrected h => ?_,
      Bool.noConfusion⟩
  · obtain ⟨injection, hinjection, rfl⟩ := List.mem_map.1 hf
    have hproperty := node_mem_of_mem_injections hinjection
    rw [injectionFinding] at hedit
    cases hparameter : injection.parameter? with
    | none =>
      rw [hparameter] at hedit
      exact absurd hedit List.not_mem_nil
    | some parameter =>
      rw [hparameter] at hedit
      obtain rfl := List.mem_singleton.1 hedit
      exact Node.mem_preorder_trans (Node.mem_preorder_of_childOfKind? hbody) hproperty
  · dsimp only [additions] at hedit
    split at hedit
    · exact absurd hedit List.not_mem_nil
    · exact node_mem_of_mem_addParameters hedit
  · simp only [additions, movedParameters_of_uncorrected _ h]

end Rules

open Rules in
theorem tame_of_mem_allRules : ∀ rule ∈ allRules, rule.Tame := by
  simp only [allRules, List.forall_mem_cons, List.not_mem_nil, false_implies, implies_true,
    and_true]
  exact ⟨tame_composableNaming, tame_compositionLocalAllowlist, tame_compositionLocalNaming,
    tame_contentEmitterReturningValues, tame_contentSlotReused, tame_contentTrailingLambda,
    tame_defaultsVisibility, tame_lambdaParamInEffect, tame_material2,
    tame_modifierClickableOrder, tame_modifierComposable, tame_modifierComposed,
    tame_modifierMissing, tame_modifierNaming, tame_modifierNotUsedAtRoot, tame_modifierReused,
    tame_modifierWithoutDefault, tame_multipleContentEmitters, tame_mutableParams,
    tame_mutableStateAutoboxing, tame_parameterNaming, tame_parameterOrder, tame_previewPublic,
    tame_rememberMissing, tame_unstableCollections, tame_viewModelForwarding,
    tame_viewModelInjection⟩

theorem editsBelow_of_mem_allRules {rule : Rule} (h : rule ∈ allRules) : rule.EditsBelow :=
  (tame_of_mem_allRules rule h).editsBelow

/-- No rule notices what other rules have asked. -/
theorem independent_of_mem_allRules {rule : Rule} (h : rule ∈ allRules) : rule.Independent :=
  (tame_of_mem_allRules rule h).independent

end ComposeCheck
