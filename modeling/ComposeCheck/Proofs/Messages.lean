import ComposeCheck.Proofs.Handing
import ComposeCheck.Proofs.Licence
import ComposeCheck.Proofs.SingleReport

/-!
# The lines of a message

A message is made of fixed text and of pieces of the file: names, texts of types and the listings of
parameters. Names do not go over the end of a line (`Node.NamesFit`), so a message does so only if
it lists parameters or gives the text of a type that does (`breaks_of_mem_allRules`).
-/

namespace ComposeCheck

open OptionM

namespace Text

def OneLine (text : String) : Prop := '\n' ∉ text.toList

instance (text : String) : Decidable (OneLine text) := inferInstanceAs (Decidable (_ ∉ _))

theorem oneLine_append {a b : String} : OneLine (a ++ b) ↔ OneLine a ∧ OneLine b := by
  rw [OneLine, String.toList_append, List.mem_append, not_or]
  rfl

namespace OneLine

variable {a b : String} {cs : List Char}

theorem append (ha : OneLine a) (hb : OneLine b) : OneLine (a ++ b) := oneLine_append.2 ⟨ha, hb⟩

theorem left (h : OneLine (a ++ b)) : OneLine a := (oneLine_append.1 h).1

theorem right (h : OneLine (a ++ b)) : OneLine b := (oneLine_append.1 h).2

/-- A literal is read as the list of its characters. -/
theorem ofList (h : cs.all (· != '\n') = true) : OneLine (String.ofList cs) := by
  intro hmem
  rw [String.toList_ofList] at hmem
  simpa using List.all_eq_true.1 h _ hmem

theorem not_ofList (h : cs.contains '\n' = true) : ¬ OneLine (String.ofList cs) := by
  rw [OneLine, String.toList_ofList, not_not]
  exact List.contains_iff_mem.1 h

end OneLine

theorem oneLine_repr (n : Nat) : OneLine n.repr := by
  intro h
  have hdigits : n.repr.toList = Nat.toDigits 10 n := by simp
  rw [hdigits] at h
  have hdigit : '\n'.isDigit = true := Nat.isDigit_of_mem_toDigits (by decide) (by decide) h
  exact absurd hdigit (by decide)

end Text

open Text

/-! ### Names -/

/-- No name at a node or below it goes over the end of a line. -/
def Node.NamesFit (n : Node) : Prop := ∀ m ∈ n.preorder, m.kind = "identifier" → OneLine m.text

section
variable {n m : Node} {name : String}

theorem Node.NamesFit.of_mem (h : n.NamesFit) (hm : m ∈ n.preorder) : m.NamesFit :=
  fun _ hk => h _ (Node.mem_preorder_trans hm hk)

theorem Node.NamesFit.oneLine_child (h : n.NamesFit) (hm : n.childOfKind? "identifier" = some m) :
    OneLine m.text :=
  h m (mem_preorder_of_childOfKind? hm) (by simpa using List.find?_some hm)

theorem FunctionDecl.oneLine_name {f : FunctionDecl} (h : f.node.NamesFit)
    (hname : f.name? = some name) : OneLine name := by
  obtain ⟨m, hm, rfl⟩ := Option.map_eq_some_iff.1 hname
  exact h.oneLine_child hm

theorem Parameter.oneLine_name {p : Parameter} (h : p.node.NamesFit)
    (hname : p.name? = some name) : OneLine name := by
  obtain ⟨m, hm, rfl⟩ := Option.map_eq_some_iff.1 hname
  exact h.oneLine_child hm

theorem Property.oneLine_name {p : Property} (h : p.node.NamesFit)
    (hname : p.name? = some name) : OneLine name := by
  obtain ⟨v, hv, hname⟩ := Option.bind_eq_some_iff.1 hname
  obtain ⟨m, hm, rfl⟩ := Option.map_eq_some_iff.1 hname
  exact (h.of_mem (Node.mem_preorder_of_childOfKind? hv)).oneLine_child hm

theorem Property.value?_mem_preorder {p : Property} {value : Node} (h : p.value? = some value) :
    value ∈ p.node.preorder := by
  rcases Option.or_eq_some_iff.1 h with h | ⟨-, h⟩
  · exact initializer?_mem_preorder h
  · obtain ⟨delegate, hdelegate, hvalue⟩ := Option.bind_eq_some_iff.1 h
    exact Node.mem_preorder_trans (Node.mem_preorder_of_childOfKind? hdelegate)
      (Node.mem_preorder_of_firstNamedChild? hvalue)

theorem Call.oneLine_name {call : Call} (h : call.callee.NamesFit)
    (hname : call.name? = some name) : OneLine name := by
  rw [name?] at hname
  split at hname
  case isTrue hkind =>
    cases hname
    exact h _ call.callee.self_mem_preorder hkind
  split at hname
  · obtain ⟨m, hm, rfl⟩ := Option.map_eq_some_iff.1 hname
    obtain ⟨hchild, hkind⟩ := List.mem_filter.1 (List.mem_of_getLast? hm)
    exact h m (Node.mem_preorder_of_mem_children hchild) (beq_iff_eq.1 hkind)
  · cases hname

theorem FunctionDecl.namesFit_of_mem_parameters {f : FunctionDecl} {p : Parameter}
    (h : f.node.NamesFit) (hp : p ∈ f.parameters) : p.node.NamesFit :=
  h.of_mem (of_mem_parameters hp).1

end

/-! ### Messages -/

namespace RuleM

/-- All findings that a body adds are of this sort. -/
def Tells {α : Type} (body : RuleM α) (sort : Finding → Prop) : Prop :=
  ∀ occasion before backend memo, ∀ finding ∈ (body occasion before backend memo).1.2.findings,
    finding ∈ before.findings ∨ sort finding

section
variable {α β : Type} {sort : Finding → Prop} {findings : List Finding} {body : RuleM α}
  {m : OptionM α} {f : α → RuleM β} {before added : Report}

theorem Tells.report {rule : Rule} {visit : Visit} (h : (rule.visit visit).Tells sort)
    (occasion : Occasion) (backend : Backend) (memo : Memo) :
    ∀ finding ∈ (rule.report visit occasion backend memo).1.findings, sort finding :=
  fun finding hf => (h occasion .silent backend memo finding hf).resolve_left List.not_mem_nil

theorem Tells.bind (hbody : body.Tells sort) (hf : ∀ a, (f a).Tells sort) :
    (body >>= f).Tells sort := by
  intro occasion before backend memo finding hfinding
  rcases hf _ occasion _ backend _ finding hfinding with h | h
  · exact hbody occasion before backend memo finding h
  · exact .inr h

theorem tells_pure (a : α) : (pure a : RuleM α).Tells sort := fun _ _ _ _ _ => .inl

theorem tells_silent : (pure () : RuleM Unit).Tells sort := tells_pure ()

theorem tells_bind (hf : ∀ a, (f a).Tells sort) : ((liftM m : RuleM α) >>= f).Tells sort :=
  Tells.bind (fun _ _ _ _ _ => .inl) hf

theorem tells_of_apply (answer : Occasion → α) (added : Occasion → Report)
    (h : ∀ occasion before, body occasion before =
      pure (answer occasion, before.append (added occasion)))
    (hadded : ∀ occasion, ∀ finding ∈ (added occasion).findings, sort finding) :
    body.Tells sort := by
  intro occasion before backend memo finding hfinding
  rw [h] at hfinding
  exact (List.mem_append.1 hfinding).imp_right (hadded occasion finding)

theorem tells_make {edits : List Edit} : (make edits).Tells sort :=
  tells_of_apply _ _ (fun _ _ => make_apply) fun _ _ h => absurd h List.not_mem_nil

theorem tells_overflow {overflowed : Bool} : (overflow overflowed).Tells sort :=
  tells_of_apply _ _ (fun _ _ => overflow_apply) fun _ _ h => absurd h List.not_mem_nil

theorem tells_of (h : ∀ finding ∈ findings, sort finding) : (tell findings).Tells sort :=
  tells_of_apply _ _ (fun _ _ => tell_apply) fun _ => h

theorem tells_offerAll (h : ∀ finding ∈ findings, sort finding) :
    (offerAll findings).Tells sort :=
  tells_of_apply _ _ (fun _ _ => offerAll_apply) fun _ => h

theorem tells_offer {finding : Finding} (h : sort finding) : (offer finding).Tells sort :=
  tells_of_apply _ _ (fun _ _ => offer_apply) fun _ _ hf => List.mem_singleton.1 hf ▸ h

theorem Tells.discard (h : body.Tells sort) : (discard body).Tells sort :=
  h.bind fun _ => tells_pure _

theorem tells_of_singleton {n : Node} {message : String} {fix? : Option (List Edit)}
    (h : OneLine message) :
    (tell [⟨n, message, fix?⟩]).Tells fun finding => OneLine finding.message :=
  tells_of fun _ hf => List.mem_singleton.1 hf ▸ h

theorem tells_of_map {xs : List α} {report : α → Finding} (h : ∀ x ∈ xs, sort (report x)) :
    (tell (xs.map report)).Tells sort :=
  tells_of (List.forall_mem_map.2 h)

theorem tells_of_map_fixed {xs : List α} {report : α → Finding} {message : String}
    (hmessage : ∀ x, (report x).message = message) (h : OneLine message) :
    (tell (xs.map report)).Tells fun finding => OneLine finding.message :=
  tells_of_map fun x _ => (hmessage x).symm ▸ h

theorem tells_of_filterMap {xs : List α} {report : α → Option Finding}
    (h : ∀ x ∈ xs, ∀ finding, report x = some finding → sort finding) :
    (tell (xs.filterMap report)).Tells sort :=
  tells_of fun finding hf => by
    obtain ⟨x, hx, hfinding⟩ := List.mem_filterMap.1 hf
    exact h x hx finding hfinding

end

end RuleM

open RuleM

/-- If names fit on a line, so do all messages of a rule. -/
def Rule.SpeaksInLines (rule : Rule) : Prop :=
  ∀ visit, visit.node.NamesFit → (rule.visit visit).Tells fun finding => OneLine finding.message

namespace Rules

/-! ### Fixed messages -/

theorem speaksInLines_composableNaming : composableNaming.SpeaksInLines := by
  rintro (root | n | f | f) - <;> try exact tells_silent
  simp only [composableNaming]
  split
  · exact tells_silent
  split
  · exact tells_silent
  refine tells_bind fun allowed => ?_
  split
  · exact tells_silent
  refine tells_of fun finding hf => ?_
  obtain ⟨message, hmessage, rfl⟩ := Option.map_eq_some_iff.1 (Option.mem_toList.1 hf)
  simp only [namingMessage?] at hmessage
  split at hmessage <;> split at hmessage <;> cases hmessage <;>
    exact .append (.append (.ofList rfl) (.ofList rfl)) (.ofList rfl)

theorem speaksInLines_compositionLocalNaming : compositionLocalNaming.SpeaksInLines := by
  rintro (root | n | f | f) - <;> try exact tells_silent
  exact tells_of_map_fixed (fun _ => rfl) (.append (.ofList rfl) (.ofList rfl))

theorem speaksInLines_contentEmitterReturningValues :
    contentEmitterReturningValues.SpeaksInLines := by
  rintro (root | n | f | f) - <;> try exact tells_silent
  exact tells_bind fun emitters => tells_overflow.bind fun _ => tells_of_map_fixed (fun _ => rfl)
    (.append (.append (.append (.ofList rfl) (.ofList rfl)) (.ofList rfl)) (.ofList rfl))

theorem speaksInLines_contentTrailingLambda : contentTrailingLambda.SpeaksInLines := by
  rintro (root | n | f | f) - <;> try exact tells_silent
  simp only [contentTrailingLambda]
  split
  · exact tells_silent
  refine tells_bind fun types => tells_of fun finding hf => ?_
  obtain ⟨p, -, rfl⟩ := Option.map_eq_some_iff.1 (Option.mem_toList.1 hf)
  exact .append (.ofList rfl) (.ofList rfl)

theorem speaksInLines_lambdaParamInEffect : lambdaParamInEffect.SpeaksInLines := by
  rintro (root | n | f | f) - <;> try exact tells_silent
  simp only [lambdaParamInEffect]
  split
  · exact tells_silent
  refine tells_bind fun types => ?_
  split
  · exact tells_silent
  refine tells_of fun finding hf => ?_
  obtain ⟨effect, -, heffect⟩ := List.mem_flatMap.1 hf
  obtain ⟨name, -, hname⟩ := List.mem_filterMap.1 heffect
  obtain ⟨n, -, rfl⟩ := Option.map_eq_some_iff.1 hname
  exact .append (.append (.append (.ofList rfl) (.ofList rfl)) (.ofList rfl)) (.ofList rfl)

theorem speaksInLines_material2 : material2.SpeaksInLines := by
  rintro (root | n | f | f) - <;> try exact tells_silent
  simp only [material2]
  refine tells_bind fun disallowed => ?_
  split
  · exact tells_silent
  · exact tells_bind fun allowed => tells_of_map_fixed (fun _ => rfl)
      (.append (.ofList rfl) (.ofList rfl))

theorem speaksInLines_modifierComposable : modifierComposable.SpeaksInLines := by
  rintro (root | n | f | f) - <;> try exact tells_silent
  simp only [modifierComposable]
  split
  · exact tells_of_singleton (.append (.append (.ofList rfl) (.ofList rfl)) (.ofList rfl))
  · exact tells_silent

theorem speaksInLines_modifierComposed : modifierComposed.SpeaksInLines := by
  rintro (root | n | f | f) - <;> try exact tells_silent
  simp only [modifierComposed]
  split
  · exact tells_of_singleton (.append (.append (.ofList rfl) (.ofList rfl)) (.ofList rfl))
  · exact tells_silent

theorem speaksInLines_modifierMissing : modifierMissing.SpeaksInLines := by
  rintro (root | n | f | f) - <;> try exact tells_silent
  simp only [modifierMissing]
  split
  · exact tells_silent
  refine tells_bind fun setting => ?_
  split
  · exact tells_silent
  refine tells_bind fun types => ?_
  split
  · exact tells_silent
  split
  · exact tells_silent
  refine tells_bind fun emitters => ?_
  split
  · exact tells_of_singleton (.append (.ofList rfl) (.ofList rfl))
  · exact tells_silent

theorem speaksInLines_modifierNaming : modifierNaming.SpeaksInLines := by
  rintro (root | n | f | f) - <;> try exact tells_silent
  simp only [modifierNaming]
  split
  · exact tells_silent
  refine tells_bind fun types => ?_
  split
  · split
    · exact tells_of_singleton (.ofList rfl)
    · exact tells_silent
  · exact tells_of_map_fixed (fun _ => rfl) (.append (.ofList rfl) (.ofList rfl))

theorem speaksInLines_modifierNotUsedAtRoot : modifierNotUsedAtRoot.SpeaksInLines := by
  rintro (root | n | f | f) - <;> try exact tells_silent
  refine tells_bind fun usages => ?_
  split
  · exact tells_silent
  · exact tells_bind fun emitters => tells_of_map_fixed (fun _ => rfl)
      (.append (.ofList rfl) (.ofList rfl))

theorem speaksInLines_modifierReused : modifierReused.SpeaksInLines := by
  rintro (root | n | f | f) - <;> try exact tells_silent
  exact tells_bind fun usages => tells_of_map_fixed (fun _ => rfl)
    (.append (.ofList rfl) (.ofList rfl))

theorem speaksInLines_modifierWithoutDefault : modifierWithoutDefault.SpeaksInLines := by
  rintro (root | n | f | f) - <;> try exact tells_silent
  simp only [modifierWithoutDefault]
  split
  · exact tells_silent
  · refine tells_bind fun types => (tells_offerAll (List.forall_mem_map.2 fun p _ => ?_)).discard
    exact .append (.ofList rfl) (.ofList rfl)

theorem speaksInLines_multipleContentEmitters : multipleContentEmitters.SpeaksInLines := by
  rintro (root | n | f | f) - <;> try exact tells_silent
  exact tells_bind fun emitters => tells_overflow.bind fun _ => tells_of_map_fixed (fun _ => rfl)
    (.append (.ofList rfl) (.ofList rfl))

theorem speaksInLines_mutableParams : mutableParams.SpeaksInLines := by
  rintro (root | n | f | f) - <;> try exact tells_silent
  exact tells_of_map_fixed (fun _ => rfl)
    (.append (.append (.ofList rfl) (.ofList rfl)) (.ofList rfl))

theorem speaksInLines_previewPublic : previewPublic.SpeaksInLines := by
  rintro (root | n | f | f) - <;> try exact tells_silent
  simp only [previewPublic]
  split
  · exact (tells_offer (.append (.ofList rfl) (.ofList rfl))).discard
  · exact tells_silent

theorem speaksInLines_viewModelForwarding : viewModelForwarding.SpeaksInLines := by
  rintro (root | n | f | f) - <;> try exact tells_silent
  simp only [viewModelForwarding]
  split
  · exact tells_silent
  refine tells_bind fun holders => tells_bind fun forwardable => tells_bind fun allowed => ?_
  split
  · exact tells_silent
  · exact tells_of_map_fixed (fun _ => rfl) (.append (.ofList rfl) (.ofList rfl))

/-! ### Messages with names -/

theorem speaksInLines_compositionLocalAllowlist : compositionLocalAllowlist.SpeaksInLines := by
  rintro (root | n | f | f) hfit <;> try exact tells_silent
  refine tells_bind fun allowed => tells_of_filterMap fun p hp finding hfinding => ?_
  obtain ⟨name, hname, h⟩ := Option.bind_eq_some_iff.1 hfinding
  have hline := Property.oneLine_name
    (hfit.of_mem (Property.node_mem_preorder (List.mem_filter.1 hp).1)) hname
  split at h
  · cases h
  cases h
  exact .append (.append (.ofList rfl) (.append (.append (.ofList rfl) hline) (.ofList rfl)))
    (.ofList rfl)

theorem speaksInLines_contentSlotReused : contentSlotReused.SpeaksInLines := by
  rintro (root | n | f | f) hfit <;> try exact tells_silent
  simp only [contentSlotReused]
  split
  · exact tells_silent
  refine tells_bind fun types => tells_of_filterMap fun p hp finding hfinding => ?_
  obtain ⟨name, hname, h⟩ := Option.bind_eq_some_iff.1 hfinding
  obtain ⟨type, -, h⟩ := Option.bind_eq_some_iff.1 h
  have hline := Parameter.oneLine_name (FunctionDecl.namesFit_of_mem_parameters hfit hp) hname
  split at h
  · cases h
  split at h
  · cases h
    exact .append (.append (.append (.append (.append (.append (.append (.ofList rfl) hline)
      (.ofList rfl)) (oneLine_repr _)) (.ofList rfl)) (.ofList rfl)) (.ofList rfl)) (.ofList rfl)
  · cases h

theorem of_clickBeforeShape? {chain : Node} {click shape : Call}
    (h : clickBeforeShape? chain = some (click, shape)) :
    isClickable click = true ∧ setsShape shape = true := by
  rw [clickBeforeShape?] at h
  split at h
  · cases h
  case h_2 first later hdrop =>
    obtain ⟨other, hother, heq⟩ := Option.map_eq_some_iff.1 h
    obtain ⟨rfl, rfl⟩ := Prod.mk.inj heq
    have hhead : (!isClickable first) = false := by
      have hnil : chain.chainCalls.dropWhile (fun call => !isClickable call) ≠ [] := by
        simp [hdrop]
      simpa only [hdrop, List.head_cons] using List.head_dropWhile_not _ hnil
    exact ⟨by simpa using hhead, List.find?_some hother⟩

theorem oneLine_of_isClickable {call : Call} (h : isClickable call = true) :
    OneLine (call.name?.getD "") := by
  obtain ⟨name, hname, hmem⟩ := (Option.any_eq_true _ _).1 h
  rw [hname, Option.getD_some]
  simp only [List.contains_iff_mem, List.mem_cons, List.not_mem_nil, or_false] at hmem
  rcases hmem with rfl | rfl | rfl | rfl | rfl <;> exact .ofList rfl

theorem oneLine_of_setsShape {call : Call} (h : setsShape call = true) :
    OneLine (call.name?.getD "") := by
  rw [setsShape, Bool.or_eq_true, Bool.and_eq_true, beq_iff_eq, beq_iff_eq] at h
  rcases h with hname | ⟨hname, -⟩ <;> rw [hname] <;> exact .ofList rfl

theorem speaksInLines_modifierClickableOrder : modifierClickableOrder.SpeaksInLines := by
  rintro (root | n | f | f) - <;> try exact tells_silent
  refine tells_of_map fun (click, shape) h => ?_
  obtain ⟨chain, -, hchain⟩ := List.mem_filterMap.1 h
  obtain ⟨hclick, hshape⟩ := of_clickBeforeShape? hchain
  have hclick := oneLine_of_isClickable hclick
  have hshape := oneLine_of_setsShape hshape
  exact .append
    (.append (.append (.append (.append (.ofList rfl) hclick) (.ofList rfl)) hshape) (.ofList rfl))
    (.append (.append (.append (.append (.ofList rfl) hshape) (.ofList rfl)) hclick) (.ofList rfl))

theorem oneLine_of_factoryFor? {literal : Node} {factory : String}
    (h : factoryFor? literal = some factory) : OneLine factory := by
  obtain ⟨number, -, h⟩ := Option.bind_eq_some_iff.1 h
  dsimp only at h
  split at h
  · split at h
    · cases h
    · split at h <;> cases h <;> exact .ofList rfl
  split at h
  · split at h <;> cases h <;> exact .ofList rfl
  · cases h

theorem exists_factoryFor?_of_betterFactory? {call : Call} {factory : String}
    (h : betterFactory? call = some factory) : ∃ literal, factoryFor? literal = some factory := by
  rw [betterFactory?] at h
  split at h
  · cases h
  obtain ⟨head, -, h⟩ := Option.bind_eq_some_iff.1 h
  rcases harguments : call.arguments with _ | ⟨argument, _ | _⟩
  · simp [harguments] at h
  · simp only [harguments] at h
    split at h
    · cases h
    · obtain ⟨literal, -, h⟩ := Option.bind_eq_some_iff.1 h
      exact ⟨literal, h⟩
  · simp [harguments] at h

theorem speaksInLines_mutableStateAutoboxing : mutableStateAutoboxing.SpeaksInLines := by
  rintro (root | n | f | f) - <;> try exact tells_silent
  refine (tells_offerAll fun finding hf => ?_).discard
  obtain ⟨call, -, hfinding⟩ := List.mem_filterMap.1 hf
  obtain ⟨factory, hfactory, h⟩ := Option.bind_eq_some_iff.1 hfinding
  cases h
  obtain ⟨literal, hliteral⟩ := exists_factoryFor?_of_betterFactory? hfactory
  exact .append (.ofList rfl)
    (.append (.append (.ofList rfl) (oneLine_of_factoryFor? hliteral)) (.ofList rfl))

theorem mem_lastWord {name : String} {c : Char} (h : c ∈ (lastWord name).toList) :
    c ∈ name.toList := by
  simp only [lastWord] at h
  split at h
  · exact h
  case h_2 upper rest hdrop =>
    rw [String.toList_ofList, List.mem_cons, List.mem_reverse] at h
    rcases h with rfl | h
    · exact List.mem_reverse.1 (List.mem_of_mem_drop (hdrop ▸ List.mem_cons_self))
    · exact List.mem_reverse.1 (List.takeWhile_subset _ h)

theorem speaksInLines_parameterNaming : parameterNaming.SpeaksInLines := by
  rintro (root | n | f | f) hfit <;> try exact tells_silent
  simp only [parameterNaming]
  split
  · exact tells_silent
  refine tells_bind fun types => tells_of_filterMap fun p hp finding hfinding => ?_
  obtain ⟨name, hname, h⟩ := Option.bind_eq_some_iff.1 hfinding
  obtain ⟨type, -, h⟩ := Option.bind_eq_some_iff.1 h
  have hline := Parameter.oneLine_name (FunctionDecl.namesFit_of_mem_parameters hfit hp) hname
  have hword : OneLine (lastWord name) := fun h => hline (mem_lastWord h)
  split at h
  · cases h
    exact .append (.append (.ofList rfl) (.append (.append (.append (.append (.ofList rfl) hline)
      (.ofList rfl)) hword) (.ofList rfl))) (.ofList rfl)
  · cases h

theorem speaksInLines_rememberMissing : rememberMissing.SpeaksInLines := by
  rintro (root | n | f | f) hfit <;> try exact tells_silent
  refine tells_of_filterMap fun call hcall finding hfinding => ?_
  obtain ⟨name, hname, h⟩ := Option.bind_eq_some_iff.1 hfinding
  have hline : OneLine name := by
    cases hbody : f.body? with
    | none => simp [hbody] at hcall
    | some body =>
      rw [hbody] at hcall
      exact Call.oneLine_name (hfit.of_mem (Node.mem_preorder_trans
        (Node.mem_preorder_of_childOfKind? hbody) (Call.callee_mem_preorder hcall))) hname
  split at h
  · cases h
    exact .append (.append (.append (.append (.ofList rfl) hline) (.ofList rfl)) (.ofList rfl))
      (.ofList rfl)
  · cases h

theorem oneLine_of_injectionOf? {factories : List String} {p : Property} {injection : Injection}
    (hfit : p.node.NamesFit) (h : injectionOf? factories p = some injection) :
    OneLine injection.factory := by
  obtain ⟨value, hvalue, h⟩ := Option.bind_eq_some_iff.1 h
  obtain ⟨call, hcall, h⟩ := Option.bind_eq_some_iff.1 h
  obtain ⟨factory, hfactory, h⟩ := Option.bind_eq_some_iff.1 h
  obtain ⟨head, hhead, hcallee⟩ := Call.callee_of_ofNode? hcall
  have hmem := Node.mem_preorder_trans (Property.value?_mem_preorder hvalue)
    (Node.mem_preorder_trans hhead (Node.mem_preorder_of_firstNamedChild? hcallee))
  split at h
  · cases h
  · cases h
    exact Call.oneLine_name (hfit.of_mem hmem) hfactory

theorem speaksInLines_viewModelInjection : viewModelInjection.SpeaksInLines := by
  rintro (root | n | f | f) hfit <;> try exact tells_silent
  simp only [viewModelInjection]
  split
  · exact tells_silent
  case h_2 body hbody =>
  refine tells_bind fun extra => (tells_offerAll fun finding hf => ?_).bind fun _ => tells_make
  obtain ⟨injection, hinjection, rfl⟩ := List.mem_map.1 hf
  obtain ⟨p, hp, hinjection⟩ := List.mem_filterMap.1 hinjection
  have hfit := hfit.of_mem (Node.mem_preorder_trans (Node.mem_preorder_of_childOfKind? hbody)
    (Property.node_mem_preorder (List.mem_filter.1 hp).1))
  exact .append (.append (.ofList rfl) (oneLine_of_injectionOf? hfit hinjection)) (.ofList rfl)

theorem mem_of_mem_firstOfEach {entry : Node × FunctionDecl} {seen entries : List _}
    (h : entry ∈ firstOfEach seen entries) : entry ∈ entries := by
  induction entries generalizing seen with
  | nil => exact absurd h List.not_mem_nil
  | cons first rest ih =>
    rw [firstOfEach] at h
    split at h
    · exact List.mem_cons_of_mem first (ih h)
    · rcases List.mem_cons.1 h with rfl | h
      · exact List.mem_cons_self
      · exact List.mem_cons_of_mem first (ih h)

/-- A defaults object and a composable that uses it are in the file. -/
theorem mem_preorder_of_mem_hiddenDefaults {root declaration : Node} {f : FunctionDecl}
    (h : (declaration, f) ∈
      hiddenDefaults (defaultsObjects root) (EmissionCounter.componentsIn root)) :
    declaration ∈ root.preorder ∧ f.node ∈ root.preorder := by
  obtain ⟨g, hg, h⟩ := List.mem_flatMap.1 h
  obtain ⟨used, hused, h⟩ := List.mem_filterMap.1 h
  split at h
  case isFalse => cases h
  cases h
  obtain ⟨default, -, hused⟩ := List.mem_flatMap.1 hused
  obtain ⟨n, -, hn⟩ := List.mem_filterMap.1 hused
  split at hn
  case isFalse => cases hn
  constructor
  · obtain ⟨before, after, heq, -⟩ := List.lookup_eq_some_iff.1 hn
    have hobject : (n.text, declaration) ∈ defaultsObjects root := heq ▸ by simp
    obtain ⟨m, hm, hobject⟩ := List.mem_filterMap.1 (List.mem_reverse.1 hobject)
    obtain ⟨name, -, hobject⟩ := Option.bind_eq_some_iff.1 hobject
    simp only [Option.ite_none_right_eq_some, Option.some.injEq, Prod.mk.injEq] at hobject
    obtain ⟨-, -, rfl⟩ := hobject
    exact Node.mem_preorder_of_mem_descendants (List.mem_filter.1 hm).1
  · obtain ⟨hall, -⟩ := List.mem_filter.1 ((List.mergeSort_perm _ _).mem_iff.1 hg)
    have hnode := List.mem_map_of_mem (f := FunctionDecl.node) hall
    rw [FunctionDecl.map_node_allIn] at hnode
    exact Node.mem_preorder_of_mem_descendants (List.mem_filter.1 hnode).1

theorem oneLine_keyword (visibility : Visibility) : OneLine visibility.keyword := by
  cases visibility <;> exact .ofList rfl

theorem speaksInLines_defaultsVisibility : defaultsVisibility.SpeaksInLines := by
  rintro (root | n | f | f) hfit <;> try exact tells_silent
  refine tells_of_map fun (declaration, f) h => ?_
  obtain ⟨hdeclaration, hf⟩ := mem_preorder_of_mem_hiddenDefaults (mem_of_mem_firstOfEach h)
  have hobject : OneLine (((declaration.childOfKind? "identifier").map Node.text).getD "") := by
    cases hname : declaration.childOfKind? "identifier" with
    | none => exact .ofList rfl
    | some name => exact (hfit.of_mem hdeclaration).oneLine_child hname
  have huser : OneLine (f.name?.getD "") := by
    cases hname : f.name? with
    | none => exact .ofList rfl
    | some name => exact FunctionDecl.oneLine_name (hfit.of_mem hf) hname
  exact .append (.append (.append (.append (.append (.append (.append (.append (.append
    (.ofList rfl) hobject) (.ofList rfl)) (oneLine_keyword _)) (.ofList rfl)) (oneLine_keyword _))
    (.ofList rfl)) huser) (.ofList rfl)) (.ofList rfl)

/-! ### Messages that may go on -/

theorem parameterOrderMessage_breaks (current expected : List Parameter) :
    ¬ OneLine (parameterOrderMessage current expected) := by
  intro h
  have hpattern := h.left.left.left.left.right
  exact absurd hpattern (OneLine.not_ofList rfl)

theorem breaks_parameterOrder (visit : Visit) :
    (parameterOrder.visit visit).Tells fun finding => ¬ OneLine finding.message := by
  rcases visit with (root | n | f | f) <;> try exact tells_silent
  simp only [parameterOrder]
  split
  · exact tells_silent
  split
  · exact tells_silent
  refine tells_bind fun types => tells_bind fun modifiers => ?_
  split
  · exact tells_silent
  · exact tells_of fun finding hf => List.mem_singleton.1 hf ▸ parameterOrderMessage_breaks _ _

theorem breaks_unstableCollections (visit : Visit) (hfit : visit.node.NamesFit) :
    (unstableCollections.visit visit).Tells fun finding => OneLine finding.message ↔
      ∀ type ∈ Parameter.typeText? ⟨finding.node, none, none⟩, OneLine type := by
  rcases visit with (root | n | f | f) <;> try exact tells_silent
  refine tells_of_filterMap fun p hp finding hfinding => ?_
  obtain ⟨type, -, h⟩ := Option.bind_eq_some_iff.1 hfinding
  have hname : OneLine (p.name?.getD "items") := by
    cases hname : p.name? with
    | none => exact .ofList rfl
    | some name =>
      exact Parameter.oneLine_name (FunctionDecl.namesFit_of_mem_parameters hfit hp) hname
  split at h
  case isFalse => cases h
  case isTrue htype =>
  cases h
  have htype : OneLine type := by
    simp only [List.contains_iff_mem, List.mem_cons, List.not_mem_nil, or_false] at htype
    rcases htype with rfl | rfl | rfl | rfl <;> exact .ofList rfl
  have hwritten : OneLine (p.typeText?.getD type) ↔ ∀ text ∈ p.typeText?, OneLine text := by
    cases p.typeText? <;> simp [htype]
  refine Iff.trans ⟨fun h => h.right.left.right, fun h => ?_⟩ hwritten
  exact .append (.append (.append (.ofList rfl) (.append htype (.ofList rfl)))
    (.append (.append (.append (.append (.ofList rfl) hname) (.ofList rfl)) htype) (.ofList rfl)))
    (.append (.append (.ofList rfl) h) (.ofList rfl))

/-- A finding whose message goes over the end of a line: the listing of parameters always does, and
the word on a collection does with the text of the type. -/
def BreaksLine (rule : Rule) (finding : Finding) : Prop :=
  rule.code = "CL022" ∨ rule.code = "CL025" ∧
    ∃ type ∈ Parameter.typeText? ⟨finding.node, none, none⟩, ¬ OneLine type

theorem speaksInLines_of_mem_allRules : ∀ rule ∈ allRules,
    rule.code ∉ ["CL022", "CL025"] → rule.SpeaksInLines := by
  simp only [allRules, List.forall_mem_cons, List.not_mem_nil, false_implies, implies_true,
    and_true]
  exact ⟨fun _ => speaksInLines_composableNaming, fun _ => speaksInLines_compositionLocalAllowlist,
    fun _ => speaksInLines_compositionLocalNaming,
    fun _ => speaksInLines_contentEmitterReturningValues,
    fun _ => speaksInLines_contentSlotReused, fun _ => speaksInLines_contentTrailingLambda,
    fun _ => speaksInLines_defaultsVisibility, fun _ => speaksInLines_lambdaParamInEffect,
    fun _ => speaksInLines_material2, fun _ => speaksInLines_modifierClickableOrder,
    fun _ => speaksInLines_modifierComposable, fun _ => speaksInLines_modifierComposed,
    fun _ => speaksInLines_modifierMissing, fun _ => speaksInLines_modifierNaming,
    fun _ => speaksInLines_modifierNotUsedAtRoot, fun _ => speaksInLines_modifierReused,
    fun _ => speaksInLines_modifierWithoutDefault, fun _ => speaksInLines_multipleContentEmitters,
    fun _ => speaksInLines_mutableParams, fun _ => speaksInLines_mutableStateAutoboxing,
    fun _ => speaksInLines_parameterNaming, fun h => absurd List.mem_cons_self h,
    fun _ => speaksInLines_previewPublic, fun _ => speaksInLines_rememberMissing,
    fun h => absurd (List.mem_cons_of_mem _ List.mem_cons_self) h,
    fun _ => speaksInLines_viewModelForwarding, fun _ => speaksInLines_viewModelInjection⟩

theorem oneLine_code_of_mem_allRules : ∀ rule ∈ allRules, OneLine rule.code := by
  have h : ∀ rule ∈ allRules, rule.code.toList.all (· != '\n') = true := by decide +kernel
  intro rule hrule hmem
  simpa using List.all_eq_true.1 (h rule hrule) _ hmem

theorem breaks_of_mem_allRules {rule : Rule} (hrule : rule ∈ allRules) (visit : Visit)
    (hfit : visit.node.NamesFit) (occasion : Occasion) (backend : Backend) (memo : Memo) :
    ∀ finding ∈ (rule.report visit occasion backend memo).1.findings,
      (¬ OneLine finding.message ↔ BreaksLine rule finding) := by
  intro finding hf
  by_cases horder : rule.code = "CL022"
  · have hsame : rule = parameterOrder := eq_of_code_eq hrule (by simp [allRules]) horder
    subst hsame
    exact iff_of_true ((breaks_parameterOrder visit).report occasion backend memo finding hf)
      (.inl rfl)
  by_cases hcollections : rule.code = "CL025"
  · have hsame : rule = unstableCollections :=
      eq_of_code_eq hrule (by simp [allRules]) hcollections
    subst hsame
    have hline : OneLine finding.message ↔ _ :=
      (breaks_unstableCollections visit hfit).report occasion backend memo finding hf
    rw [BreaksLine, or_iff_right horder, hline]
    simp [hcollections]
  have hlines := speaksInLines_of_mem_allRules rule hrule (by simp [horder, hcollections])
  have hline := (hlines visit hfit).report occasion backend memo finding hf
  simp [BreaksLine, horder, hcollections, hline]

end Rules

end ComposeCheck
