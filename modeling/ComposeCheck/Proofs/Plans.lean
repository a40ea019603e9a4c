import ComposeCheck.Proofs.Answers
import ComposeCheck.Rule
import Mathlib.Tactic.Choose

/-!
# What rules plan

The body of a rule could read rewritten texts, and it could let a decision on one finding show in
the next one. A body that carries out a plan (`RuleM.CarriesOut`) does neither. The plan is made from
the file and the options alone: it says what is found, and which edits follow from the decisions.
What was rewritten before shows nowhere, and the decisions show in the edits only.

A plan puts off the edits that several fixes share until all findings are reported. The edits of a
rule that fixes come in this order too: those of each finding, one after the other, then the others.
-/

namespace ComposeCheck

namespace OptionM

/-- Whatever the options are, a computation gives a value with this property. -/
def Yields {α : Type} (m : OptionM α) (holds : α → Prop) : Prop :=
  ∀ backend memo, holds (m backend memo).1

section
variable {α β : Type} {m : OptionM α} {f : α → OptionM β} {P : α → Prop} {Q : β → Prop} {a : α}

theorem yields_pure (h : P a) : Yields (pure a) P := fun _ _ => h

theorem Yields.bind (hm : Yields m P) (hf : ∀ a, P a → Yields (f a) Q) : Yields (m >>= f) Q :=
  fun backend memo => hf _ (hm backend memo) backend (m backend memo).2

theorem yields_bind (hf : ∀ a, Yields (f a) Q) : Yields (m >>= f) Q :=
  fun backend memo => hf _ backend (m backend memo).2

/-- Whatever the options are, a computation gives a value with this property, and it does not notice
what has been asked before. -/
structure Asks (m : OptionM α) (holds : α → Prop) : Prop where
  yields : Yields m holds
  steady : Steady m

theorem asks_pure (h : P a) : Asks (pure a) P := ⟨yields_pure h, steady_pure a⟩

theorem Steady.asks_bind (hm : Steady m) (hf : ∀ a, Asks (f a) Q) : Asks (m >>= f) Q :=
  ⟨yields_bind fun a => (hf a).yields, hm.bind fun a => (hf a).steady⟩

end

end OptionM

open OptionM

namespace Report

/-- One report after the other. -/
def append (first second : Report) : Report :=
  ⟨first.findings ++ second.findings, first.edits ++ second.edits,
    first.overflowed || second.overflowed⟩

@[simp] theorem append_silent (report : Report) : report.append .silent = report := by
  simp [append, silent]

@[simp] theorem silent_append (report : Report) : silent.append report = report := by
  simp [append, silent]

theorem append_assoc (first second third : Report) :
    (first.append second).append third = first.append (second.append third) := by
  simp [append, List.append_assoc, Bool.or_assoc]

end Report

/-- Nothing has been rewritten, and every finding is reported without being fixed. -/
def Occasion.plain : Occasion := ⟨.none, fun _ => .reported⟩

/-- The edits of a finding of which this becomes. -/
def Finding.edits (finding : Finding) (outcome : Outcome) : List Edit :=
  if outcome = .corrected then finding.fix?.getD [] else []

/-- What a rule intends at a visit: the findings, and the edits that several of their fixes share,
given which findings are being fixed. -/
structure Plan where
  findings : List Finding
  conclude : List Bool → List Edit := fun _ => []
  overflowed : Bool := false

namespace Plan

/-- The edits of the findings that are fixed, then those that they share. -/
def edits (plan : Plan) (outcome : Finding → Outcome) : List Edit :=
  (plan.findings.flatMap fun finding => finding.edits (outcome finding)) ++
    plan.conclude (plan.findings.map fun finding => outcome finding = .corrected)

/-- What comes of a plan if this becomes of each finding. -/
def report (plan : Plan) (outcome : Finding → Outcome) : Report :=
  ⟨plan.findings, plan.edits outcome, plan.overflowed⟩

end Plan

namespace RuleM

/-- Whatever has been rewritten and said before, the body adds what comes of the plan. -/
def CarriesOut (body : RuleM Unit) (plan : OptionM Plan) : Prop :=
  ∀ occasion before, body occasion before = do
    let plan ← plan
    return ((), before.append (plan.report occasion.outcome))

/-- The body carries out a plan of this kind, which does not depend on what has been asked before. -/
def Plans (body : RuleM Unit) (holds : Plan → Prop) : Prop :=
  ∃ plan, Asks plan holds ∧ body.CarriesOut plan

section
variable {α β : Type} {occasion : Occasion} {before : Report} {finding : Finding}
  {findings : List Finding} {edits : List Edit}

/-! ### What comes of the steps of a body -/

theorem bind_apply (m : RuleM α) (f : α → RuleM β) : (m >>= f) occasion before =
    (m occasion before >>= fun result => f result.1 occasion result.2) := rfl

theorem pure_apply (a : α) : (pure a : RuleM α) occasion before = pure (a, before) := rfl

theorem tell_apply : tell findings occasion before =
    pure ((), before.append ⟨findings, [], false⟩) := by
  simp [tell, Report.append]
  rfl

theorem make_apply : make edits occasion before =
    pure ((), before.append ⟨[], edits, false⟩) := by
  simp [make, Report.append]
  rfl

theorem overflow_apply {overflowed : Bool} : overflow overflowed occasion before =
    pure ((), before.append ⟨[], [], overflowed⟩) := by
  simp [overflow, Report.append]
  rfl

theorem report_apply : report finding occasion before =
    pure (decide (occasion.outcome finding = .corrected),
      before.append ⟨[finding], [], false⟩) := by
  rw [report, bind_apply, tell_apply, pure_bind]
  rfl

theorem offer_apply : offer finding occasion before =
    pure (decide (occasion.outcome finding = .corrected),
      before.append ⟨[finding], finding.edits (occasion.outcome finding), false⟩) := by
  rw [offer, bind_apply, report_apply, pure_bind]
  by_cases h : occasion.outcome finding = .corrected
  · simp only [h, decide_true, if_true, bind_apply, make_apply, pure_bind, Finding.edits,
      Report.append_assoc]
    rfl
  · simp [h, Finding.edits]
    rfl

theorem offerAll_apply : offerAll findings occasion before =
    pure (findings.map fun finding => decide (occasion.outcome finding = .corrected),
      before.append
        ⟨findings, findings.flatMap fun finding => finding.edits (occasion.outcome finding),
          false⟩) := by
  induction findings generalizing before with
  | nil =>
    rw [offerAll, List.mapM_nil, pure_apply]
    exact congrArg (fun report => pure ([], report)) before.append_silent.symm
  | cons finding findings ih =>
    rw [offerAll] at ih
    rw [offerAll, List.mapM_cons, bind_apply, offer_apply, pure_bind, bind_apply, ih, pure_bind,
      Report.append_assoc]
    rfl

theorem liftM_bind_apply (m : OptionM α) (f : α → RuleM β) (backend : Backend) (memo : Memo) :
    ((liftM m : RuleM α) >>= f) occasion before backend memo =
      f (m backend memo).1 occasion before backend (m backend memo).2 := rfl

theorem report_eq_visit (rule : Rule) (visit : Visit) (backend : Backend) (memo : Memo) :
    (rule.report visit occasion backend memo).1 =
      (rule.visit visit occasion .silent backend memo).1.2 := rfl

/-! ### Bodies that carry out plans -/

variable {m : OptionM α} {body : RuleM Unit} {f : α → RuleM Unit} {P : Plan → Prop} {plan : Plan}

theorem carriesOut_pure : CarriesOut (pure ()) (pure { findings := [] }) := by
  intro occasion before
  exact congrArg (fun report => (pure ((), report) : OptionM _)) before.append_silent.symm

theorem carriesOut_tell (h : ∀ finding ∈ findings, finding.fix? = none) :
    (tell findings).CarriesOut (pure { findings }) := by
  intro occasion before
  have hedits : (findings.flatMap fun finding => finding.edits (occasion.outcome finding)) = [] := by
    refine List.flatMap_eq_nil_iff.2 fun finding hf => ?_
    rw [Finding.edits, h finding hf]
    exact ite_self _
  rw [tell_apply, pure_bind, Plan.report, Plan.edits, hedits, List.nil_append]

theorem carriesOut_offer : (discard (offer finding)).CarriesOut (pure { findings := [finding] }) := by
  intro occasion before
  show (offer finding >>= fun _ => pure ()) occasion before = _
  rw [bind_apply, offer_apply, pure_bind, pure_bind, pure_apply, Plan.report, Plan.edits,
    List.append_nil, List.flatMap_singleton]

theorem carriesOut_offerAll : (discard (offerAll findings)).CarriesOut (pure { findings }) := by
  intro occasion before
  show (offerAll findings >>= fun _ => pure ()) occasion before = _
  rw [bind_apply, offerAll_apply, pure_bind, pure_bind, pure_apply, Plan.report, Plan.edits,
    List.append_nil]

/-- The edits that several fixes share follow from the decisions. -/
theorem carriesOut_conclude {g : List Bool → RuleM Unit} {conclude : List Bool → List Edit}
    (h : ∀ corrected, g corrected = make (conclude corrected)) :
    (offerAll findings >>= g).CarriesOut (pure { findings, conclude }) := by
  intro occasion before
  rw [bind_apply, offerAll_apply, pure_bind, h, make_apply, pure_bind, Report.append_assoc]
  simp only [Report.append, Plan.report, Plan.edits, List.append_nil, Bool.or_false]

theorem CarriesOut.plans (hbody : body.CarriesOut (pure plan)) (h : P plan) : body.Plans P :=
  ⟨pure plan, asks_pure h, hbody⟩

theorem plans_overflow {overflowed : Bool} (hbody : body.Plans P)
    (h : ∀ plan, P plan → P { plan with overflowed := overflowed || plan.overflowed }) :
    (overflow overflowed >>= fun _ => body).Plans P := by
  obtain ⟨plan, hasks, hcarries⟩ := hbody
  refine ⟨plan >>= fun plan => pure { plan with overflowed := overflowed || plan.overflowed },
    ⟨hasks.yields.bind fun plan hplan => yields_pure (h plan hplan),
      hasks.steady.bind fun _ => steady_pure _⟩, fun occasion before => ?_⟩
  rw [bind_apply, overflow_apply, pure_bind, hcarries, bind_assoc]
  refine congrArg (plan >>= ·) (funext fun plan => ?_)
  rw [Report.append_assoc]
  rfl

end

end RuleM

theorem RuleM.CarriesOut.report_eq {rule : Rule} {visit : Visit} {plan : OptionM Plan}
    (h : (rule.visit visit).CarriesOut plan) (occasion : Occasion) :
    rule.report visit occasion = plan >>= fun plan => pure (plan.report occasion.outcome) := by
  rw [Rule.report, h, bind_assoc]
  refine congrArg (plan >>= ·) (funext fun plan => ?_)
  rw [pure_bind]
  exact congrArg pure (Report.silent_append _)

section
variable {α : Type} {m : OptionM α} {f : α → RuleM Unit} {P : Plan → Prop}

/-- What is learnt of the options goes into the plan. -/
theorem RuleM.carriesOut_bind {plan : α → OptionM Plan} (hf : ∀ a, (f a).CarriesOut (plan a)) :
    ((liftM m : RuleM α) >>= f).CarriesOut (m >>= plan) := by
  intro occasion before
  rw [bind_assoc]
  exact congrArg (m >>= ·) (funext fun a => hf a occasion before)

theorem OptionM.Steady.plans_bind (hm : Steady m) (hf : ∀ a, (f a).Plans P) :
    ((liftM m : RuleM α) >>= f).Plans P := by
  choose plan hasks hcarries using hf
  exact ⟨m >>= plan, hm.asks_bind hasks, RuleM.carriesOut_bind hcarries⟩

end

end ComposeCheck
