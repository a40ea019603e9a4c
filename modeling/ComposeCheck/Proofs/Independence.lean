import ComposeCheck.Dispatch
import ComposeCheck.Proofs.EditPlaces
import ComposeCheck.Proofs.Settling
import Mathlib.Data.List.Basic

/-!
# Rules do not disturb each other

A run that only reports makes no rewrites, and no rule notices what others have asked. So a list of
rules reports what each of them reports alone, one after the other, and the severity of a rule shows
in nothing but the severity of its violations.
-/

namespace ComposeCheck

namespace Scheduled

variable {scheduled : Scheduled} {file : CheckedFile} {mode : Mode} {finding : Finding}

/-- What a rule reports at a visit if nothing has been asked and rewritten before. -/
def violationsAt (scheduled : Scheduled) (file : CheckedFile) (backend : Backend) (visit : Visit) :
    List Violation :=
  ((scheduled.rule.report visit .plain backend .empty).1.findings.filter fun finding =>
    !scheduled.isSilenced file finding.node).map (scheduled.violation file)

/-- Whether a rule fails at a visit if nothing has been asked and rewritten before. -/
def failsAt (scheduled : Scheduled) (backend : Backend) (visit : Visit) : Bool :=
  (scheduled.rule.report visit .plain backend .empty).1.overflowed

theorem outcome_eq_silenced_iff :
    scheduled.outcome file mode finding = .silenced ↔
      scheduled.isSilenced file finding.node = true := by
  unfold outcome
  split
  · simp [*]
  · split <;> simp [*]

theorem outcome_report_ne_corrected : scheduled.outcome file .report finding ≠ .corrected := by
  unfold outcome
  split <;> simp

theorem code_of_mem_violationsAt {backend : Backend} {visit : Visit} {v : Violation}
    (h : v ∈ scheduled.violationsAt file backend visit) : v.code = scheduled.rule.code := by
  obtain ⟨finding, -, rfl⟩ := List.mem_map.1 h
  rfl

end Scheduled

/-- The violations of a step are those of the findings that are not silenced. -/
theorem Step.violations_of_findings {step : Step} {file : CheckedFile} {mode : Mode}
    (findings : List Finding)
    (h : step.findings = findings.map fun finding =>
      (finding, step.scheduled.outcome file mode finding)) :
    step.violations file = (findings.filter fun finding =>
      !step.scheduled.isSilenced file finding.node).map (step.scheduled.violation file) := by
  rw [violations, h, List.filter_map, List.map_map]
  refine congrArg (List.map _) (List.filter_congr fun finding _ => ?_)
  rw [Bool.eq_iff_iff]
  simp [Scheduled.outcome_eq_silenced_iff]

namespace Dispatch

variable {file : CheckedFile} {backend : Backend} {memo : Memo} {s : Scheduled}
  {before between after : Rewrites}

/-- Steps report these violations, fail or not, and leave the file and the answers as they should
be. -/
structure Reports (file : CheckedFile) (backend : Backend) (before : Rewrites)
    (violations : List Violation) (fails : Bool) (result : (List Step × Rewrites) × Memo) :
    Prop where
  faithful : result.2.Faithful backend
  after_eq : result.1.2 = before
  edits_eq : result.1.1.flatMap (·.edits) = []
  violations_eq : result.1.1.flatMap (·.violations file) = violations
  fails_eq : result.1.1.any (·.overflowed) = fails

theorem reports_nil (hmemo : memo.Faithful backend) :
    Reports file backend before [] false (([], before), memo) :=
  ⟨hmemo, rfl, rfl, rfl, rfl⟩

theorem Reports.append {first others : List Step} {earlier later : List Violation}
    {fails fails' : Bool} {kept final : Memo}
    (h₁ : Reports file backend before earlier fails ((first, between), kept))
    (h₂ : Reports file backend between later fails' ((others, after), final)) :
    Reports file backend before (earlier ++ later) (fails || fails')
      ((first ++ others, after), final) := by
  refine ⟨h₂.faithful, h₂.after_eq.trans h₁.after_eq, ?_, ?_, ?_⟩
  · rw [List.flatMap_append, h₁.edits_eq, h₂.edits_eq, List.append_nil]
  · rw [List.flatMap_append, h₁.violations_eq, h₂.violations_eq]
  · rw [List.any_append, h₁.fails_eq, h₂.fails_eq]

theorem reports_step (hrule : s.rule.Independent) (hmemo : memo.Faithful backend)
    (before : Rewrites) (visit : Visit) :
    let result := step file .report s before visit backend memo
    Reports file backend before (s.violationsAt file backend visit) (s.failsAt backend visit)
      (([result.1], result.1.after), result.2) := by
  intro result
  let occasion : Occasion := ⟨before, s.outcome file .report⟩
  obtain ⟨hvalue, hfaithful⟩ := hrule.steady visit occasion backend memo hmemo
  have hedits : result.1.edits = [] := hrule.idle visit occasion backend memo
    fun finding _ => Scheduled.outcome_report_ne_corrected
  have hafter : result.1.after = result.1.edits.foldl Edit.apply before := rfl
  refine ⟨hfaithful, by rw [hafter, hedits, List.foldl_nil], ?_, ?_, ?_⟩
  · rw [List.flatMap_singleton, hedits]
  · rw [List.flatMap_singleton, Scheduled.violationsAt,
      hrule.findings_eq visit .plain occasion, ← hvalue]
    exact Step.violations_of_findings _ rfl
  · rw [Scheduled.failsAt, hrule.overflowed_eq visit .plain occasion, ← hvalue]
    exact Bool.or_false _

theorem reports_steps (hrule : s.rule.Independent) (hmemo : memo.Faithful backend)
    (before : Rewrites) (visits : List Visit) :
    Reports file backend before (visits.flatMap (s.violationsAt file backend))
      (visits.any (s.failsAt backend)) (steps file .report s before visits backend memo) := by
  induction visits generalizing before memo with
  | nil => exact reports_nil hmemo
  | cons visit visits ih =>
    have hfirst : Reports file backend before _ _ _ := reports_step hrule hmemo before visit
    exact hfirst.append (ih hfirst.faithful _)

theorem reports_rules {list : List Scheduled} (hrules : ∀ s ∈ list, s.rule.Independent)
    (hmemo : memo.Faithful backend) (before : Rewrites) (visits : List Visit) :
    Reports file backend before
      (list.flatMap fun s => visits.flatMap (s.violationsAt file backend))
      (list.any fun s => visits.any (s.failsAt backend))
      (rules file .report visits before list backend memo) := by
  induction list generalizing before memo with
  | nil => exact reports_nil hmemo
  | cons s list ih =>
    obtain ⟨hrule, hothers⟩ := List.forall_mem_cons.1 hrules
    have hfirst : Reports file backend before _ _ _ := reports_steps hrule hmemo before visits
    exact hfirst.append (ih hothers hfirst.faithful _)

end Dispatch

/-- A run that only reports edits nothing; each rule reports what it finds by itself, and the run
fails if one of them does by itself. -/
theorem reports_dispatch (tree : SyntaxTree) (file : CheckedFile) (backend : Backend)
    {rules : List Scheduled} (hrules : ∀ s ∈ rules, s.rule ∈ allRules) :
    let run := (dispatch tree file rules .report backend .empty).1
    run.edits = [] ∧ run.rewrites = .none ∧
    (run.violations file = rules.flatMap fun s =>
      (visitsOf tree.rootNode).flatMap (s.violationsAt file backend)) ∧
    run.overflowed = rules.any fun s => (visitsOf tree.rootNode).any (s.failsAt backend) := by
  have h : Dispatch.Reports file backend .none _ _ _ := Dispatch.reports_rules
    (fun s hs => independent_of_mem_allRules (hrules s hs)) Memo.faithful_empty .none
    (visitsOf tree.rootNode)
  exact ⟨h.edits_eq, h.after_eq, h.violations_eq, h.fails_eq⟩

theorem filter_flatMap_of_forall_mem {α β : Type} {p : β → Bool} {q : α → Bool} {g : α → List β}
    (h : ∀ x, ∀ y ∈ g x, p y = q x) (xs : List α) :
    (xs.flatMap g).filter p = (xs.filter q).flatMap g := by
  induction xs with
  | nil => rfl
  | cons x xs ih =>
    rw [List.flatMap_cons, List.filter_append, ih, List.filter_congr (h x), List.filter_cons]
    cases q x <;> simp

/-- In a run that only reports, a list of rules reports what each of its rules reports alone, in the
order of the list, and rewrites nothing. The severity of a rule shows only as the severity of its
violations; and lists that schedule the rule with a code alike report the same under that code,
whatever other rules are in them, in whatever order and with whatever severities. -/
theorem dispatch_keeps_rules_apart (tree : SyntaxTree) (file : CheckedFile) (backend : Backend)
    {rules : List Scheduled} (hrules : ∀ s ∈ rules, s.rule ∈ allRules) :
    let run (rules : List Scheduled) := (dispatch tree file rules .report backend .empty).1
    let violations (rules : List Scheduled) := (run rules).violations file
    violations rules = rules.flatMap (fun s => violations [s]) ∧
    (run rules).edits = [] ∧ (run rules).rewrites = .none ∧
    (∀ s ∈ rules, ∀ severity, violations [{ s with severity }] =
      (violations [s]).map fun v => { v with severity }) ∧
    ∀ others : List Scheduled, (∀ s ∈ others, s.rule ∈ allRules) → ∀ code,
      others.filter (·.rule.code == code) = rules.filter (·.rule.code == code) →
        (violations others).filter (·.code == code) =
          (violations rules).filter (·.code == code) := by
  intro run violations
  have hreports {list : List Scheduled} (hlist : ∀ s ∈ list, s.rule ∈ allRules) :
      violations list = list.flatMap fun s =>
        (visitsOf tree.rootNode).flatMap (s.violationsAt file backend) :=
    (reports_dispatch tree file backend hlist).2.2.1
  have halone {s : Scheduled} (hs : s.rule ∈ allRules) :
      violations [s] = (visitsOf tree.rootNode).flatMap (s.violationsAt file backend) := by
    rw [hreports (List.forall_mem_singleton.2 hs), List.flatMap_singleton]
  obtain ⟨hedits, hrewrites, -⟩ := reports_dispatch tree file backend hrules
  refine ⟨?_, hedits, hrewrites, fun s hs severity => ?_, fun others hothers code hcode => ?_⟩
  · rw [hreports hrules]
    exact List.flatMap_congr fun s hs => (halone (hrules s hs)).symm
  · rw [halone (s := { s with severity }) (hrules s hs), halone (hrules s hs), List.map_flatMap]
    refine List.flatMap_congr fun visit _ => ?_
    rw [Scheduled.violationsAt, Scheduled.violationsAt, List.map_map]
    rfl
  · have hkeep (s : Scheduled) : ∀ v ∈ (visitsOf tree.rootNode).flatMap
        (s.violationsAt file backend), (v.code == code) = (s.rule.code == code) := by
      intro v hv
      obtain ⟨visit, -, hv⟩ := List.mem_flatMap.1 hv
      rw [Scheduled.code_of_mem_violationsAt hv]
    rw [hreports hothers, hreports hrules, filter_flatMap_of_forall_mem hkeep,
      filter_flatMap_of_forall_mem hkeep, hcode]

/-- A rule at two severities, and between them one that asks for the same options. -/
def sharingRules : List Scheduled :=
  [⟨Rules.modifierMissing, .error⟩, ⟨Rules.modifierNotUsedAtRoot, .error⟩,
    ⟨Rules.modifierMissing, .warning⟩]

def sharingBackend : Backend := fun name => if name = "contentEmitters" then some "E" else none

def sharingViolations (rules : List Scheduled) : List Violation :=
  let file := CheckedFile.of "" "A.kt" pageFile
  (dispatch pageTree file rules .report sharingBackend .empty).1.violations file

theorem dispatch_keeps_rules_apart_sharing :
    (∀ s ∈ sharingRules, s.rule ∈ allRules) ∧
    (sharingViolations sharingRules).map (fun v => (v.code, v.severity, v.location.line)) =
      [("CL013", .error, 2), ("CL013", .warning, 2)] ∧
    sharingViolations sharingRules =
      sharingRules.flatMap fun s => sharingViolations [s] := by
  have hrules : ∀ s ∈ sharingRules, s.rule ∈ allRules := by simp [sharingRules, allRules]
  refine ⟨hrules, by decide +kernel, ?_⟩
  exact (dispatch_keeps_rules_apart pageTree (.of "" "A.kt" pageFile) sharingBackend hrules).1

end ComposeCheck
