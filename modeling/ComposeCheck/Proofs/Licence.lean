import ComposeCheck.Proofs.Fixes
import ComposeCheck.Proofs.Independence

/-!
# Edits need a licence

An edit is made only if a finding is corrected, and a finding is corrected only in a run that fixes,
if it can be fixed and nothing silences it. So a rule whose findings are all silenced or cannot be
fixed rewrites nothing (`rewriting_needs_licence`).
-/

namespace ComposeCheck

theorem Scheduled.outcome_eq_corrected_iff {scheduled : Scheduled} {file : CheckedFile}
    {mode : Mode} {finding : Finding} :
    scheduled.outcome file mode finding = .corrected ↔
      scheduled.isSilenced file finding.node = false ∧ finding.fix?.isSome = true ∧ mode = .fix := by
  unfold outcome
  split
  · simp [*]
  · split <;> simp_all

theorem Step.code_of_mem {step : Step} {file : CheckedFile} {v : Violation}
    (h : v ∈ step.violations file) : v.code = step.scheduled.rule.code := by
  obtain ⟨_, -, rfl⟩ := List.mem_map.1 h
  rfl

theorem flatMap_filter_of_eq_nil {α β : Type} {p : α → Bool} {g : α → List β} {xs : List α}
    (h : ∀ x ∈ xs, p x = false → g x = []) : xs.flatMap g = (xs.filter p).flatMap g := by
  induction xs with
  | nil => rfl
  | cons x xs ih =>
    rw [List.flatMap_cons, List.filter_cons, ih fun y hy => h y (List.mem_cons_of_mem x hy)]
    cases hx : p x with
    | true => rfl
    | false => rw [h x List.mem_cons_self hx]; rfl

/-- The findings that a rule has reported at a visit, silenced or not. -/
def Step.reported (step : Step) : List Finding := step.findings.map Prod.fst

/-- The steps in which a rule was asked. -/
def Run.stepsOf (run : Run) (rule : Rule) : List Step :=
  run.steps.filter (·.scheduled.rule.code == rule.code)

theorem nodup_code_allRules : (allRules.map (·.code)).Nodup := by decide

/-- A rule is known by its code. -/
theorem eq_of_code_eq {rule other : Rule} (h : rule ∈ allRules) (hother : other ∈ allRules)
    (hcode : rule.code = other.code) : rule = other :=
  List.inj_on_of_nodup_map nodup_code_allRules h hother hcode

/-! ### How steps come about -/

namespace Dispatch

variable {file : CheckedFile} {mode : Mode} {backend : Backend} {memo : Memo} {s : Scheduled}
  {before : Rewrites} {visits : List Visit} {list : List Scheduled} {st : Step}

/-- One of these rules was asked, its findings were judged, and the edits followed from that. -/
structure IsStep (file : CheckedFile) (mode : Mode) (backend : Backend) (list : List Scheduled)
    (st : Step) : Prop where
  mem : st.scheduled ∈ list
  eq : ∃ memo, st = (step file mode st.scheduled st.before st.visit backend memo).1

theorem isStep_of_mem_steps (h : st ∈ (steps file mode s before visits backend memo).1.1) :
    IsStep file mode backend [s] st := by
  induction visits generalizing before memo with
  | nil => exact absurd h List.not_mem_nil
  | cons visit visits ih =>
    rcases List.mem_cons.1 h with rfl | h
    · exact ⟨List.mem_singleton_self s, memo, rfl⟩
    · exact ih h

theorem isStep_of_mem_rules (h : st ∈ (rules file mode visits before list backend memo).1.1) :
    IsStep file mode backend list st := by
  induction list generalizing before memo with
  | nil => exact absurd h List.not_mem_nil
  | cons s list ih =>
    rcases List.mem_append.1 h with h | h
    · obtain ⟨hmem, heq⟩ := isStep_of_mem_steps h
      exact ⟨List.mem_singleton.1 hmem ▸ List.mem_cons_self, heq⟩
    · obtain ⟨hmem, heq⟩ := ih h
      exact ⟨List.mem_cons_of_mem s hmem, heq⟩

theorem IsStep.exists_report (h : IsStep file mode backend list st) : ∃ memo,
    let report := (st.scheduled.rule.report st.visit
      ⟨st.before, st.scheduled.outcome file mode⟩ backend memo).1
    st.findings = (report.findings.map fun finding =>
      (finding, st.scheduled.outcome file mode finding)) ∧ st.reported = report.findings ∧
      st.edits = report.edits ∧ st.after = st.edits.foldl Edit.apply st.before := by
  obtain ⟨memo, heq⟩ := h.eq
  have hfindings := congrArg Step.findings heq
  have hedits := congrArg Step.edits heq
  have hafter := congrArg Step.after heq
  refine ⟨memo, hfindings, ?_, hedits, hafter.trans (congrArg (List.foldl _ _) hedits.symm)⟩
  rw [Step.reported, hfindings]
  exact (List.map_map).trans (List.map_id _)

/-- What is told of a step is what has been reported and is not silenced. -/
theorem IsStep.violations_eq (h : IsStep file mode backend list st) :
    st.violations file = (st.reported.filter fun finding =>
      !st.scheduled.isSilenced file finding.node).map (st.scheduled.violation file) := by
  obtain ⟨memo, hfindings, hreported, -, -⟩ := h.exists_report
  rw [hreported]
  exact Step.violations_of_findings _ hfindings

/-- Without a corrected finding there is no edit. -/
theorem IsStep.edits_eq_nil (h : IsStep file mode backend list st)
    (hrule : st.scheduled.rule ∈ allRules)
    (hfindings : ∀ finding ∈ st.reported, st.scheduled.outcome file mode finding ≠ .corrected) :
    st.edits = [] ∧ st.after = st.before := by
  obtain ⟨memo, -, hreported, hedits, hafter⟩ := h.exists_report
  have hnil : st.edits = [] := by
    rw [hedits]
    exact (independent_of_mem_allRules hrule).idle st.visit _ backend memo
      fun finding hfinding => hfindings finding (hreported ▸ hfinding)
  exact ⟨hnil, by rw [hafter, hnil, List.foldl_nil]⟩

end Dispatch

open Dispatch

/-- A run that only reports rewrites nothing. In a run that fixes, a rule rewrites nothing if each
of its findings cannot be fixed or is silenced; and what is told under the code of a rule is what
the rule has found, less what is silenced. -/
theorem rewriting_needs_licence (tree : SyntaxTree) (file : CheckedFile) {rules : List Scheduled}
    (hrules : ∀ s ∈ rules, s.rule ∈ allRules) (backend : Backend) (memo : Memo) :
    let run (mode : Mode) := (dispatch tree file rules mode backend memo).1
    ((run .report).edits = [] ∧ (run .report).rewrites = .none) ∧
    ∀ rule ∈ allRules,
      (∀ step ∈ (run .fix).stepsOf rule, ∀ finding ∈ step.reported, finding.fix? = none ∨
        finding.node.isSuppressed rule.ids = true ∨
          (Allowance.at? file.lines finding.node.line rule.ids).isSome = true) →
      (∀ step ∈ (run .fix).stepsOf rule, step.edits = [] ∧ step.after = step.before) ∧
      (run .fix).rewrites = (((run .fix).steps.filter (·.scheduled.rule.code != rule.code)).flatMap
        (·.edits)).foldl Edit.apply .none ∧
      ((run .fix).violations file).filter (·.code == rule.code) =
        ((run .fix).stepsOf rule).flatMap fun step => (step.reported.filter fun finding =>
          !(finding.node.isSuppressed rule.ids ||
            (Allowance.at? file.lines finding.node.line rule.ids).isSome)).map
          (step.scheduled.violation file) := by
  intro run
  have hrewrites (mode : Mode) : (run mode).rewrites = (run mode).edits.foldl Edit.apply .none :=
    (yields_dispatch tree file mode (fun s hs => editsBelow_of_mem_allRules (hrules s hs))
      backend memo).2
  have hstep {mode : Mode} {step : Step} (h : step ∈ (run mode).steps) :
      IsStep file mode backend rules step := isStep_of_mem_rules h
  have hknown {mode : Mode} {step : Step} (h : step ∈ (run mode).steps) :
      step.scheduled.rule ∈ allRules := hrules _ (hstep h).mem
  have hreport : (run .report).edits = [] := List.flatMap_eq_nil_iff.2 fun step h =>
    ((hstep h).edits_eq_nil (hknown h) fun _ _ => Scheduled.outcome_report_ne_corrected).1
  refine ⟨⟨hreport, by rw [hrewrites, hreport, List.foldl_nil]⟩, fun rule hrule hlicence => ?_⟩
  have hsame {step : Step} (h : step ∈ (run .fix).stepsOf rule) :
      step ∈ (run .fix).steps ∧ step.scheduled.rule = rule := by
    obtain ⟨hmem, hcode⟩ := List.mem_filter.1 h
    exact ⟨hmem, eq_of_code_eq (hknown hmem) hrule (beq_iff_eq.1 hcode)⟩
  have hquiet : ∀ step ∈ (run .fix).stepsOf rule, step.edits = [] ∧ step.after = step.before := by
    intro step h
    obtain ⟨hmem, rfl⟩ := hsame h
    refine (hstep hmem).edits_eq_nil hrule fun finding hfinding hcorrected => ?_
    obtain ⟨hheard, hfix, -⟩ := Scheduled.outcome_eq_corrected_iff.1 hcorrected
    obtain ⟨hsuppressed, hallowed⟩ := Bool.or_eq_false_iff.1 hheard
    rcases hlicence step h finding hfinding with hnone | hsome | hsome
    · simp [hnone] at hfix
    · simp [hsome] at hsuppressed
    · simp [hsome] at hallowed
  refine ⟨hquiet, ?_, ?_⟩
  · rw [hrewrites, Run.edits, flatMap_filter_of_eq_nil fun step hmem hcode => ?_]
    have hcode : step.scheduled.rule.code = rule.code := by simpa using hcode
    exact (hquiet step (List.mem_filter.2 ⟨hmem, beq_iff_eq.2 hcode⟩)).1
  · rw [Run.violations, filter_flatMap_of_forall_mem fun step v hv => by rw [step.code_of_mem hv]]
    refine List.flatMap_congr fun step h => ?_
    obtain ⟨hmem, rfl⟩ := hsame h
    exact (hstep hmem).violations_eq

/-- The file with a boxed number in a key, under an annotation that leaves state holders alone. -/
def hushedFile : String := "@file:Suppress(\"viewmodel-injection\")\n" ++ boxedKeyFile

def hushedRoot : ParseTree :=
  let named (kind : String) (start stop : Nat) (ts : List ParseTree) : ParseTree :=
    .node ⟨kind, true, false, start, stop⟩ ts
  let token (kind : String) (start stop : Nat) : ParseTree :=
    .node ⟨kind, false, false, start, stop⟩ []
  let literal := named "string_literal" 15 36
    [token "\"" 15 16, named "string_content" 16 35 [], token "\"" 35 36]
  let invocation := named "constructor_invocation" 6 37
    [named "user_type" 6 14 [named "identifier" 6 14 []], named "value_arguments" 14 37
      [token "(" 14 15, named "value_argument" 15 36 [literal], token ")" 36 37]]
  let entry := named "file_annotation" 0 37
    [token "@" 0 1, token "file" 1 5, token ":" 5 6, invocation]
  named "source_file" 0 121 (entry :: boxedKeyRoot.children.map (Recovery.move 0 38))

def hushedTree : SyntaxTree :=
  ⟨.ofText hushedFile, SyntaxTree.number (.ofText hushedFile) 0 hushedRoot, false⟩

def hushedCheck : CheckedFile := .of "" "A.kt" hushedFile

/-- The run that would unbox the number and move the state holder. -/
def hushedRun : Run :=
  (dispatch hushedTree hushedCheck boxedKeyRules .fix (fun _ => none) .empty).1

theorem rewriting_needs_licence_hushed :
    (∀ s ∈ boxedKeyRules, s.rule ∈ allRules) ∧ Rules.viewModelInjection ∈ allRules ∧
    (∀ step ∈ hushedRun.stepsOf Rules.viewModelInjection, ∀ finding ∈ step.reported,
      finding.fix? = none ∨
      finding.node.isSuppressed Rules.viewModelInjection.ids = true ∨
        (Allowance.at? hushedCheck.lines finding.node.line
          Rules.viewModelInjection.ids).isSome = true) ∧
    ((hushedRun.stepsOf Rules.viewModelInjection).flatMap (·.reported)).map
      (fun finding => (finding.node.id, finding.fix?.isSome)) = [(30, true)] ∧
    hushedRun.rewrites.texts = [(46, "mutableLongStateOf")] ∧
    (∀ step ∈ hushedRun.stepsOf Rules.viewModelInjection,
      step.edits = [] ∧ step.after = step.before) := by
  have hrules : ∀ s ∈ boxedKeyRules, s.rule ∈ allRules := by simp [boxedKeyRules, allRules]
  have hrule : Rules.viewModelInjection ∈ allRules :=
    hrules ⟨Rules.viewModelInjection, .error⟩ (List.mem_cons_of_mem _ List.mem_cons_self)
  have hlicence : ∀ step ∈ hushedRun.stepsOf Rules.viewModelInjection,
      ∀ finding ∈ step.reported, finding.fix? = none ∨
        finding.node.isSuppressed Rules.viewModelInjection.ids = true ∨
          (Allowance.at? hushedCheck.lines finding.node.line
            Rules.viewModelInjection.ids).isSome = true := by
    decide +kernel
  refine ⟨hrules, hrule, hlicence, by decide +kernel, by decide +kernel, ?_⟩
  exact ((rewriting_needs_licence hushedTree hushedCheck hrules (fun _ => none) .empty).2
    Rules.viewModelInjection hrule hlicence).1

end ComposeCheck
