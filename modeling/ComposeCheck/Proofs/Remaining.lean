import ComposeCheck.Checker
import ComposeCheck.Proofs.Independence

/-!
# What is left after fixing

A rule can look at what has been rewritten, and it is told what becomes of its findings; but of the
rules there are, none lets this show in what it finds or in what it asks (`Rule.Independent`). So a
run finds the same whether it fixes or not, however much has been rewritten on the way
(`Dispatch.Alike`). What a checker tells of a file that it has fixed is what it would tell of the
fixed text if it only reported.
-/

namespace ComposeCheck

namespace Dispatch

variable {file : CheckedFile} (mode mode' : Mode) (backend : Backend) {s : Scheduled}

/-- Two rows of steps tell the same violations, have learnt the same options and fail alike. -/
structure Alike (file : CheckedFile) (first second : (List Step × Rewrites) × Memo) : Prop where
  memo_eq : first.2 = second.2
  violations_eq : first.1.1.flatMap (·.violations file) = second.1.1.flatMap (·.violations file)
  overflowed_eq : first.1.1.any (·.overflowed) = second.1.1.any (·.overflowed)

variable {memo memo' : Memo}

theorem alike_nil (before before' : Rewrites) (hmemo : memo = memo') :
    Alike file (([], before), memo) (([], before'), memo') :=
  ⟨hmemo, rfl, rfl⟩

theorem Alike.append {first others first' others' : List Step}
    {between after between' after' : Rewrites} {kept kept' : Memo}
    (h₁ : Alike file ((first, between), kept) ((first', between'), kept'))
    (h₂ : Alike file ((others, after), memo) ((others', after'), memo')) :
    Alike file ((first ++ others, after), memo) ((first' ++ others', after'), memo') := by
  refine ⟨h₂.memo_eq, ?_, ?_⟩
  · rw [List.flatMap_append, List.flatMap_append, h₁.violations_eq, h₂.violations_eq]
  · rw [List.any_append, List.any_append, h₁.overflowed_eq, h₂.overflowed_eq]

theorem violations_step (before : Rewrites) (visit : Visit) (memo : Memo) :
    (step file mode s before visit backend memo).1.violations file =
      ((s.rule.report visit ⟨before, s.outcome file mode⟩ backend memo).1.findings.filter
        fun finding => !s.isSilenced file finding.node).map (s.violation file) :=
  Step.violations_of_findings _ rfl

theorem alike_step (hrule : s.rule.Independent) (before before' : Rewrites) (visit : Visit)
    (hmemo : memo = memo') :
    let first := step file mode s before visit backend memo
    let second := step file mode' s before' visit backend memo'
    Alike file (([first.1], first.1.after), first.2) (([second.1], second.1.after), second.2) := by
  intro first second
  subst hmemo
  let occasion : Occasion := ⟨before, s.outcome file mode⟩
  let occasion' : Occasion := ⟨before', s.outcome file mode'⟩
  refine ⟨hrule.memo_eq visit occasion occasion' backend memo, ?_, ?_⟩
  · rw [List.flatMap_singleton, List.flatMap_singleton, violations_step, violations_step,
      hrule.findings_eq visit occasion occasion' backend memo]
  · have hfails : first.1.overflowed = second.1.overflowed :=
      hrule.overflowed_eq visit occasion occasion' backend memo
    simp only [List.any_cons, List.any_nil, hfails]

/-- The later visits start with what the first has learnt, which is the same in both rows. -/
theorem alike_steps (hrule : s.rule.Independent) (before before' : Rewrites) (visits : List Visit)
    (hmemo : memo = memo') :
    Alike file (steps file mode s before visits backend memo)
      (steps file mode' s before' visits backend memo') := by
  induction visits generalizing before before' memo memo' with
  | nil => exact alike_nil before before' hmemo
  | cons visit visits ih =>
    have hfirst : Alike file _ _ :=
      alike_step mode mode' backend hrule before before' visit hmemo
    exact hfirst.append (ih _ _ hfirst.memo_eq)

theorem alike_rules {list : List Scheduled} (hrules : ∀ s ∈ list, s.rule.Independent)
    (before before' : Rewrites) (visits : List Visit) (hmemo : memo = memo') :
    Alike file (rules file mode visits before list backend memo)
      (rules file mode' visits before' list backend memo') := by
  induction list generalizing before before' memo memo' with
  | nil => exact alike_nil before before' hmemo
  | cons s list ih =>
    obtain ⟨hrule, hothers⟩ := List.forall_mem_cons.1 hrules
    have hfirst : Alike file _ _ :=
      alike_steps mode mode' backend hrule before before' visits hmemo
    exact hfirst.append (ih hothers _ _ hfirst.memo_eq)

end Dispatch

/-- A run that fixes finds what a run finds that only reports, and fails where it does. -/
theorem dispatch_eq_of_modes (tree : SyntaxTree) (file : CheckedFile) {rules : List Scheduled}
    (hrules : ∀ s ∈ rules, s.rule ∈ allRules) (mode mode' : Mode) (backend : Backend)
    (memo : Memo) :
    (dispatch tree file rules mode backend memo).1.violations file =
      (dispatch tree file rules mode' backend memo).1.violations file ∧
    (dispatch tree file rules mode backend memo).1.overflowed =
      (dispatch tree file rules mode' backend memo).1.overflowed := by
  have halike : Dispatch.Alike file _ _ := Dispatch.alike_rules mode mode' backend
    (fun s hs => independent_of_mem_allRules (hrules s hs)) .none .none (visitsOf tree.rootNode)
    (Eq.refl memo)
  exact ⟨halike.violations_eq, halike.overflowed_eq⟩

namespace Checker

variable {checker : Checker} {parser : Parser} {path text : String} {tree : SyntaxTree} {mode : Mode}
  {run : Run} {report : FileReport}

theorem runOn_eq_ok_iff : checker.runOn path text tree mode = .ok run ↔
    checker.run (.of checker.root path text) tree mode = run ∧ run.overflowed = false := by
  rw [runOn]
  split
  case isTrue h =>
    refine iff_of_false nofun ?_
    rintro ⟨rfl, hrun⟩
    exact Bool.false_ne_true (hrun.symm.trans h)
  case isFalse h =>
    rw [Except.ok.injEq]
    refine (and_iff_left_of_imp ?_).symm
    rintro rfl
    exact Bool.eq_false_iff.2 h

/-- A checker that only reports. -/
theorem check_of_report (checker : Checker) (h : checker.mode = .report)
    (hread : checker.read parser path text = .ok tree)
    (hrun : checker.runOn path text tree .report = .ok run) :
    checker.check parser path text =
      .ok ⟨run.violations (.of checker.root path text), none⟩ := by
  simp [check, hread, h, hrun, bind, Except.bind, pure, Except.pure]

/-- A checker that fixes: either nothing has been rewritten, or the fixed text is checked. -/
theorem check_of_fix (h : checker.mode = .fix)
    (hreport : checker.check parser path text = .ok report) :
    (∃ tree run, checker.read parser path text = .ok tree ∧
      checker.runOn path text tree .fix = .ok run ∧
      report = ⟨run.violations (.of checker.root path text), none⟩) ∨
    ∃ fixed tree run, checker.read parser path fixed = .ok tree ∧
      checker.runOn path fixed tree .report = .ok run ∧
      report = ⟨run.violations (.of checker.root path fixed), some fixed⟩ := by
  rw [check, h] at hreport
  cases hread : checker.read parser path text with
  | error e => simp [hread, bind, Except.bind] at hreport
  | ok tree =>
  cases hrun : checker.runOn path text tree .fix with
  | error e => simp [hread, hrun, bind, Except.bind] at hreport
  | ok first =>
  simp only [hread, hrun, bind, Except.bind] at hreport
  split at hreport
  case isFalse =>
    cases hreport
    exact .inl ⟨tree, first, rfl, hrun, rfl⟩
  case isTrue =>
    cases hread' : checker.read parser path (tree.render first.rewrites) with
    | error e => simp [hread'] at hreport
    | ok fixedTree =>
    cases hrun' : checker.runOn path (tree.render first.rewrites) fixedTree .report with
    | error e => simp [hread', hrun'] at hreport
    | ok second =>
    simp only [hread', hrun', pure, Except.pure] at hreport
    cases hreport
    exact .inr ⟨_, fixedTree, second, hread', hrun', rfl⟩

/-- What a checker tells of a file that it fixes is what is left: it would tell the same of the new
text, or of the old one if nothing was rewritten, if it only reported. -/
theorem fixing_reports_what_is_left (parser : Parser)
    (hrules : ∀ s ∈ checker.rules, s.rule ∈ allRules) :
    (∀ tree file backend memo,
      (dispatch tree file checker.rules .fix backend memo).1.violations file =
        (dispatch tree file checker.rules .report backend memo).1.violations file) ∧
    ∀ path text report, checker.mode = .fix → checker.check parser path text = .ok report →
      { checker with mode := .report }.check parser path (report.fixed?.getD text) =
        .ok ⟨report.violations, none⟩ := by
  have hmodes := fun tree file => dispatch_eq_of_modes tree file hrules .fix .report
  refine ⟨fun tree file backend memo => (hmodes tree file backend memo).1,
    fun path text report hfix hreport => ?_⟩
  rcases check_of_fix hfix hreport with ⟨tree, run, hread, hrun, rfl⟩ |
    ⟨fixed, tree, run, hread, hrun, rfl⟩
  · obtain ⟨rfl, hfine⟩ := runOn_eq_ok_iff.1 hrun
    -- The rules have looked at a rewritten tree; without the rewrites they tell the same.
    obtain ⟨hviolations, hoverflowed⟩ := hmodes tree (.of checker.root path text)
      checker.options.resolve Memo.empty
    rw [Option.getD_none]
    refine (check_of_report { checker with mode := .report } rfl hread
      (runOn_eq_ok_iff.2 ⟨rfl, ?_⟩)).trans ?_
    · exact hoverflowed.symm.trans hfine
    · exact congrArg (fun violations => Except.ok (FileReport.mk violations none))
        hviolations.symm
  · exact check_of_report { checker with mode := .report } rfl hread hrun

end Checker

/-! ## A fixed file with something left -/

/-- A composable that keeps a number in a state made by this factory. -/
def tallyFile (factory : String) : String :=
  "@Composable\nfun A() \x7b\n    val n = " ++ factory ++ "(3L)\n\x7d\n"

/-- The tree of that file, by the length of the factory's name. -/
def tallyRoot (length : Nat) : ParseTree :=
  let named (kind : String) (start stop : Nat) (ts : List ParseTree) : ParseTree :=
    .node ⟨kind, true, false, start, stop⟩ ts
  let token (kind : String) (start stop : Nat) : ParseTree :=
    .node ⟨kind, false, false, start, stop⟩ []
  let name (start stop : Nat) : ParseTree := named "identifier" start stop []
  let paren := 34 + length
  let call := named "call_expression" 34 (paren + 4) [name 34 paren,
    named "value_arguments" paren (paren + 4) [token "(" paren (paren + 1),
      named "value_argument" (paren + 1) (paren + 3)
        [named "number_literal" (paren + 1) (paren + 3) []],
      token ")" (paren + 3) (paren + 4)]]
  let property := named "property_declaration" 26 (paren + 4) [token "val" 26 29,
    named "variable_declaration" 30 31 [name 30 31], token "=" 32 33, call]
  let body := named "function_body" 20 (paren + 6) [named "block" 20 (paren + 6)
    [token "\x7b" 20 21, property, token "\x7d" (paren + 5) (paren + 6)]]
  let modifiers := named "modifiers" 0 11
    [named "annotation" 0 11 [token "@" 0 1, named "user_type" 1 11 [name 1 11]]]
  named "source_file" 0 (paren + 7) [named "function_declaration" 0 (paren + 6)
    [modifiers, token "fun" 12 15, name 16 17,
      named "function_value_parameters" 17 19 [token "(" 17 18, token ")" 18 19], body]]

def tallyParser : Parser := fun text =>
  ["mutableStateOf", "mutableLongStateOf"].findSome? fun factory =>
    if text = tallyFile factory then some ⟨tallyRoot factory.length, false⟩ else none

def tallyChecker : Checker where
  root := ""
  rules := [⟨Rules.mutableStateAutoboxing, .error⟩, ⟨Rules.rememberMissing, .warning⟩]
  exclude := []
  respectGitIgnore := true
  options := ⟨[]⟩
  mode := .fix
  strict := true

/-- The state gets its own factory; that it is not remembered is left. -/
theorem Checker.fixing_reports_what_is_left_tally :
    tallyChecker.mode = .fix ∧ (∀ s ∈ tallyChecker.rules, s.rule ∈ allRules) ∧
    ∃ report,
      tallyChecker.check tallyParser "A.kt" (tallyFile "mutableStateOf") = .ok report ∧
      report.fixed? = some (tallyFile "mutableLongStateOf") ∧
      report.violations.map (·.code) = ["CL024"] ∧
      { tallyChecker with mode := .report }.check tallyParser "A.kt"
        (tallyFile "mutableLongStateOf") = .ok ⟨report.violations, none⟩ := by
  have hchecked : (tallyChecker.check tallyParser "A.kt" (tallyFile "mutableStateOf")).toOption.map
      (fun report => (report.fixed?, report.violations.map (·.code))) =
        some (some (tallyFile "mutableLongStateOf"), ["CL024"]) := by
    decide +kernel
  obtain ⟨report, hreport, hparts⟩ := Option.map_eq_some_iff.mp hchecked
  obtain ⟨hfixed, hcodes⟩ := Prod.mk.inj hparts
  have hreport :
      tallyChecker.check tallyParser "A.kt" (tallyFile "mutableStateOf") = .ok report := by
    cases hcheck : tallyChecker.check tallyParser "A.kt" (tallyFile "mutableStateOf") with
    | error e => simp [hcheck, Except.toOption] at hreport
    | ok found => simpa [hcheck, Except.toOption] using hreport
  have hrules : ∀ s ∈ tallyChecker.rules, s.rule ∈ allRules := by simp [tallyChecker, allRules]
  have hleft := (Checker.fixing_reports_what_is_left tallyParser hrules).2 "A.kt"
    (tallyFile "mutableStateOf") report rfl hreport
  rw [hfixed, Option.getD_some] at hleft
  exact ⟨rfl, hrules, report, hreport, hfixed, hcodes, hleft⟩

end ComposeCheck
