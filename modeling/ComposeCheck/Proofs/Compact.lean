import ComposeCheck.Proofs.ArrayOptions
import ComposeCheck.Proofs.Messages
import ComposeCheck.Proofs.Preparing
import ComposeCheck.Proofs.ProjectRuns
import ComposeCheck.Proofs.Visits

/-!
# One line for each violation

The compact form writes a line feed behind each violation, so there is one line for each if no
violation has a line feed in it. The name of a file may have one, and so may a message.
-/

namespace ComposeCheck

namespace Text

/-- The number of line feeds. -/
def breaks (text : String) : Nat := text.toList.count '\n'

theorem breaks_append (a b : String) : breaks (a ++ b) = breaks a + breaks b := by
  rw [breaks, String.toList_append, List.count_append]
  rfl

theorem breaks_eq_zero_iff {text : String} : breaks text = 0 ↔ OneLine text := List.count_eq_zero

theorem OneLine.breaks_eq {text : String} (h : OneLine text) : breaks text = 0 :=
  breaks_eq_zero_iff.2 h

end Text

open Text

namespace Display

variable {texts : List String} {v : Violation}

theorem toList_lines (texts : List String) :
    (lines texts).toList = texts.flatMap fun text => text.toList ++ ['\n'] := by
  simp [lines, String.toList_join, List.flatMap_map]

theorem breaks_lines (texts : List String) :
    breaks (lines texts) = (texts.map fun text => 1 + breaks text).sum := by
  rw [breaks, toList_lines, List.count_flatMap]
  refine congrArg List.sum (List.map_congr_left fun text _ => ?_)
  simp [breaks, Nat.add_comm]

theorem splitWhere_flatMap (h : ∀ text ∈ texts, OneLine text) :
    splitWhere (· == '\n') (texts.flatMap fun text => text.toList ++ ['\n']) =
      texts.map String.toList ++ [[]] := by
  induction texts with
  | nil => rfl
  | cons text texts ih =>
    obtain ⟨htext, htexts⟩ := List.forall_mem_cons.1 h
    rw [List.flatMap_cons, List.append_assoc, List.singleton_append,
      splitWhere_append_cons (beq_newline_eq_false htext) rfl, ih htexts]
    rfl

/-- The texts are the lines if and only if none of them goes over the end of a line. -/
theorem pieces_lines_iff :
    pieces (· == '\n') (lines texts) = texts ++ [""] ↔ ∀ text ∈ texts, OneLine text := by
  rw [pieces, toList_lines]
  constructor
  · intro h text htext
    have hmem : text ∈ texts ++ [""] := List.mem_append_left _ htext
    rw [← h] at hmem
    obtain ⟨piece, hpiece, rfl⟩ := List.mem_map.1 hmem
    intro hbreak
    rw [String.toList_ofList] at hbreak
    simpa using eq_false_of_mem_splitWhere hpiece _ hbreak
  · intro h
    rw [splitWhere_flatMap h]
    simp

theorem oneLine_word (severity : Severity) : OneLine severity.word := by
  cases severity <;> exact .ofList rfl

theorem breaks_compactLine (hcode : OneLine v.code) :
    breaks (compactLine v) = breaks v.location.file + breaks v.message := by
  simp only [compactLine, Location.text, breaks_append, toString, (oneLine_repr _).breaks_eq,
    (oneLine_word _).breaks_eq, hcode.breaks_eq]
  rfl

theorem oneLine_compactLine_iff (hcode : OneLine v.code) :
    OneLine (compactLine v) ↔ OneLine v.location.file ∧ OneLine v.message := by
  rw [← breaks_eq_zero_iff, breaks_compactLine hcode, Nat.add_eq_zero_iff, breaks_eq_zero_iff,
    breaks_eq_zero_iff]

theorem oneLine_display_iff (hcode : OneLine v.code) :
    OneLine v.display ↔ OneLine v.location.file ∧ OneLine v.message := by
  have hmark : OneLine (if v.fixable then " [*]" else "") := by
    split <;> exact .ofList rfl
  show OneLine (compactLine v ++ if v.fixable then " [*]" else "") ↔ _
  rw [oneLine_append, oneLine_compactLine_iff hcode, and_iff_left hmark]

end Display

/-! ### Where violations come from -/

/-- A violation tells what a rule has found in a file that was read. -/
structure Violation.Tells (v : Violation) (parser : Parser) (rule : Rule) (tree : SyntaxTree)
    (finding : Finding) : Prop where
  read : ∃ text, SyntaxTree.read? parser text = some tree
  found : ∃ visit ∈ visitsOf tree.rootNode, ∃ occasion backend memo,
    finding ∈ (rule.report visit occasion backend memo).1.findings
  code : v.code = rule.code
  message : v.message = finding.message
  location : v.location = .ofNode v.location.file finding.node

variable {checker : Checker} {parser : Parser} {path text : String} {report : FileReport}
  {v : Violation} {files : FileTree} {summary result : Summary} {paths : List String}

theorem Dispatch.visit_mem_of_mem_rules {file : CheckedFile} {mode : Mode} {visits : List Visit}
    {backend : Backend} {before : Rewrites} {list : List Scheduled} {memo : Memo} {step : Step}
    (h : step ∈ (rules file mode visits before list backend memo).1.1) : step.visit ∈ visits := by
  induction list generalizing before memo with
  | nil => exact absurd h List.not_mem_nil
  | cons s list ih =>
    rcases List.mem_append.1 h with h | h
    · exact (runs_steps file mode visits backend s before memo).visits ▸ List.mem_map_of_mem h
    · exact ih h

theorem Checker.read?_of_read {tree : SyntaxTree} (h : checker.read parser path text = .ok tree) :
    SyntaxTree.read? parser text = some tree := by
  rw [read] at h
  split at h
  · cases h
  case h_2 other hother =>
    split at h
    · cases h
    · cases h
      exact hother

theorem Checker.exists_finding (hrules : ∀ s ∈ checker.rules, s.rule ∈ allRules)
    (h : checker.check parser path text = .ok report) (hv : v ∈ report.violations) :
    ∃ rule ∈ allRules, ∃ tree finding, v.Tells parser rule tree finding := by
  obtain ⟨content, tree, mode, hread, heq⟩ := exists_run h
  rw [heq] at hv
  obtain ⟨step, hstep, hv⟩ := List.mem_flatMap.1 hv
  have hasked := Dispatch.isStep_of_mem_rules hstep
  obtain ⟨memo, -, hreported, -, -⟩ := hasked.exists_report
  rw [hasked.violations_eq] at hv
  obtain ⟨finding, hfinding, rfl⟩ := List.mem_map.1 hv
  have hfound := hreported ▸ (List.mem_filter.1 hfinding).1
  exact ⟨_, hrules _ hasked.mem, tree, finding, ⟨content, read?_of_read hread⟩,
    ⟨step.visit, Dispatch.visit_mem_of_mem_rules hstep, _, _, memo, hfound⟩, rfl, rfl, rfl⟩

namespace Project

theorem exists_report_of_mem_checkFiles
    (h : (checkFiles checker parser files summary paths).result = .ok result)
    (hv : v ∈ result.violations) : v ∈ summary.violations ∨ ∃ path ∈ paths, ∃ text report,
      checker.check parser path text = .ok report ∧ v ∈ report.violations := by
  induction paths generalizing files summary with
  | nil =>
    cases h
    exact .inl hv
  | cons path paths ih =>
    rw [checkFiles] at h
    split at h
    · cases h
    split at h
    · split at h
      · cases h
      · rcases ih h with hmem | ⟨path', hpath, hfound⟩
        · exact .inl hmem
        · exact .inr ⟨path', List.mem_cons_of_mem _ hpath, hfound⟩
    case h_2 text _ _ report hreport =>
      rcases ih h with hmem | ⟨path', hpath, hfound⟩
      · rcases List.mem_append.1 hmem with hmem | hmem
        · exact .inl hmem
        · exact .inr ⟨path, List.mem_cons_self, _, report, hreport, hmem⟩
      · exact .inr ⟨path', List.mem_cons_of_mem _ hpath, hfound⟩

/-- A result is that of the files one after the other, in another order. -/
theorem exists_perm_of_check (h : (check checker parser files).result = .ok result) :
    ∃ paths summary, sources checker files = .ok paths ∧
      (checkFiles checker parser files .empty paths).result = .ok summary ∧
      result.violations.Perm summary.violations := by
  rw [check] at h
  split at h
  · cases h
  case h_2 paths hpaths =>
    cases hrun : (checkFiles checker parser files .empty paths).result with
    | error e => simp [hrun, Except.map] at h
    | ok summary =>
      simp only [hrun, Except.map, Except.ok.injEq] at h
      subst h
      exact ⟨paths, summary, hpaths, hrun, List.mergeSort_perm _ _⟩

theorem exists_report_of_mem (h : (check checker parser files).result = .ok result)
    (hv : v ∈ result.violations) :
    ∃ paths, sources checker files = .ok paths ∧ ∃ path ∈ paths, ∃ text report,
      checker.check parser path text = .ok report ∧ v ∈ report.violations := by
  obtain ⟨paths, summary, hpaths, hrun, hperm⟩ := exists_perm_of_check h
  exact ⟨paths, hpaths,
    (exists_report_of_mem_checkFiles hrun (hperm.mem_iff.1 hv)).resolve_left List.not_mem_nil⟩

end Project

namespace Program

variable {here : Surroundings} {given? : Option String} {options : CheckOptions}

/-- The compact form of a check has a line feed for each violation and one for each that is in the
name of its file or in its message. Its lines are the violations, one by one, if and only if there
are no others, and then the one-line form of each violation is one. If names fit on a line, the only
messages that go on are the listings of parameters and, with the text of the type, the word on a
collection. -/
theorem check_compact (here : Surroundings) (parser : Parser) (given? : Option String)
    {options : CheckOptions} (hformat : options.format = .compact) :
    let shown := Program.check here parser given? options
    (shown.complaint?.isSome = true ∧ shown.output = "") ∨
    ∃ checker summary, prepare here given? options = .ok checker ∧
      (Project.check checker parser here.files).result = .ok summary ∧
      breaks shown.output = (summary.violations.map fun v =>
        1 + (breaks v.location.file + breaks v.message)).sum ∧
      (pieces (· == '\n') shown.output = summary.violations.map Display.compactLine ++ [""] ↔
        ∀ v ∈ summary.violations, OneLine v.location.file ∧ OneLine v.message) ∧
      ∀ v ∈ summary.violations,
        (OneLine v.display ↔ OneLine v.location.file ∧ OneLine v.message) ∧
        ∃ rule ∈ allRules, ∃ tree finding, v.Tells parser rule tree finding ∧
          (tree.rootNode.NamesFit → (¬ OneLine v.message ↔ Rules.BreaksLine rule finding)) := by
  intro shown
  have hshown : shown = Program.check here parser given? options := rfl
  unfold Program.check at hshown
  split at hshown
  · exact .inl (hshown ▸ ⟨rfl, rfl⟩)
  case h_2 checker hprepare =>
  dsimp only at hshown
  split at hshown
  case h_1 cause _ =>
    split at hshown
    · exact .inl (hshown ▸ ⟨rfl, rfl⟩)
    · exact .inl (hshown ▸ ⟨rfl, rfl⟩)
  case h_2 summary hresult =>
  have horigin : ∀ v ∈ summary.violations, ∃ rule ∈ allRules, ∃ tree finding,
      v.Tells parser rule tree finding := by
    intro v hv
    obtain ⟨-, -, path, -, text, report, hreport, hmem⟩ := Project.exists_report_of_mem hresult hv
    exact Checker.exists_finding (mem_allRules_of_prepare hprepare) hreport hmem
  have hcode : ∀ v ∈ summary.violations, OneLine v.code := by
    intro v hv
    obtain ⟨rule, hrule, tree, finding, htells⟩ := horigin v hv
    rw [htells.code]
    exact Rules.oneLine_code_of_mem_allRules rule hrule
  have houtput : shown.output = Display.lines (summary.violations.map Display.compactLine) := by
    rw [hshown, hformat]
    rfl
  refine .inr ⟨checker, summary, hprepare, hresult, ?_, ?_, fun v hv => ?_⟩
  · rw [houtput, Display.breaks_lines, List.map_map]
    refine congrArg List.sum (List.map_congr_left fun v hv => ?_)
    rw [Function.comp_apply, Display.breaks_compactLine (hcode v hv)]
  · rw [houtput, Display.pieces_lines_iff, List.forall_mem_map]
    exact forall₂_congr fun v hv => Display.oneLine_compactLine_iff (hcode v hv)
  · obtain ⟨rule, hrule, tree, finding, htells⟩ := horigin v hv
    refine ⟨Display.oneLine_display_iff (hcode v hv), rule, hrule, tree, finding, htells,
      fun hfit => ?_⟩
    obtain ⟨visit, hvisit, occasion, backend, memo, hfinding⟩ := htells.found
    rw [htells.message]
    exact Rules.breaks_of_mem_allRules hrule visit
      (hfit.of_mem (node_mem_of_mem_visitsOf hvisit)) occasion backend memo finding hfinding

/-- A parameter with a default before one without; their types have yet to be written. -/
def tangledFile : String := "@Composable\nfun F(a = b, c) \x7b\x7d"

def tangledParser : Parser := fun text =>
  if text = tangledFile then
    let named (kind : String) (start stop : Nat) (ts : List ParseTree) : ParseTree :=
      .node ⟨kind, true, false, start, stop⟩ ts
    let token (kind : String) (start : Nat) : ParseTree :=
      .node ⟨kind, false, false, start, start + kind.length⟩ []
    let letter (start : Nat) : ParseTree := named "identifier" start (start + 1) []
    let parameter (start : Nat) : ParseTree := named "parameter" start (start + 1) [letter start]
    let mark := named "annotation" 0 11
      [token "@" 0, named "user_type" 1 11 [named "identifier" 1 11 []]]
    let list := named "function_value_parameters" 17 27
      [token "(" 17, parameter 18, token "=" 20, letter 22, token "," 23, parameter 25,
        token ")" 26]
    let function := named "function_declaration" 0 30
      [named "modifiers" 0 11 [mark], token "fun" 12, letter 16, list,
        named "function_body" 28 30 [named "block" 28 30 [token "\x7b" 28, token "\x7d" 29]]]
    some ⟨named "source_file" 0 30 [function], true⟩
  else none

def tangledPlace : Surroundings where
  files := .directory [("A.kt", .file (.text tangledFile))]
  directory := "/"
  drawing := ⟨fun v _ => v.display, ""⟩

def tangledOptions : CheckOptions := { path := "A.kt", format := .compact, rules? := some "CL022" }

def tangledTree : SyntaxTree :=
  (SyntaxTree.read? tangledParser tangledFile).get (by decide +kernel)

/-- The codes of the violations. -/
def tangledCodes : Option (List String) := do
  let checker ← (prepare tangledPlace none tangledOptions).toOption
  let paths ← (Project.sources checker tangledPlace.files).toOption
  let run := Project.checkFiles checker tangledParser tangledPlace.files .empty paths
  return (← run.result.toOption).violations.map (·.code)

theorem namesFit_of_tangledParser {text : String} {tree : SyntaxTree}
    (h : SyntaxTree.read? tangledParser text = some tree) : tree.rootNode.NamesFit := by
  by_cases htext : text = tangledFile
  · subst htext
    have htree : tree = tangledTree := by simp [tangledTree, h]
    rw [htree]
    unfold Node.NamesFit
    decide +kernel
  · simp [SyntaxTree.read?, tangledParser, htext] at h

theorem check_compact_tangled :
    tangledOptions.format = .compact ∧
    ∃ checker summary v, prepare tangledPlace none tangledOptions = .ok checker ∧
      (Project.check checker tangledParser tangledPlace.files).result = .ok summary ∧
      summary.violations = [v] ∧ ¬ OneLine v.display ∧
      2 ≤ breaks (Program.check tangledPlace tangledParser none tangledOptions).output := by
  have hquiet : (Program.check tangledPlace tangledParser none tangledOptions).complaint?.isSome =
      false := by decide +kernel
  have hcodes : tangledCodes = some ["CL022"] := by decide +kernel
  have hformat : tangledOptions.format = .compact := rfl
  rcases check_compact tangledPlace tangledParser none hformat with ⟨hloud, -⟩ |
    ⟨checker, summary, hprepare, hresult, hbreaks, -, hdisplay⟩
  · rw [hquiet] at hloud
    cases hloud
  obtain ⟨paths, found, hpaths, hrun, hperm⟩ := Project.exists_perm_of_check hresult
  have hfound : found.violations.map (·.code) = ["CL022"] := by
    simpa [tangledCodes, hprepare, hpaths, hrun, Except.toOption] using hcodes
  obtain ⟨v, hv, hcode⟩ := List.map_eq_singleton_iff.1 hfound
  have hviolations : summary.violations = [v] := List.perm_singleton.1 (hv ▸ hperm)
  obtain ⟨hline, rule, -, tree, finding, htells, hmessage⟩ :=
    hdisplay v (hviolations ▸ List.mem_cons_self)
  obtain ⟨text, hread⟩ := htells.read
  have hbreak : ¬ OneLine v.message :=
    (hmessage (namesFit_of_tangledParser hread)).2 (.inl (htells.code ▸ hcode))
  refine ⟨hformat, checker, summary, v, hprepare, hresult, hviolations,
    fun h => hbreak (hline.1 h).2, ?_⟩
  have hcount := mt breaks_eq_zero_iff.1 hbreak
  rw [hbreaks, hviolations, List.map_singleton, List.sum_singleton]
  omega

end Program

end ComposeCheck
