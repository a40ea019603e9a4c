import ComposeCheck.Proofs.Licence
import ComposeCheck.Proofs.Remaining
import ComposeCheck.Proofs.Sources

/-!
# Runs over a project

What a run tells of a file is what it would tell if the file stood alone, for what has been written
before is in other files. So a run can be described by looking at each file as it was at the start
(`checkFiles_cases`): the first file that cannot be passed ends the run (`failureAt?`), and each
file before that has been given its fixed text, if it has one (`fixing`).
-/

namespace ComposeCheck

/-! ### The order of rules -/

namespace Dispatch

variable {file : CheckedFile} {mode : Mode} {backend : Backend} {memo : Memo} {v : Violation}
  {list : List Scheduled} {visits : List Visit} {before : Rewrites}

theorem of_mem_violations
    (h : v ∈ (rules file mode visits before list backend memo).1.1.flatMap (·.violations file)) :
    v.code ∈ list.map (·.rule.code) ∧ v.location.file = file.name := by
  obtain ⟨step, hstep, hv⟩ := List.mem_flatMap.1 h
  have hcode := step.code_of_mem hv
  obtain ⟨_, -, rfl⟩ := List.mem_map.1 hv
  exact ⟨List.mem_map.2 ⟨_, (isStep_of_mem_rules hstep).mem, rfl⟩, rfl⟩

theorem code_of_mem_steps {s : Scheduled}
    (h : v ∈ (steps file mode s before visits backend memo).1.1.flatMap (·.violations file)) :
    v.code = s.rule.code := by
  obtain ⟨step, hstep, hv⟩ := List.mem_flatMap.1 h
  rw [step.code_of_mem hv, List.mem_singleton.1 (isStep_of_mem_steps hstep).mem]

/-- Rules are asked one after the other, so violations stand in the order of their rules. -/
theorem pairwise_rules {R : String → String → Prop} (hrefl : ∀ code, R code code)
    (h : (list.map (·.rule.code)).Pairwise R) (visits : List Visit) (before : Rewrites)
    (memo : Memo) :
    ((rules file mode visits before list backend memo).1.1.flatMap (·.violations file)).Pairwise
      fun v w => R v.code w.code := by
  induction list generalizing before memo with
  | nil => exact List.Pairwise.nil
  | cons s list ih =>
    obtain ⟨hs, hlist⟩ := List.pairwise_cons.1 h
    let first := steps file mode s before visits backend memo
    let rest := rules file mode visits first.1.2 list backend first.2
    show ((first.1.1 ++ rest.1.1).flatMap (·.violations file)).Pairwise _
    rw [List.flatMap_append, List.pairwise_append]
    refine ⟨?_, ih hlist _ _, ?_⟩
    · refine List.pairwise_of_forall_mem_list fun v hv w hw => ?_
      rw [code_of_mem_steps hv, code_of_mem_steps hw]
      exact hrefl _
    · intro v hv w hw
      rw [code_of_mem_steps hv]
      exact hs _ (of_mem_violations hw).1

end Dispatch

namespace Checker

variable {checker : Checker} {parser : Parser} {path text : String} {report : FileReport}
  {v : Violation}

/-- Where the rule of a violation stands among the rules of a checker. -/
def rank (checker : Checker) (v : Violation) : Nat :=
  (checker.rules.map (·.rule.code)).idxOf v.code

theorem exists_tree_of_report (hmode : checker.mode = .report)
    (h : checker.check parser path text = .ok report) : ∃ tree,
      checker.read parser path text = .ok tree ∧
      let file := CheckedFile.of checker.root path text
      report = ⟨(checker.run file tree .report).violations file, none⟩ := by
  rw [check, hmode] at h
  cases hread : checker.read parser path text with
  | error e => simp [hread, bind, Except.bind] at h
  | ok tree =>
  cases hrun : checker.runOn path text tree .report with
  | error e => simp [hread, hrun, bind, Except.bind] at h
  | ok run =>
  obtain ⟨rfl, -⟩ := runOn_eq_ok_iff.1 hrun
  simp only [hread, hrun, bind, Except.bind] at h
  exact ⟨tree, rfl, (Except.ok.inj h).symm⟩

/-- What is told of a file is what a run over a text of it has found. -/
theorem exists_run (h : checker.check parser path text = .ok report) : ∃ content tree mode,
    checker.read parser path content = .ok tree ∧
    let file := CheckedFile.of checker.root path content
    report.violations = (checker.run file tree mode).violations file := by
  cases hmode : checker.mode with
  | report =>
    obtain ⟨tree, hread, rfl⟩ := exists_tree_of_report hmode h
    exact ⟨text, tree, .report, hread, rfl⟩
  | fix =>
    rcases check_of_fix hmode h with ⟨tree, run, hread, hrun, rfl⟩ |
      ⟨fixed, tree, run, hread, hrun, rfl⟩
    · obtain ⟨rfl, -⟩ := runOn_eq_ok_iff.1 hrun
      exact ⟨text, tree, .fix, hread, rfl⟩
    · obtain ⟨rfl, -⟩ := runOn_eq_ok_iff.1 hrun
      exact ⟨fixed, tree, .report, hread, rfl⟩

theorem file_of_mem_violations (h : checker.check parser path text = .ok report)
    (hv : v ∈ report.violations) : v.location.file = FilePath.relativeTo checker.root path := by
  obtain ⟨content, tree, mode, -, heq⟩ := exists_run h
  rw [heq] at hv
  exact (Dispatch.of_mem_violations hv).2

theorem pairwise_rank (hcodes : (checker.rules.map (·.rule.code)).Nodup)
    (h : checker.check parser path text = .ok report) :
    report.violations.Pairwise fun v w => checker.rank v ≤ checker.rank w := by
  obtain ⟨content, tree, mode, -, heq⟩ := exists_run h
  let codes := checker.rules.map (·.rule.code)
  have hpairwise : codes.Pairwise fun a b => codes.idxOf a ≤ codes.idxOf b := by
    refine List.pairwise_iff_getElem.2 fun i j hi hj hij => ?_
    rw [hcodes.idxOf_getElem, hcodes.idxOf_getElem]
    exact Nat.le_of_lt hij
  rw [heq]
  exact Dispatch.pairwise_rules (fun _ => Nat.le_refl _) hpairwise _ _ _

end Checker

/-- What is told under the name of one file. -/
def Summary.ofFile (summary : Summary) (name : String) : List Violation :=
  summary.violations.filter fun v => v.location.file = name

namespace Project

/-! ### Files alone -/

section
variable (checker : Checker) (parser : Parser) (files : FileTree)

/-- What a checker tells of the file at a path, if it can be read and checked. -/
def reportAt? (path : String) : Option FileReport :=
  ((files.contentAt? path).bind Content.text?).bind fun text =>
    (checker.check parser path text).toOption

def violationsAt (path : String) : List Violation :=
  ((reportAt? checker parser files path).map (·.violations)).getD []

def fixedAt? (path : String) : Option String :=
  (reportAt? checker parser files path).bind (·.fixed?)

/-- Why a run cannot pass the file at a path: it does not hold text, a rule fails on it, or the
checker is strict and has found syntax errors in the file or in what becomes of it. -/
def failureAt? (path : String) : Option ProjectError :=
  match (files.contentAt? path).bind Content.text? with
  | none => some (.unreadable path)
  | some text =>
    match checker.check parser path text with
    | .error e => if checker.strict || e.isFatal then some (.fileError e) else none
    | .ok _ => none

/-- What the files at some paths give together, each looked at alone. -/
def tally (paths : List String) : Summary :=
  ⟨paths.flatMap (violationsAt checker parser files),
    paths.countP fun path => (reportAt? checker parser files path).isSome,
    paths.countP fun path => (fixedAt? checker parser files path).isSome⟩

/-- Gives the files at some paths their fixed texts, and leaves all other contents as they are. -/
def fixing (paths : List String) : List String → Content → Content := fun names content =>
  match paths.find? fun path => (files.locate? path).map (·.1) = some names with
  | some path => ((fixedAt? checker parser files path).map .text).getD content
  | none => content

end

section
variable {checker : Checker} {parser : Parser} {files : FileTree} {paths done later : List String}
  {path : String} {names : List String} {tree : FileTree} {content : Content} {summary : Summary}
  {report : FileReport}

theorem fixing_of_not_located (h : ∀ path ∈ paths, (files.locate? path).map (·.1) ≠ some names)
    (content : Content) : fixing checker parser files paths names content = content := by
  have hnone : (paths.find? fun path => (files.locate? path).map (·.1) = some names) = none :=
    List.find?_eq_none.2 fun path hpath => by simpa using h path hpath
  rw [fixing, hnone]

theorem fixing_concat (h : files.locate? path = some (names, tree))
    (hnew : ∀ p ∈ done, (files.locate? p).map (·.1) ≠ some names) :
    fixing checker parser files (done ++ [path]) = fun others content =>
      if others = names then ((fixedAt? checker parser files path).map .text).getD content
      else fixing checker parser files done others content := by
  funext others content
  have hpath : (files.locate? path).map (·.1) = some names := by rw [h, Option.map_some]
  rw [fixing, List.find?_append]
  by_cases heq : others = names
  · subst heq
    have hnone : (done.find? fun p => (files.locate? p).map (·.1) = some others) = none :=
      List.find?_eq_none.2 fun p hp => by simpa using hnew p hp
    simp [hnone, hpath]
  · have hother : ¬some names = some others := fun hsome => heq (Option.some.inj hsome).symm
    simp [hpath, hother, heq, fixing]

theorem Sources.not_located (hsources : Sources checker files (done ++ path :: later))
    (h : files.locate? path = some (names, tree)) :
    ∀ p ∈ done, (files.locate? p).map (·.1) ≠ some names := by
  intro p hp hsame
  have hpath : (files.locate? path).map (·.1) = some names := by rw [h, Option.map_some]
  have heq : p = path := hsources.eq_of_names p (List.mem_append_left _ hp) path
    (List.mem_append_right _ List.mem_cons_self) (hsame.trans hpath.symm)
  exact (List.nodup_append.1 hsources.nodup).2.2 p hp path List.mem_cons_self heq

theorem mapFiles_fixing_concat (hproper : files.Proper)
    (hsources : Sources checker files (done ++ path :: later)) :
    files.mapFiles (fixing checker parser files (done ++ [path])) =
      match fixedAt? checker parser files path with
      | some fixed => (files.mapFiles (fixing checker parser files done)).overwrite path fixed
      | none => files.mapFiles (fixing checker parser files done) := by
  obtain ⟨names, content, hlocate⟩ := hsources.located path (by simp)
  have hnew := hsources.not_located hlocate
  rw [fixing_concat hlocate hnew]
  cases fixedAt? checker parser files path with
  | none =>
    refine congrArg (FileTree.mapFiles · files) (funext fun others => funext fun found => ?_)
    split
    case isTrue heq =>
      subst heq
      exact (fixing_of_not_located hnew found).symm
    case isFalse => rfl
  | some fixed =>
    have hplace : (files.mapFiles (fixing checker parser files done)).locate? path =
        some (names, .file content) := by
      simp only [FileTree.locate?_mapFiles, hlocate, Option.map_some, FileTree.mapFiles,
        List.append_nil, fixing_of_not_located hnew]
    dsimp only
    rw [FileTree.overwrite_eq (hproper.mapFiles _) hplace, FileTree.mapFiles_mapFiles]
    rfl

theorem contentAt?_fixing (hsources : Sources checker files paths) (hdone : ∀ p ∈ done, p ∈ paths)
    (hpath : path ∈ paths) :
    (files.mapFiles (fixing checker parser files done)).contentAt? path =
      if path ∈ done then
        ((fixedAt? checker parser files path).map .text).or (files.contentAt? path)
      else files.contentAt? path := by
  obtain ⟨names, content, hlocate⟩ := hsources.located path hpath
  obtain ⟨hbefore, hafter⟩ : files.contentAt? path = some content ∧
      (files.mapFiles (fixing checker parser files done)).contentAt? path =
        some (fixing checker parser files done names content) :=
    FileTree.contentAt?_mapFiles hlocate
  have hnames : (files.locate? path).map (·.1) = some names := by rw [hlocate, Option.map_some]
  have hsame : ∀ p ∈ done, (files.locate? p).map (·.1) = some names → p = path := fun p hp h =>
    hsources.eq_of_names p (hdone p hp) path hpath (h.trans hnames.symm)
  rw [hbefore, hafter]
  split
  case isTrue hmem =>
    have hfind : (done.find? fun p => (files.locate? p).map (·.1) = some names) = some path := by
      cases hfound : done.find? fun p => (files.locate? p).map (·.1) = some names with
      | none => exact absurd hnames (by simpa using List.find?_eq_none.1 hfound path hmem)
      | some p =>
        rw [hsame p (List.mem_of_find?_eq_some hfound) (by simpa using List.find?_some hfound)]
    rw [fixing, hfind]
    dsimp only
    cases fixedAt? checker parser files path <;> rfl
  case isFalse hmem =>
    have hnew : ∀ p ∈ done, (files.locate? p).map (·.1) ≠ some names := fun p hp h =>
      hmem (hsame p hp h ▸ hp)
    rw [fixing_of_not_located hnew]

/-! ### The run -/

theorem append_tally_cons (summary : Summary) (path : String) (later : List String) :
    (summary.append (tally checker parser files [path])).append
      (tally checker parser files later) =
    summary.append (tally checker parser files (path :: later)) := by
  simp only [Summary.append, tally, List.flatMap_cons, List.flatMap_nil, List.append_nil,
    List.append_assoc, List.countP_cons, List.countP_nil, Nat.zero_add, Nat.add_assoc,
    Nat.add_comm]

/-- One step of a run, if the next file is still as it was at the start. -/
theorem checkFiles_cons {current : FileTree} (h : current.contentAt? path = files.contentAt? path)
    (summary : Summary) (later : List String) :
    checkFiles checker parser current summary (path :: later) =
      match failureAt? checker parser files path with
      | some e => ⟨current, .error e⟩
      | none =>
        let next := match fixedAt? checker parser files path with
          | some fixed => current.overwrite path fixed
          | none => current
        checkFiles checker parser next (summary.append (tally checker parser files [path]))
          later := by
  rw [checkFiles, h]
  cases htext : (files.contentAt? path).bind Content.text? with
  | none => simp [failureAt?, htext]
  | some text =>
    cases hcheck : checker.check parser path text with
    | error e =>
      have hreport : reportAt? checker parser files path = none := by
        simp [reportAt?, htext, hcheck, Except.toOption]
      by_cases hends : (checker.strict || e.isFatal) = true
      · simp only [failureAt?, htext, hcheck, if_pos hends]
      · have hskipped : summary.append (tally checker parser files [path]) = summary := by
          simp [tally, violationsAt, fixedAt?, hreport, Summary.append]
        simp only [failureAt?, fixedAt?, htext, hcheck, if_neg hends, hreport, hskipped,
          Option.bind_none]
    | ok report =>
      have hreport : reportAt? checker parser files path = some report := by
        simp [reportAt?, htext, hcheck, Except.toOption]
      cases hfixed : report.fixed? <;>
        simp [failureAt?, tally, violationsAt, fixedAt?, htext, hcheck, hreport, hfixed]

/-- A run passes all files, or all before one that it cannot pass. -/
theorem checkFiles_cases (parser : Parser) (hproper : files.Proper)
    (hsources : Sources checker files (done ++ paths)) (summary : Summary) :
    let run := checkFiles checker parser (files.mapFiles (fixing checker parser files done)) summary
      paths
    ((∀ p ∈ paths, failureAt? checker parser files p = none) ∧
      run = ⟨files.mapFiles (fixing checker parser files (done ++ paths)),
        .ok (summary.append (tally checker parser files paths))⟩) ∨
    ∃ passed path later e, paths = passed ++ path :: later ∧
      (∀ p ∈ passed, failureAt? checker parser files p = none) ∧
      failureAt? checker parser files path = some e ∧
      run = ⟨files.mapFiles (fixing checker parser files (done ++ passed)), .error e⟩ := by
  induction paths generalizing done summary with
  | nil =>
    refine .inl ⟨by simp, ?_⟩
    simp [checkFiles, Summary.append, tally]
  | cons path later ih =>
    -- What has been written went to other files, so the next one is as it was.
    have hcontent : (files.mapFiles (fixing checker parser files done)).contentAt? path =
        files.contentAt? path := by
      have hnew : path ∉ done := fun hmem =>
        (List.nodup_append.1 hsources.nodup).2.2 path hmem path List.mem_cons_self rfl
      rw [contentAt?_fixing hsources (fun p => List.mem_append_left _)
        (List.mem_append_right _ List.mem_cons_self), if_neg hnew]
    rw [checkFiles_cons hcontent]
    cases hfailure : failureAt? checker parser files path with
    | some e => exact .inr ⟨[], path, later, e, rfl, by simp, hfailure, by simp⟩
    | none =>
      have hconcat : done ++ [path] ++ later = done ++ path :: later := by simp
      have hstep := ih (hconcat.symm ▸ hsources)
        (summary.append (tally checker parser files [path]))
      rw [mapFiles_fixing_concat hproper hsources] at hstep
      rcases hstep with ⟨hpass, hrun⟩ | ⟨passed, p, rest, e, rfl, hpass, hend, hrun⟩
      · rw [append_tally_cons, hconcat] at hrun
        exact .inl ⟨List.forall_mem_cons.2 ⟨hfailure, hpass⟩, hrun⟩
      · refine .inr ⟨path :: passed, p, rest, e, rfl, List.forall_mem_cons.2 ⟨hfailure, hpass⟩,
          hend, ?_⟩
        rw [List.append_assoc] at hrun
        exact hrun

/-! ### What a report holds of a file -/

theorem exists_text (h : reportAt? checker parser files path = some report) :
    ∃ text, checker.check parser path text = .ok report := by
  obtain ⟨text, -, hreport⟩ := Option.bind_eq_some_iff.1 h
  cases hcheck : checker.check parser path text with
  | error e => simp [hcheck, Except.toOption] at hreport
  | ok found =>
    obtain rfl : found = report := by simpa [hcheck, Except.toOption] using hreport
    exact ⟨text, hcheck⟩

theorem violationsAt_cases (checker : Checker) (parser : Parser) (files : FileTree)
    (path : String) : violationsAt checker parser files path = [] ∨
      ∃ text report, checker.check parser path text = .ok report ∧
        violationsAt checker parser files path = report.violations := by
  rw [violationsAt]
  cases hreport : reportAt? checker parser files path with
  | none => exact .inl rfl
  | some report =>
    obtain ⟨text, hcheck⟩ := exists_text hreport
    exact .inr ⟨text, report, hcheck, rfl⟩

theorem file_of_mem_violationsAt {v : Violation}
    (hv : v ∈ violationsAt checker parser files path) :
    v.location.file = FilePath.relativeTo checker.root path := by
  rcases violationsAt_cases checker parser files path with hnil | ⟨text, report, hcheck, heq⟩
  · simp [hnil] at hv
  · exact Checker.file_of_mem_violations hcheck (heq ▸ hv)

theorem pairwise_violationsAt (hcodes : (checker.rules.map (·.rule.code)).Nodup) (path : String) :
    (violationsAt checker parser files path).Pairwise
      fun v w => checker.rank v ≤ checker.rank w := by
  rcases violationsAt_cases checker parser files path with hnil | ⟨text, report, hcheck, heq⟩
  · rw [hnil]
    exact List.Pairwise.nil
  · rw [heq]
    exact Checker.pairwise_rank hcodes hcheck

theorem violationsAt_congr {others : FileTree}
    (h : others.contentAt? path = files.contentAt? path) :
    violationsAt checker parser others path = violationsAt checker parser files path := by
  rw [violationsAt, reportAt?, h]
  rfl

theorem pairwise_flatMap_violationsAt (parser : Parser)
    (hcodes : (checker.rules.map (·.rule.code)).Nodup) (hsources : Sources checker files paths) :
    (paths.flatMap (violationsAt checker parser files)).Pairwise fun v w =>
      comesBefore v w = true → comesBefore w v = true → checker.rank v ≤ checker.rank w := by
  refine List.pairwise_flatMap.2 ⟨fun path _ => ?_, ?_⟩
  · exact (pairwise_violationsAt hcodes path).imp fun h _ _ => h
  · -- Violations at one place are of one file.
    refine hsources.nodup.imp_of_mem fun {a b} ha hb hne v hv w hw hvw hwv => absurd ?_ hne
    have hplace := (of_tied hvw hwv).1
    rw [file_of_mem_violationsAt hv, file_of_mem_violationsAt hw] at hplace
    exact hsources.eq_of_reported a ha b hb hplace

theorem filter_flatMap_violationsAt (hsources : Sources checker files paths)
    (hpath : path ∈ paths) :
    (paths.flatMap (violationsAt checker parser files)).filter
      (fun v => v.location.file = FilePath.relativeTo checker.root path) =
    violationsAt checker parser files path := by
  have hother {ps : List String} (hps : ∀ p ∈ ps, p ∈ paths ∧ p ≠ path) :
      (ps.flatMap (violationsAt checker parser files)).filter
        (fun v => v.location.file = FilePath.relativeTo checker.root path) = [] := by
    refine List.filter_eq_nil_iff.2 fun v hv hname => ?_
    obtain ⟨p, hp, hv⟩ := List.mem_flatMap.1 hv
    obtain ⟨hmem, hne⟩ := hps p hp
    rw [decide_eq_true_eq, file_of_mem_violationsAt hv] at hname
    exact hne (hsources.eq_of_reported p hmem path hpath (by rw [hname]))
  obtain ⟨front, back, rfl⟩ := List.append_of_mem hpath
  obtain ⟨-, hback, hdisjoint⟩ := List.nodup_append.1 hsources.nodup
  rw [List.flatMap_append, List.flatMap_cons, List.filter_append, List.filter_append,
    hother fun p hp => ⟨List.mem_append_left _ hp, hdisjoint p hp path List.mem_cons_self⟩,
    hother fun p hp => ⟨List.mem_append_right _ (List.mem_cons_of_mem _ hp),
      fun heq => (List.nodup_cons.1 hback).1 (heq ▸ hp)⟩,
    List.nil_append, List.append_nil]
  exact List.filter_eq_self.2 fun v hv => decide_eq_true (file_of_mem_violationsAt hv)

theorem files_eq_of_report (hmode : checker.mode = .report) (paths : List String) :
    files.mapFiles (fixing checker parser files paths) = files := by
  refine FileTree.mapFiles_eq_self fun names content => ?_
  have hnone (path : String) : fixedAt? checker parser files path = none := by
    rw [fixedAt?]
    cases hreport : reportAt? checker parser files path with
    | none => rfl
    | some report =>
      obtain ⟨text, hcheck⟩ := exists_text hreport
      obtain ⟨tree, -, rfl⟩ := Checker.exists_tree_of_report hmode hcheck
      rfl
  rw [fixing]
  split
  · rw [hnone, Option.map_none, Option.getD_none]
  · rfl

/-- A run over a project passes all of its files, or stops at the first that it cannot pass. -/
theorem check_cases (parser : Parser) (hproper : files.Proper)
    (hpaths : sources checker files = .ok paths) :
    ((∀ p ∈ paths, failureAt? checker parser files p = none) ∧
      check checker parser files = ⟨files.mapFiles (fixing checker parser files paths),
        .ok { tally checker parser files paths with
          violations := (paths.flatMap (violationsAt checker parser files)).mergeSort
            comesBefore }⟩) ∨
    ∃ passed path later e, paths = passed ++ path :: later ∧
      (∀ p ∈ passed, failureAt? checker parser files p = none) ∧
      failureAt? checker parser files path = some e ∧
      check checker parser files =
        ⟨files.mapFiles (fixing checker parser files passed), .error e⟩ := by
  have hstart : files.mapFiles (fixing checker parser files []) = files :=
    FileTree.mapFiles_eq_self fun _ _ => rfl
  have hsources : Sources checker files ([] ++ paths) := sources_tell_apart hproper hpaths
  have hempty (summary : Summary) : Summary.empty.append summary = summary := by
    simp [Summary.append, Summary.empty]
  have hrun := checkFiles_cases parser hproper hsources .empty
  rw [hstart] at hrun
  rw [check, hpaths]
  dsimp only at hrun ⊢
  rcases hrun with ⟨hpass, hrun⟩ | ⟨passed, path, later, e, heq, hpass, hend, hrun⟩
  · refine .inl ⟨hpass, ?_⟩
    rw [hrun, hempty]
    rfl
  · refine .inr ⟨passed, path, later, e, heq, hpass, hend, ?_⟩
    rw [hrun]
    rfl

theorem of_result_ok (hproper : files.Proper) (hpaths : sources checker files = .ok paths)
    (h : (check checker parser files).result = .ok summary) :
    (∀ p ∈ paths, failureAt? checker parser files p = none) ∧
      (check checker parser files).files = files.mapFiles (fixing checker parser files paths) ∧
      summary = { tally checker parser files paths with
        violations := (paths.flatMap (violationsAt checker parser files)).mergeSort
          comesBefore } := by
  rcases check_cases parser hproper hpaths with ⟨hpass, hrun⟩ | ⟨_, _, _, _, -, -, -, hrun⟩
  · rw [hrun] at h ⊢
    exact ⟨hpass, rfl, (Except.ok.inj h).symm⟩
  · rw [hrun] at h
    cases h

theorem of_result_error {e : ProjectError} (hproper : files.Proper)
    (hpaths : sources checker files = .ok paths)
    (h : (check checker parser files).result = .error e) :
    ∃ passed path later, paths = passed ++ path :: later ∧
      (∀ p ∈ passed, failureAt? checker parser files p = none) ∧
      failureAt? checker parser files path = some e ∧
      (check checker parser files).files =
        files.mapFiles (fixing checker parser files passed) := by
  rcases check_cases parser hproper hpaths with
    ⟨-, hrun⟩ | ⟨passed, path, later, e, heq, hpass, hend, hrun⟩
  · rw [hrun] at h
    cases h
  · rw [hrun] at h ⊢
    cases h
    exact ⟨passed, path, later, heq, hpass, hend, rfl⟩

theorem ofFile_eq (hproper : files.Proper) (hpaths : sources checker files = .ok paths)
    (hresult : (check checker parser files).result = .ok summary) (hpath : path ∈ paths) :
    summary.ofFile (FilePath.relativeTo checker.root path) =
      (violationsAt checker parser files path).mergeSort comesBefore := by
  obtain ⟨-, -, rfl⟩ := of_result_ok hproper hpaths hresult
  have hfilter := @filter_mergeSort Violation comesBefore (fun _ _ _ => comesBefore_trans)
    comesBefore_total
  rw [Summary.ofFile, hfilter,
    filter_flatMap_violationsAt (sources_tell_apart hproper hpaths) hpath]

/-- A run over a project adds up what its files give, each looked at alone. If it succeeds, the
violations are those of the files in the order of their paths, stably sorted by file, line and
column; so a file's own do not depend on what else is in the project. Each file with a fixed text
holds it, and no other file has changed. If the run fails, it does so at the first file that cannot
be passed, and neither this file nor a later one has changed. -/
theorem check_adds_up_files (parser : Parser) (hproper : files.Proper)
    (hcodes : (checker.rules.map (·.rule.code)).Nodup)
    (hpaths : sources checker files = .ok paths) :
    let run := check checker parser files
    let alone := violationsAt checker parser files
    let fixed? := fixedAt? checker parser files
    let failure? := failureAt? checker parser files
    let name := FilePath.relativeTo checker.root
    (paths.Nodup ∧ paths.Pairwise fun a b => FilePath.le a b = true) ∧
    (∀ summary, run.result = .ok summary →
      (∀ path ∈ paths, failure? path = none) ∧
      summary.violations = (paths.flatMap alone).mergeSort comesBefore ∧
      summary.violations.Perm (paths.flatMap alone) ∧
      (summary.violations.Pairwise fun v w => comesBefore v w = true ∧
        (comesBefore w v = true → checker.rank v ≤ checker.rank w)) ∧
      (∀ path ∈ paths, summary.ofFile (name path) = (alone path).mergeSort comesBefore) ∧
      summary.checked =
        paths.countP (fun path => (reportAt? checker parser files path).isSome) ∧
      summary.fixed = paths.countP (fun path => (fixed? path).isSome) ∧
      run.files = files.mapFiles (fixing checker parser files paths) ∧
      ∀ path ∈ paths,
        run.files.contentAt? path = ((fixed? path).map .text).or (files.contentAt? path)) ∧
    (∀ e, run.result = .error e → ∃ passed path later, paths = passed ++ path :: later ∧
      (∀ p ∈ passed, failure? p = none) ∧ failure? path = some e ∧
      run.files = files.mapFiles (fixing checker parser files passed) ∧
      ∀ p ∈ path :: later, run.files.contentAt? p = files.contentAt? p) ∧
    (checker.mode = .report → run.files = files) ∧
    ∀ others otherPaths summary otherSummary, others.Proper →
      sources checker others = .ok otherPaths → run.result = .ok summary →
      (check checker parser others).result = .ok otherSummary →
      ∀ path ∈ paths, path ∈ otherPaths → others.contentAt? path = files.contentAt? path →
        otherSummary.ofFile (name path) = summary.ofFile (name path) := by
  intro run alone fixed? failure? name
  have hsources := sources_tell_apart hproper hpaths
  refine ⟨⟨hsources.nodup, pairwise_sources hpaths⟩, fun summary hresult => ?_, fun e hresult => ?_,
    fun hmode => ?_, fun others otherPaths summary otherSummary hother hotherPaths hresult
      hotherResult path hpath hotherPath hsame => ?_⟩
  · obtain ⟨hpass, hfiles, hsummary⟩ := of_result_ok hproper hpaths hresult
    have hcontent (path : String) (hpath : path ∈ paths) : run.files.contentAt? path =
        ((fixed? path).map .text).or (files.contentAt? path) := by
      rw [hfiles, contentAt?_fixing hsources (fun _ => id) hpath, if_pos hpath]
    have hown (path : String) (hpath : path ∈ paths) := ofFile_eq hproper hpaths hresult hpath
    have hordered := @pairwise_mergeSort_tied Violation comesBefore _
      (fun _ _ _ => comesBefore_trans) comesBefore_total _
      (pairwise_flatMap_violationsAt parser hcodes hsources)
    subst hsummary
    exact ⟨hpass, rfl, List.mergeSort_perm _ _, hordered, hown, rfl, rfl, hfiles, hcontent⟩
  · obtain ⟨passed, path, later, rfl, hpass, hend, hfiles⟩ := of_result_error hproper hpaths hresult
    refine ⟨passed, path, later, rfl, hpass, hend, hfiles, fun p hp => ?_⟩
    have hnew : p ∉ passed := fun hmem =>
      (List.nodup_append.1 hsources.nodup).2.2 p hmem p hp rfl
    rw [hfiles, contentAt?_fixing hsources (fun _ => List.mem_append_left _)
      (List.mem_append_right _ hp), if_neg hnew]
  · rcases check_cases parser hproper hpaths with ⟨-, hrun⟩ | ⟨_, _, _, _, -, -, -, hrun⟩
    · rw [show run = _ from hrun]
      exact files_eq_of_report hmode _
    · rw [show run = _ from hrun]
      exact files_eq_of_report hmode _
  · rw [ofFile_eq hproper hpaths hresult hpath,
      ofFile_eq hother hotherPaths hotherResult hotherPath, violationsAt_congr hsame]

end

/-- A folder with a file that is fixed, one that is not, one that is not read, and notes. -/
def tallyFolder : FileTree := .directory
  [("A.kt", .file (.text (tallyFile "mutableStateOf"))),
    ("B.kt", .file (.text (tallyFile "mutableLongStateOf"))),
    ("C.kt", .file (.text "fun")), ("notes.txt", .file (.bytes [255]))]

/-- Passes over files that are not read. -/
def lenientChecker : Checker := { tallyChecker with strict := false }

/-- The states of two files are not remembered; the third file is passed over. -/
theorem check_adds_up_files_tallyFolder :
    tallyFolder.Proper ∧ (lenientChecker.rules.map (·.rule.code)).Nodup ∧
    sources lenientChecker tallyFolder = .ok ["A.kt", "B.kt", "C.kt"] ∧
    ∃ summary, (check lenientChecker tallyParser tallyFolder).result = .ok summary ∧
      summary.checked = 2 ∧ summary.fixed = 1 ∧
      summary.violations.map (fun v => (v.location.file, v.location.line, v.code)) =
        [("A.kt", 3, "CL024"), ("B.kt", 3, "CL024")] ∧
      (check lenientChecker tallyParser tallyFolder).files.contentAt? "A.kt" =
        some (.text (tallyFile "mutableLongStateOf")) := by
  have hproper : tallyFolder.Proper :=
    ⟨by decide, by decide, trivial, by decide, trivial, by decide, trivial, by decide, trivial,
      trivial⟩
  have hcodes : (lenientChecker.rules.map (·.rule.code)).Nodup := by decide
  have hpaths : sources lenientChecker tallyFolder = .ok ["A.kt", "B.kt", "C.kt"] := by
    show Except.ok (["A.kt", "B.kt", "C.kt"].mergeSort FilePath.le) = _
    rw [List.mergeSort_of_pairwise (by decide)]
  have hreports : ["A.kt", "B.kt", "C.kt"].map (fun path =>
      (reportAt? lenientChecker tallyParser tallyFolder path).map fun report =>
        (report.violations.map fun v => (v.location.file, v.location.line, v.code),
          report.fixed?)) =
      [some ([("A.kt", 3, "CL024")], some (tallyFile "mutableLongStateOf")),
        some ([("B.kt", 3, "CL024")], none), none] := by
    decide +kernel
  obtain ⟨⟨first, hfirst, hfixed⟩, ⟨second, hsecond, hkept⟩, hthird⟩ := by
    simpa only [List.map_cons, List.map_nil, List.cons.injEq, and_true, Option.map_eq_some_iff,
      Option.map_eq_none_iff, Prod.mk.injEq] using hreports
  obtain ⟨hplaces, hfixed⟩ := hfixed
  obtain ⟨hplaces', hkept⟩ := hkept
  obtain ⟨v, hv, hvplace⟩ := List.map_eq_singleton_iff.1 hplaces
  obtain ⟨w, hw, hwplace⟩ := List.map_eq_singleton_iff.1 hplaces'
  have hpass : ∀ p ∈ ["A.kt", "B.kt", "C.kt"],
      failureAt? lenientChecker tallyParser tallyFolder p = none := by
    decide +kernel
  have hsorted : [v, w].mergeSort comesBefore = [v, w] := by
    refine List.mergeSort_of_pairwise (List.pairwise_pair.2 (comesBefore_iff.2 ?_))
    rw [(Prod.mk.inj hvplace).1, (Prod.mk.inj hwplace).1]
    exact ⟨by decide, fun h => absurd h (by decide)⟩
  obtain ⟨-, hok, herror, -⟩ := check_adds_up_files tallyParser hproper hcodes hpaths
  refine ⟨hproper, hcodes, hpaths, ?_⟩
  cases hresult : (check lenientChecker tallyParser tallyFolder).result with
  | error e =>
    obtain ⟨passed, path, later, heq, -, hend, -⟩ := herror e hresult
    rw [hpass path (heq ▸ by simp)] at hend
    cases hend
  | ok summary =>
    obtain ⟨-, hviolations, -, -, -, hchecked, hcount, -, hcontent⟩ := hok summary hresult
    refine ⟨summary, rfl, ?_, ?_, ?_, ?_⟩
    · simp [hchecked, hfirst, hsecond, hthird]
    · simp [hcount, fixedAt?, hfirst, hsecond, hthird, hfixed, hkept]
    · simp [hviolations, violationsAt, hfirst, hsecond, hthird, hv, hw, hsorted, hvplace, hwplace]
    · simp [hcontent "A.kt" List.mem_cons_self, fixedAt?, hfirst, hfixed]

end Project

end ComposeCheck
