import ComposeCheck.Proofs.CommandLines
import ComposeCheck.Proofs.Compact

/-!
# Settings in effect

What a check does is said in three places: on the command line, in the settings of the project, and
in the catalogue of rules. Rules that are listed on the command line come before a preset that is
named there, and that before the preset of the settings. Patterns of both count. The root is the
path on the command line or else the working directory: there the settings have no say.
-/

namespace ComposeCheck

open Arguments

/-- Codes grow along the catalogue. -/
theorem pairwise_code_allRules : (allRules.map (·.code)).Pairwise (· < ·) := by decide +kernel

theorem Checker.exists_scheduled {checker : Checker} {parser : Parser} {path text : String}
    {report : FileReport} {v : Violation} (h : checker.check parser path text = .ok report)
    (hv : v ∈ report.violations) :
    ∃ s ∈ checker.rules, v.rule = s.rule.name ∧ v.severity = s.severity := by
  obtain ⟨content, tree, mode, -, heq⟩ := exists_run h
  rw [heq] at hv
  obtain ⟨step, hstep, hv⟩ := List.mem_flatMap.1 hv
  have hasked := Dispatch.isStep_of_mem_rules hstep
  rw [hasked.violations_eq] at hv
  obtain ⟨finding, -, rfl⟩ := List.mem_map.1 hv
  exact ⟨_, hasked.mem, rfl, rfl⟩

namespace Program

variable {here : Surroundings} {words : List String} {given? : Option String}
  {options : CheckOptions} {checker : Checker}

/-- A checker follows what is said on the command line and in the settings. -/
structure Follows (checker : Checker) (here : Surroundings) (draft : CheckDraft)
    (settings : Settings) : Prop where
  /-- The root is the path that is given, or else the working directory. -/
  root : checker.root = FilePath.join here.directory (draft.path?.getD ".")
  /-- Patterns are those of the command line and those of the settings. -/
  exclude : checker.exclude = draft.exclude ++ settings.scan.exclude
  /-- Each rule runs once, in the order of codes. -/
  ordered : (checker.rules.map (·.rule.code)).Pairwise (· < ·)
  known : ∀ s ∈ checker.rules, s.rule ∈ allRules
  /-- The rules that run are the ones that are asked for and not switched off. -/
  wanted : ∀ rule ∈ allRules, (∃ s ∈ checker.rules, s.rule = rule) ↔
    rule.IsWanted draft.rules? (draft.preset? <|> settings.preset?) ∧
      settings.enabled? rule.name ≠ some false
  severity : ∀ s ∈ checker.rules,
    s.severity = (settings.severity? s.rule.name).getD s.rule.severity

theorem isEnabled_iff {settings : Settings} {name : String} :
    settings.isEnabled name = true ↔ settings.enabled? name ≠ some false := by
  rw [Settings.isEnabled]
  rcases settings.enabled? name with _ | _ | _ <;> simp

theorem mem_rules_of {settings : Settings} {config? : Option EditorConfig} {request : Request}
    {s : Scheduled} : s ∈ (Checker.of settings config? request).rules ↔
      s.rule ∈ request.rules ∧ settings.enabled? s.rule.name ≠ some false ∧
        s.severity = (settings.severity? s.rule.name).getD s.rule.severity := by
  simp only [Checker.of, List.mem_map, List.mem_filter, isEnabled_iff]
  constructor
  · rintro ⟨rule, ⟨hrule, hon⟩, rfl⟩
    exact ⟨hrule, hon, rfl⟩
  · rintro ⟨hrule, hon, hseverity⟩
    exact ⟨s.rule, ⟨hrule, hon⟩, by rw [← hseverity]⟩

theorem follows_of_prepare {draft : CheckDraft}
    (h : prepare here given? draft.finish = .ok checker) : ∃ settings,
      loadSettings here (settingsPath? here given? (draft.path?.getD ".")) = .ok settings ∧
      Follows checker here draft settings := by
  obtain ⟨settings, rules, config?, hsettings, hrules, rfl⟩ := exists_of_prepare h
  obtain ⟨hsub, hwanted⟩ := rulesOf_spec hrules
  refine ⟨settings, hsettings, rfl, rfl, ?_, fun s hs => hsub.mem (mem_rules_of.1 hs).1,
    fun rule hrule => ?_, fun s hs => (mem_rules_of.1 hs).2.2⟩
  · refine pairwise_code_allRules.sublist ?_
    rw [Checker.of, List.map_map]
    exact (List.filter_sublist.trans hsub).map _
  · constructor
    · rintro ⟨s, hs, rfl⟩
      obtain ⟨hmem, hon, -⟩ := mem_rules_of.1 hs
      exact ⟨(hwanted _ hrule).1 hmem, hon⟩
    · rintro ⟨hasked, hon⟩
      let s : Scheduled := ⟨rule, (settings.severity? rule.name).getD rule.severity⟩
      exact ⟨s, mem_rules_of.2 ⟨(hwanted rule hrule).2 hasked, hon, rfl⟩, rfl⟩

/-- A check that is asked for by a command line follows it and the settings, but for the root that
these name. What it prints is what its rules find, at their severities, in the files in scope. -/
theorem check_follows_settings (parser : Parser)
    (hread : read here.settingsPath? words = .run given? (.check options))
    (hprepare : prepare here given? options = .ok checker) :
    ∃ outer draft inner settings, AsksForCheck words outer draft inner ∧
      given? = (inner.config? <|> outer.config? <|> here.settingsPath?) ∧ options = draft.finish ∧
      loadSettings here (settingsPath? here given? (draft.path?.getD ".")) = .ok settings ∧
      Follows checker here draft settings ∧
      ∀ result, (Project.check checker parser here.files).result = .ok result →
        let files := (Project.check checker parser here.files).files
        run here parser words =
          { code := if result.hasErrors then 1 else 0
            output := Display.result (draw here files checker.root) options.format result
            files } ∧
        (∃ paths, Project.sources checker here.files = .ok paths ∧
          ∀ path, path ∈ paths ↔ Project.InScope checker here.files path) ∧
        ∀ v ∈ result.violations,
          (∃ s ∈ checker.rules, v.rule = s.rule.name ∧ v.severity = s.severity) ∧
          ∃ path, Project.InScope checker here.files path ∧
            v.location.file = FilePath.relativeTo checker.root path := by
  obtain ⟨outer, draft, inner, hasks, hgiven, rfl⟩ := asksForCheck_of_read hread
  obtain ⟨settings, hsettings, hfollows⟩ := follows_of_prepare hprepare
  refine ⟨outer, draft, inner, settings, hasks, hgiven, rfl, hsettings, hfollows,
    fun result hresult => ⟨?_, ?_, fun v hv => ?_⟩⟩
  · simp only [run, hread, Program.check, hprepare, hresult]
  · obtain ⟨paths, _, hpaths, -, -⟩ := Project.exists_perm_of_check hresult
    exact ⟨paths, hpaths, Project.mem_sources_iff hpaths⟩
  · obtain ⟨paths, hpaths, path, hpath, text, report, hreport, hmem⟩ :=
      Project.exists_report_of_mem hresult hv
    exact ⟨Checker.exists_scheduled hreport hmem, path,
      (Project.mem_sources_iff hpaths path).1 hpath, Checker.file_of_mem_violations hreport hmem⟩

/-- Settings that name a root, a preset and a pattern, switch a rule off and make one mild. -/
def appSettings : String :=
  "preset = \"all\"\n[analyzer]\nroot = \"app\"\nexclude = [\"old/**\"]\n" ++
  "[rules.modifier-missing]\nenabled = false\n[rules.composable-naming]\nseverity = \"info\"\n"

def appPlace : Surroundings where
  files := .directory [("app", .directory [("A.kt", .file (.text ""))]), ("B.kt", .file (.text "")),
    ("compose-lint.toml", .file (.text appSettings))]
  directory := "/"
  drawing := ⟨fun v _ => v.display, ""⟩

def appWords : List String := ["-v", "check", "-e", "gen/**", "--rules=CL001, modifier-missing"]

def appOptions : CheckOptions :=
  { rules? := some "CL001, modifier-missing", exclude := ["gen/**"] }

def appRead : Settings where
  preset? := some "all"
  scan := { root := "app", exclude := ["old/**"] }
  rules := [("modifier-missing", { enabled? := some false }),
    ("composable-naming", { severity? := some .info })]

theorem loadSettings_appPlace :
    loadSettings appPlace (settingsPath? appPlace none appOptions.path) = .ok appRead :=
  eq_ok_of_toOption (by decide +kernel)

/-- The settings name another root, but it is the working directory that is checked. -/
theorem check_follows_settings_app :
    read appPlace.settingsPath? appWords = .run none (.check appOptions) ∧
    ∃ checker, prepare appPlace none appOptions = .ok checker ∧
      loadSettings appPlace (settingsPath? appPlace none ".") = .ok appRead ∧
      checker.root = "/." ∧ checker.exclude = ["gen/**", "old/**"] ∧
      (∃ s ∈ checker.rules, s.rule = Rules.composableNaming ∧ s.severity = .info) ∧
      ¬∃ s ∈ checker.rules, s.rule = Rules.modifierMissing := by
  have hread : read appPlace.settingsPath? appWords = .run none (.check appOptions) := by
    decide +kernel
  have hprepared : (prepare appPlace none appOptions).toOption.isSome = true := by
    rw [prepare, loadSettings_appPlace]
    decide +kernel
  cases hprepare : prepare appPlace none appOptions with
  | error e =>
    rw [hprepare] at hprepared
    cases hprepared
  | ok checker =>
    obtain ⟨outer, draft, inner, settings, -, -, hoptions, hsettings, hfollows, -⟩ :=
      check_follows_settings (fun _ => none) hread hprepare
    have hpath : draft.path?.getD "." = "." := congrArg CheckOptions.path hoptions.symm
    have hrules : draft.rules? = appOptions.rules? := congrArg CheckOptions.rules? hoptions.symm
    have hexclude : draft.exclude = ["gen/**"] := congrArg CheckOptions.exclude hoptions.symm
    rw [hpath] at hsettings
    obtain rfl : settings = appRead := Except.ok.inj (hsettings.symm.trans loadSettings_appPlace)
    refine ⟨hread, checker, rfl, hsettings, ?_, ?_, ?_, fun hmissing => ?_⟩
    · rw [hfollows.root, hpath]
      decide
    · rw [hfollows.exclude, hexclude]
      rfl
    · have hmem : Rules.composableNaming ∈ allRules := .head _
      have hlisted : Rules.composableNaming.IsListed "CL001, modifier-missing" :=
        ⟨"CL001", by decide, .inr (by decide)⟩
      obtain ⟨s, hs, hrule⟩ := (hfollows.wanted _ hmem).2 ⟨hrules ▸ hlisted, by decide⟩
      refine ⟨s, hs, hrule, ?_⟩
      rw [hfollows.severity s hs, hrule]
      rfl
    · have hmem : Rules.modifierMissing ∈ allRules := by simp [allRules]
      exact ((hfollows.wanted _ hmem).1 hmissing).2 (by decide)

end Program

end ComposeCheck
