import ComposeCheck.CommandLine.Program
import ComposeCheck.Proofs.Sources

/-!
# Preparing a check

Which rules a check is asked for, and the checker that is prepared for it. The rules are chosen by
a list of names and codes, or else by a preset; the settings then take some of them away.
-/

namespace ComposeCheck

open Text

/-- A list with commas between names and codes has the rule in it. -/
def Rule.IsListed (rule : Rule) (choice : String) : Prop :=
  ∃ piece ∈ pieces (· == ',') choice, trimmed piece = rule.name ∨ trimmed piece = rule.code

/-- The rule is asked for: by a list if there is one, or else by the preset of some name. -/
def Rule.IsWanted (rule : Rule) (choice? name? : Option String) : Prop :=
  match choice? with
  | some choice => rule.IsListed choice
  | none => ∃ preset : Preset, preset.name = name?.getD "recommended" ∧ rule ∈ preset.rules

theorem Preset.name_of_ofName? {name : String} {preset : Preset} (h : ofName? name = some preset) :
    preset.name = name := by
  unfold ofName? at h
  split at h <;> cases h <;> rfl

theorem Preset.name_injective {a b : Preset} (h : a.name = b.name) : a = b := by
  revert h
  cases a <;> cases b <;> decide

theorem Preset.rules_sublist (preset : Preset) : preset.rules.Sublist allRules := by
  cases preset with
  | recommended => exact List.filter_sublist
  | all => exact List.Sublist.refl _

namespace Project

theorem exists_eq_of_prepare {files : FileTree} {settings : Settings}
    {config? : Option EditorConfig} {request : Request} {checker : Checker}
    (h : prepare files settings config? request = .ok checker) :
    ∃ config?, checker = Checker.of settings config? request := by
  unfold prepare at h
  cases config? with
  | some config =>
    cases h
    exact ⟨_, rfl⟩
  | none =>
    obtain ⟨config?, -, h⟩ := bind_eq_ok_iff.1 h
    cases h
    exact ⟨config?, rfl⟩

end Project

namespace Program

variable {here : Surroundings} {given? : Option String} {options : CheckOptions}
  {settings : Settings} {rules : List Rule} {checker : Checker}

/-- The rules of a check are the ones that are asked for, in the order of the catalogue. -/
theorem rulesOf_spec (h : rulesOf options settings = .ok rules) : rules.Sublist allRules ∧
    ∀ rule ∈ allRules,
      rule ∈ rules ↔ rule.IsWanted options.rules? (options.preset? <|> settings.preset?) := by
  unfold rulesOf at h
  split at h
  case h_1 choice hchoice =>
    rw [hchoice]
    unfold chosenRules at h
    dsimp only at h
    split at h
    · cases h
    · cases h
      refine ⟨List.filter_sublist, fun rule hrule => ?_⟩
      simp only [List.mem_filter, hrule, true_and, Bool.or_eq_true, List.contains_iff_mem,
        List.mem_map, Rule.IsWanted, Rule.IsListed]
      constructor
      · rintro (⟨piece, hpiece, h⟩ | ⟨piece, hpiece, h⟩)
        · exact ⟨piece, hpiece, .inl h⟩
        · exact ⟨piece, hpiece, .inr h⟩
      · rintro ⟨piece, hpiece, h | h⟩
        · exact .inl ⟨piece, hpiece, h⟩
        · exact .inr ⟨piece, hpiece, h⟩
  case h_2 hchoice =>
    rw [hchoice]
    dsimp only at h
    split at h
    case h_1 preset hpreset =>
      cases h
      have hname := Preset.name_of_ofName? hpreset
      refine ⟨preset.rules_sublist, fun rule _ => ⟨fun h => ⟨preset, hname, h⟩, ?_⟩⟩
      rintro ⟨other, hother, h⟩
      rwa [← Preset.name_injective (hother.trans hname.symm)]
    case h_2 => cases h

/-- A checker that is prepared is the one for the settings and the rules that have been found. -/
theorem exists_of_prepare (h : prepare here given? options = .ok checker) :
    ∃ settings rules config?,
      loadSettings here (settingsPath? here given? options.path) = .ok settings ∧
      rulesOf options settings = .ok rules ∧
      checker = Checker.of settings config?
        { root := FilePath.join here.directory options.path
          rules
          exclude := options.exclude
          mode := if options.fix then .fix else .report } := by
  unfold prepare at h
  obtain ⟨settings, hsettings, h⟩ := bind_eq_ok_iff.1 h
  obtain ⟨rules, hrules, h⟩ := bind_eq_ok_iff.1 h
  dsimp only at h
  split at h
  case h_1 hprepare =>
    cases h
    obtain ⟨config?, rfl⟩ := Project.exists_eq_of_prepare hprepare
    exact ⟨settings, rules, config?, hsettings, hrules, rfl⟩
  case h_2 => cases h

theorem mem_allRules_of_prepare (h : prepare here given? options = .ok checker) :
    ∀ s ∈ checker.rules, s.rule ∈ allRules := by
  obtain ⟨settings, rules, config?, -, hrules, rfl⟩ := exists_of_prepare h
  intro s hs
  obtain ⟨rule, hrule, rfl⟩ := List.mem_map.1 hs
  exact (rulesOf_spec hrules).1.mem (List.mem_filter.1 hrule).1

end Program

end ComposeCheck
