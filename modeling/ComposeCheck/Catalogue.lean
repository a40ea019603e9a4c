import ComposeCheck.Rules.ComposableNaming
import ComposeCheck.Rules.CompositionLocalAllowlist
import ComposeCheck.Rules.CompositionLocalNaming
import ComposeCheck.Rules.ContentEmitterReturningValues
import ComposeCheck.Rules.ContentSlotReused
import ComposeCheck.Rules.ContentTrailingLambda
import ComposeCheck.Rules.DefaultsVisibility
import ComposeCheck.Rules.LambdaParamInEffect
import ComposeCheck.Rules.Material2
import ComposeCheck.Rules.ModifierClickableOrder
import ComposeCheck.Rules.ModifierComposable
import ComposeCheck.Rules.ModifierComposed
import ComposeCheck.Rules.ModifierMissing
import ComposeCheck.Rules.ModifierNaming
import ComposeCheck.Rules.ModifierNotUsedAtRoot
import ComposeCheck.Rules.ModifierReused
import ComposeCheck.Rules.ModifierWithoutDefault
import ComposeCheck.Rules.MultipleContentEmitters
import ComposeCheck.Rules.MutableParams
import ComposeCheck.Rules.MutableStateAutoboxing
import ComposeCheck.Rules.ParameterNaming
import ComposeCheck.Rules.ParameterOrder
import ComposeCheck.Rules.PreviewPublic
import ComposeCheck.Rules.RememberMissing
import ComposeCheck.Rules.UnstableCollections
import ComposeCheck.Rules.ViewModelForwarding
import ComposeCheck.Rules.ViewModelInjection

/-!
# The catalogue of rules

All rules in the order of their codes, and the presets that choose among them. Rules that depend on
choices of a project are not in the recommended preset.
-/

namespace ComposeCheck

def allRules : List Rule :=
  [Rules.composableNaming, Rules.compositionLocalAllowlist, Rules.compositionLocalNaming,
    Rules.contentEmitterReturningValues, Rules.contentSlotReused, Rules.contentTrailingLambda,
    Rules.defaultsVisibility, Rules.lambdaParamInEffect, Rules.material2,
    Rules.modifierClickableOrder, Rules.modifierComposable, Rules.modifierComposed,
    Rules.modifierMissing, Rules.modifierNaming, Rules.modifierNotUsedAtRoot,
    Rules.modifierReused, Rules.modifierWithoutDefault, Rules.multipleContentEmitters,
    Rules.mutableParams, Rules.mutableStateAutoboxing, Rules.parameterNaming,
    Rules.parameterOrder, Rules.previewPublic, Rules.rememberMissing, Rules.unstableCollections,
    Rules.viewModelForwarding, Rules.viewModelInjection]

def optInRules : List String := ["material2", "unstable-collections"]

def recommendedRules : List Rule := allRules.filter fun rule => !optInRules.contains rule.name

/-- A choice of rules with a name. -/
inductive Preset where
  | recommended
  | all
  deriving DecidableEq

namespace Preset

def name : Preset → String
  | recommended => "recommended"
  | all => "all"

def ofName? : String → Option Preset
  | "recommended" => some recommended
  | "all" => some all
  | _ => none

def rules : Preset → List Rule
  | recommended => recommendedRules
  | all => allRules

end Preset

end ComposeCheck
