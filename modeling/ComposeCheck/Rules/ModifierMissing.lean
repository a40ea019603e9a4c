import ComposeCheck.Emission
import ComposeCheck.Rule

/-!
# Composables that emit take a modifier

The option `checkModifiersForVisibility` says which composables are checked: `only_public`,
`public_and_internal` or `all`.
-/

namespace ComposeCheck.Rules

def isChecked (setting : String) (visibility : Visibility) : Bool :=
  if setting = "all" then true
  else if setting = "public_and_internal" then
    visibility = .everywhere || visibility = .inModule
  else visibility = .everywhere

/-- Finds composables that emit and have no modifier parameter. -/
def modifierMissing : Rule where
  code := "CL013"
  name := "modifier-missing"
  description := "Composables that emit content accept a `Modifier`"
  visit
    | .composable f => do
      if f.returnsValue || f.hasFixedSignature || f.isPreview then return
      let setting ← Options.text "checkModifiersForVisibility" "only_public"
      if !isChecked setting f.visibility then return
      if ((← ModifierTypes.read).parameterOf? f).isSome then return
      match f.body? with
      | none => return
      | some body =>
        let emitters ← ContentEmitters.read
        if (Call.allIn body).any emitters.emits then
          RuleM.tell [⟨f.node, "This @Composable function emits content but doesn't have a " ++
            "modifier parameter.", none⟩]
    | _ => return

end ComposeCheck.Rules
