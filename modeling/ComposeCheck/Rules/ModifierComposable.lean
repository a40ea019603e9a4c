import ComposeCheck.Kotlin.ModifierUsage
import ComposeCheck.Rule

/-!
# Modifier factories are plain functions

A function that makes a modifier is no composable.
-/

namespace ComposeCheck.Rules

/-- What is said of a composable modifier factory. -/
def composableFactoryMessage : String :=
  "Using @Composable builder functions for modifiers is not recommended, as they cause " ++
  "unnecessary recompositions. You should use the Modifier.Node API instead, as it limits " ++
  "recomposition to just the modifier instance, rather than the whole function tree."

def modifierComposable : Rule where
  code := "CL011"
  name := "modifier-composable"
  description := "Modifier factories are not @Composable"
  visit
    | .composable f => do
      if f.isModifierFactory then RuleM.tell [⟨f.node, composableFactoryMessage, none⟩]
    | _ => return

end ComposeCheck.Rules
