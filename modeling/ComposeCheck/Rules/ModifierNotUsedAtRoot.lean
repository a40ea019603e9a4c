import ComposeCheck.Emission
import ComposeCheck.Kotlin.ModifierUsage
import ComposeCheck.Rule

/-!
# The modifier goes to the root layout

A composable's modifier is for its outermost layout, not for the content of another.
-/

namespace ComposeCheck.Rules

/-- Whether a usage stands in the content of a call that emits, below the function. -/
def isInsideLayout (emitters : ContentEmitters) (f : FunctionDecl) (usage : ModifierUsage) : Bool :=
  ((usage.call.node.ancestorsBelow f.node).filterMap Call.ofNode?).any fun call =>
    emitters.emits call && call.lambdas.any (·.isAncestorOf usage.call.node)

/-- Finds modifiers that go to the content of a layout. -/
def modifierNotUsedAtRoot : Rule where
  code := "CL015"
  name := "modifier-not-used-at-root"
  description := "The modifier parameter is applied to the root layout"
  visit
    | .composable f => do
      let usages ← f.modifierUsages
      if usages.isEmpty then return
      let emitters ← ContentEmitters.read
      RuleM.tell ((usages.filter (isInsideLayout emitters f)).map fun usage =>
        ⟨usage.argument.node, "The modifier parameter should be applied to the root level " ++
          "composable of the function, not to one of its children.", none⟩)
    | _ => return

end ComposeCheck.Rules
