import ComposeCheck.Kotlin.ModifierUsage
import ComposeCheck.Rule

/-!
# Modifier factories do without `composed`

`Modifier.Node` takes the place of `composed`.
-/

namespace ComposeCheck.Rules

/-- What is said of a modifier factory with `composed`. -/
def composedFactoryMessage : String :=
  "Modifier.composed \x7b ... \x7d is no longer recommended due to performance issues. You " ++
  "should use the Modifier.Node API instead, as it was designed from the ground up to be far " ++
  "more performant than composed modifiers."

/-- Finds modifier factories whose body calls `composed`. -/
def modifierComposed : Rule where
  code := "CL012"
  name := "modifier-composed"
  description := "Modifier factories use `Modifier.Node` rather than `composed`"
  visit
    | .function f => do
      let calls := (f.body?.map Call.allIn).getD []
      if f.isModifierFactory && calls.any (·.name? == some "composed") then
        RuleM.tell [⟨f.node, composedFactoryMessage, none⟩]
    | _ => return

end ComposeCheck.Rules
