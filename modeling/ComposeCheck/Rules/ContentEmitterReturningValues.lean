import ComposeCheck.Emission
import ComposeCheck.Rule

/-!
# Either content or a value

A composable emits content or returns a value, but does not do both.
-/

namespace ComposeCheck.Rules

/-- What is said of a composable that does both. -/
def emitterReturningMessage : String :=
  "Composable functions should either emit content into the composition or return a value, but " ++
  "not both. If a composable should offer additional control surfaces to its caller, those " ++
  "control surfaces or callbacks should be provided as parameters to the composable function by " ++
  "the caller."

/-- Finds composables that emit and declare to return a value. -/
def contentEmitterReturningValues : Rule where
  code := "CL004"
  name := "content-emitter-returning-values"
  description := "Composables either emit content or return a value"
  visit
    | .file root => do
      let emitters ← ContentEmitters.read
      let components := EmissionCounter.componentsIn root
      let counter := EmissionCounter.ofComponents emitters components
      RuleM.overflow counter.overflows
      let counts := counter.resolve
      RuleM.tell ((components.filter fun f => f.returnsValue && counts.get f > 0).map fun f =>
        ⟨f.node, emitterReturningMessage, none⟩)
    | _ => return

end ComposeCheck.Rules
