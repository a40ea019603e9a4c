import ComposeCheck.Emission
import ComposeCheck.Rule

/-!
# One source of content

A composable emits from one place at its top level, counting what the composables of the file that
it calls emit. Those that emit more by themselves are reported first.
-/

namespace ComposeCheck.Rules

/-- What is said of a composable that emits from several places. -/
def multipleEmittersMessage : String :=
  "Composable functions should only be emitting content into the composition from one source at " ++
  "their top level."

/-- Finds composables that emit more than once. -/
def multipleContentEmitters : Rule where
  code := "CL018"
  name := "multiple-content-emitters"
  description := "Composables emit content from a single top-level point"
  visit
    | .file root => do
      let emitters ← ContentEmitters.read
      let components := EmissionCounter.componentsIn root
      let counter := EmissionCounter.ofComponents emitters components
      RuleM.overflow counter.overflows
      let resolved := counter.resolve
      let candidates := components.filter fun f => !f.hasReceiver
      let directly := candidates.filter fun f => counter.seed.get f > 1
      let indirectly := candidates.filter fun f => counter.seed.get f ≤ 1 && resolved.get f > 1
      RuleM.tell ((directly ++ indirectly).map fun f => ⟨f.node, multipleEmittersMessage, none⟩)
    | _ => return

end ComposeCheck.Rules
