import ComposeCheck.Kotlin.LambdaTypes
import ComposeCheck.Rule
import ComposeCheck.Suppression

/-!
# The content slot comes last

A composable lambda named `content` is the last parameter, so that callers can write it behind the
parentheses.
-/

namespace ComposeCheck.Rules

/-- Finds a content slot before the last parameter. -/
def contentTrailingLambda : Rule where
  code := "CL006"
  name := "content-trailing-lambda"
  description := "A `content` slot is the trailing parameter"
  visit
    | .composable f => do
      if f.hasFixedSignature || f.parameters.isEmpty then return
      let types ← LambdaTypes.read f.node.root
      let misplaced := f.parameters.dropLast.find? fun p =>
        p.name? == some "content" && p.type?.any types.isComposableLambda
      RuleM.tell (misplaced.map fun p => ⟨p.node, "A @Composable `content` parameter should be " ++
        "moved to be the trailing lambda in a composable function.", none⟩).toList
    | _ => return

end ComposeCheck.Rules
