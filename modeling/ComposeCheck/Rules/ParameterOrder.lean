import ComposeCheck.Kotlin.LambdaTypes
import ComposeCheck.Kotlin.ModifierChain
import ComposeCheck.Rule
import ComposeCheck.Suppression

/-!
# Order of parameters

Parameters without a default come first, then modifiers, then the other parameters with a default.
A lambda at the end stays there.
-/

namespace ComposeCheck.Rules

/-- The parameters in the order in which they should stand. -/
def expectedOrder (types : LambdaTypes) (modifiers : ModifierTypes) (parameters : List Parameter) :
    List Parameter :=
  let endsWithLambda := parameters.getLast?.any fun p => p.type?.any types.isLambda
  let rest := if endsWithLambda then parameters.dropLast else parameters
  let trailing := if endsWithLambda then parameters.getLast?.toList else []
  (rest.filter fun p => !p.hasDefault) ++
    (rest.filter fun p => p.hasDefault && modifiers.isModifier p) ++
    (rest.filter fun p => p.hasDefault && !modifiers.isModifier p) ++ trailing

/-- The parameters as they are written, without modifiers and defaults. -/
def listing (parameters : List Parameter) : String :=
  ", ".intercalate (parameters.map (·.node.text))

def parameterOrderMessage (current expected : List Parameter) : String :=
  "Parameters in a composable function should be ordered following this pattern: params without " ++
  "defaults, modifiers, params with defaults and optionally, a trailing function that might not " ++
  "have a default param.\nCurrent params are: [" ++ listing current ++ "] but should be [" ++
  listing expected ++ "]."

/-- Finds parameter lists in another order. -/
def parameterOrder : Rule where
  code := "CL022"
  name := "parameter-order"
  description := "Required params, then modifier, then optional params, then a trailing lambda"
  visit
    | .composable f => do
      if f.hasFixedSignature then return
      match f.parameterList? with
      | none => return
      | some list =>
        let types ← LambdaTypes.read f.node.root
        let modifiers ← ModifierTypes.read
        let expected := expectedOrder types modifiers f.parameters
        if f.parameters.map (·.node.id) = expected.map (·.node.id) then return
        RuleM.tell [⟨list, parameterOrderMessage f.parameters expected, none⟩]
    | _ => return

end ComposeCheck.Rules
