import ComposeCheck.Kotlin.LambdaTypes
import ComposeCheck.Kotlin.ModifierChain
import ComposeCheck.Kotlin.Reference
import ComposeCheck.Kotlin.Shadowing
import ComposeCheck.Rule
import ComposeCheck.Suppression

/-!
# Lambdas inside effects

An effect that restarts keeps the lambda it was started with. A lambda parameter used inside one
should be a key of the effect or go through `rememberUpdatedState`.
-/

namespace ComposeCheck.Rules

def lambdaInEffectMessage : String :=
  "Lambda parameters in a @Composable that are referenced directly inside of restarting effects " ++
  "can cause issues or unpredictable behavior. If restarting the effect is ok, add this " ++
  "parameter as a key of the effect so a new effect is created when it changes. Otherwise, use " ++
  "`rememberUpdatedState` on the parameter and use its result in the effect."

/-- Whether a parameter is a key of an effect: an argument that is no lambda starts at its name. -/
def isKey (effect : Call) (name : String) : Bool :=
  (effect.arguments.filterMap Argument.expression?).any fun e =>
    e.kind != "lambda_literal" && e.chainRoot.kind == "identifier" && e.chainRoot.text == name

/-- The names of a function's lambda parameters that are not composable. -/
def eventLambdas (types : LambdaTypes) (f : FunctionDecl) : List String :=
  (f.parameters.filter fun p => p.type?.any fun type =>
    types.isLambda type && !types.isComposableLambda type).filterMap Parameter.name?

def restartingEffects (f : FunctionDecl) (body : Node) : List Call :=
  (Call.allIn body).filter fun call =>
    call.name?.any ["LaunchedEffect", "DisposableEffect", "produceState"].contains &&
      call.node.isOwnedBy f.node

/-- The first reference to a parameter inside an effect. -/
def capturedIn? (f : FunctionDecl) (effect : Call) (name : String) : Option Node :=
  (effect.lambdas.flatMap (·.references name)).find? fun n => !n.isShadowed name f.node

/-- Finds lambda parameters inside effects of which they are no key. -/
def lambdaParamInEffect : Rule where
  code := "CL008"
  name := "lambda-param-in-effect"
  description := "Lambda parameters used in effects are keys or go through `rememberUpdatedState`"
  visit
    | .composable f => do
      match f.body? with
      | none => return
      | some body =>
        let names := eventLambdas (← LambdaTypes.read f.node.root) f
        if names.isEmpty then return
        RuleM.tell ((restartingEffects f body).flatMap fun effect =>
          (names.filter fun name => !isKey effect name).filterMap fun name =>
            (capturedIn? f effect name).map fun n => ⟨n, lambdaInEffectMessage, none⟩)
    | _ => return

end ComposeCheck.Rules
