import ComposeCheck.Kotlin.Property
import ComposeCheck.Kotlin.Reference
import ComposeCheck.Rule

/-!
# State holders are parameters

A state holder that a composable fetches in its body should be a parameter with the fetching call as
its default. If its type is written down, the fix does that: the properties go away and their
parameters are written at the end of the list, before a function-typed last parameter. The option
`viewModelFactories` lists more functions that fetch state holders.
-/

namespace ComposeCheck.Rules

/-- The functions that fetch state holders. -/
def defaultFactories : List String :=
  ["viewModel", "weaverViewModel", "hiltViewModel", "injectedViewModel", "mavericksViewModel",
    "mavericksActivityViewModel", "tangleViewModel", "koinViewModel", "koinNavViewModel",
    "activityViewModel"]

/-- A state holder that is fetched in a body: the property, the function that fetches it, and the
parameter that would take its place if its type is known. -/
structure Injection where
  property : Property
  factory : String
  parameter? : Option String

def typeArgument? (call : Call) : Option Node := do
  let head ← call.callee.parent?
  (← head.childOfKind? "type_arguments").childOfKind? "type_projection"

/-- The state holder that a property of a body fetches. -/
def injectionOf? (factories : List String) (p : Property) : Option Injection := do
  let call ← Call.ofNode? (← p.value?)
  let factory ← call.name?
  if !factories.contains factory || call.receiver?.isSome then none
  let parameter := do
    let _ ← p.initializer?
    let name ← p.name?
    let type ← p.type?.or (typeArgument? call)
    return name ++ ": " ++ type.text ++ " = " ++ call.node.text
  return ⟨p, factory, parameter⟩

/-- The state holders that a composable fetches in its body. -/
def injections (factories : List String) (f : FunctionDecl) (body : Node) : List Injection :=
  ((Property.allIn body).filter (·.node.isOwnedBy f.node)).filterMap (injectionOf? factories)

/-- The edit that writes new parameters into a function's list. -/
def addParameters (f : FunctionDecl) (added : String) : List Edit :=
  match f.parameterList?, f.parameters.getLast? with
  | none, _ => []
  | some list, none => [.replace list ("(" ++ added ++ ")")]
  | some _, some last =>
    if last.isFunctionTyped then [.prepend last.node (added ++ ", ")]
    else [.append (last.default?.getD last.node) (", " ++ added)]

/-- The edits that add parameters with these texts, if there are any. -/
def additions (f : FunctionDecl) : List String → List Edit
  | [] => []
  | texts => addParameters f (", ".intercalate texts)

/-- What is said of a state holder that is fetched in a body. -/
def injectionMessage (factory : String) : String :=
  "Implicit dependencies of composables should be made explicit. Acquire the ViewModel from `" ++
    factory ++ "` as a default parameter of the composable instead of in its body."

/-- The finding for a state holder; its own fix takes the property away. -/
def injectionFinding (injection : Injection) : Finding :=
  ⟨injection.property.node, injectionMessage injection.factory,
    injection.parameter?.map fun _ => [.replace injection.property.node ""]⟩

/-- The parameters of the state holders that are being moved. -/
def movedParameters (found : List Injection) (corrected : List Bool) : List String :=
  (found.zip corrected).filterMap fun (injection, moved) =>
    if moved then injection.parameter? else none

/-- Finds state holders that are fetched in a body, and makes them parameters. -/
def viewModelInjection : Rule where
  code := "CL027"
  name := "viewmodel-injection"
  description := "ViewModels are acquired as default parameters"
  visit
    | .composable f => do
      match f.body? with
      | none => return
      | some body =>
        let extra ← Options.set "viewModelFactories" []
        let found := injections (extra ++ defaultFactories) f body
        let corrected ← RuleM.offerAll (found.map injectionFinding)
        RuleM.make (additions f (movedParameters found corrected))
    | _ => return

end ComposeCheck.Rules
