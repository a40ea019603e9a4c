import ComposeCheck.Kotlin.ModifierUsage
import ComposeCheck.Kotlin.Reference
import ComposeCheck.NamePattern.Listed
import ComposeCheck.Rule

/-!
# State holders are not handed on

A composable does not pass a state holder it got to another composable. The options
`allowedStateHolderNames`, `allowedForwardingOfTypes` and `allowedForwarding` say which types hold
state, which of them may be passed, and which composables may get any.
-/

namespace ComposeCheck.Rules

/-- The names of the parameters that must not be passed. -/
def stateHolders (holders forwardable : List Pattern) (f : FunctionDecl) : List String :=
  (f.parameters.filter fun p => p.simpleTypeName?.any fun type =>
    Pattern.matchesAny holders type && !Pattern.matchesAny forwardable type).filterMap
      Parameter.name?

/-- Whether a call of the function passes one of the parameters. -/
def forwards (f : FunctionDecl) (names : List String) (call : Call) : Bool :=
  (call.arguments.filterMap Argument.expression?).any fun value =>
    value.kind == "identifier" && names.contains value.text &&
      !value.isShadowed value.text f.node

/-- Whether a call is one that must not get a state holder. -/
def isForwardingTarget (f : FunctionDecl) (allowed : List String) (call : Call) : Bool :=
  call.isPlain && call.isUpper && !call.name?.any (Text.hasTail "Effect") &&
    !call.name?.any allowed.contains && call.node.isOwnedBy f.node

/-- Finds calls that get a state holder. -/
def viewModelForwarding : Rule where
  code := "CL026"
  name := "viewmodel-forwarding"
  description := "ViewModels are not forwarded to other composables"
  visit
    | .composable f => do
      match f.body? with
      | none => return
      | some body =>
        let holders ← Pattern.readOption "allowedStateHolderNames" [".*ViewModel", ".*Presenter"]
        let forwardable ← Pattern.readOption "allowedForwardingOfTypes" []
        let allowed ← Options.set "allowedForwarding" []
        let names := stateHolders holders forwardable f
        if names.isEmpty then return
        let found := (Call.allIn body).filter fun call =>
          isForwardingTarget f allowed call && forwards f names call
        RuleM.tell (found.map fun call => ⟨call.node, "Forwarding a ViewModel through multiple " ++
          "@Composable functions should be avoided. Consider using state hoisting.", none⟩)
    | _ => return

end ComposeCheck.Rules
