import ComposeCheck.Kotlin.Property
import ComposeCheck.Kotlin.Reference
import ComposeCheck.Rule

/-!
# State is remembered

State that a composable makes without `remember` is made anew each time the composable runs.
-/

namespace ComposeCheck.Rules

def stateFactories : List String :=
  ["mutableStateOf", "mutableIntStateOf", "mutableLongStateOf", "mutableFloatStateOf",
    "mutableDoubleStateOf", "mutableStateListOf", "mutableStateMapOf", "derivedStateOf"]

def rememberMissing : Rule where
  code := "CL024"
  name := "remember-missing"
  description := "State created in a composable is wrapped in `remember`"
  visit
    | .composable f => do
      let calls := (f.body?.map Call.allIn).getD []
      RuleM.tell (calls.filterMap fun call => do
        let name ← call.name?
        if stateFactories.contains name && call.receiver?.isNone && call.node.isOwnedBy f.node &&
            !call.node.isRemembered f.node then
          some ⟨call.node, s!"Using `{name}` in a @Composable function without it being inside " ++
            "of a remember function. If you don't remember the state instance, a new state " ++
            "instance will be created when the function is recomposed.", none⟩
        else none)
    | _ => return

end ComposeCheck.Rules
