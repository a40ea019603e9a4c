import ComposeCheck.Kotlin.Call
import ComposeCheck.Rule

/-!
# State of numbers without boxes

`mutableStateOf` with a number literal keeps the number in a box; the factories for the types of
numbers do not. The fix calls such a factory instead.
-/

namespace ComposeCheck.Rules

/-- The number literal behind a sign. -/
def unsigned? (literal : Node) : Option Node :=
  if literal.kind = "unary_expression" then literal.firstNamedChild? else some literal

def factoryFor? (literal : Node) : Option String := do
  let number ← unsigned? literal
  let text := number.text.toList
  let ends (c d : Char) : Bool := text.getLast? == some c || text.getLast? == some d
  if number.kind = "number_literal" then
    if text.contains 'u' || text.contains 'U' then none
    else if ends 'l' 'L' then some "mutableLongStateOf"
    else some "mutableIntStateOf"
  else if number.kind = "float_literal" then
    if ends 'f' 'F' then some "mutableFloatStateOf" else some "mutableDoubleStateOf"
  else none

def betterFactory? (call : Call) : Option String := do
  if call.name? ≠ some "mutableStateOf" ∨ call.receiver?.isSome then none
  let head ← call.callee.parent?
  if (head.childOfKind? "type_arguments").isSome then none
  match call.arguments with
  | [argument] => factoryFor? (← argument.expression?)
  | _ => none

/-- Finds state that keeps a number in a box, and calls the factory for its type. -/
def mutableStateAutoboxing : Rule where
  code := "CL020"
  name := "mutable-state-autoboxing"
  description := "Primitive state uses the `mutableXStateOf` specialisations"
  visit
    | .file root => do
      discard <| RuleM.offerAll ((Call.allIn root).filterMap fun call => do
        let factory ← betterFactory? call
        return ⟨call.callee, "Using mutableStateOf with a primitive value autoboxes it. Use " ++
          s!"`{factory}` instead.", some [.replace call.callee factory]⟩)
    | _ => return

end ComposeCheck.Rules
