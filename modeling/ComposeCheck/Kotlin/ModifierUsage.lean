import ComposeCheck.Kotlin.ModifierChain
import ComposeCheck.Kotlin.Shadowing
import ComposeCheck.Text.Naming

/-!
# Where a composable's modifier goes

The calls to which a composable hands its modifier, or a local derived from it; and the functions
that make modifiers.
-/

namespace ComposeCheck

/-- A call that receives the modifier, and the argument that hands it on. -/
structure ModifierUsage where
  call : Call
  argument : Argument

namespace Call

def isUpper (call : Call) : Bool := call.name?.any Text.startsUpper

/-- Whether a function is called that is no member: a name without a receiver. -/
def isPlain (call : Call) : Bool := call.receiver?.isNone

end Call

namespace FunctionDecl

/-- Whether an expression starts at the modifier `name` of a function or at one of its aliases. -/
def handsOn (f : FunctionDecl) (name : String) (aliases : List String) (expression : Node) : Bool :=
  let root := expression.chainRoot
  root.kind == "identifier" && aliases.contains root.text &&
    !(root.text == name && root.isShadowed name f.node)

/-- The calls in a function's body that receive its modifier, level by level. -/
def modifierUsages (f : FunctionDecl) : OptionM (List ModifierUsage) := do
  let types ← ModifierTypes.read
  match f.body?, (types.parameterOf? f).bind (·.name?) with
  | some body, some name =>
    let aliases := modifierNames body name
    return ((Call.allIn body).filter fun call => call.isPlain && call.isUpper).filterMap fun call =>
      (call.arguments.find? fun argument => argument.expression?.any fun e =>
        e.kind != "lambda_literal" && f.handsOn name aliases e).map fun argument => ⟨call, argument⟩
  | _, _ => return []

/-- Whether a function extends `Modifier` and gives one back. -/
def isModifierFactory (f : FunctionDecl) : Bool :=
  (f.receiverType?.bind Node.simpleTypeName?) == some "Modifier" &&
    !f.returnType?.any fun type => type.simpleTypeName? != some "Modifier"

end FunctionDecl

end ComposeCheck
