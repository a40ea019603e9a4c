import ComposeCheck.Kotlin.FunctionDecl
import ComposeCheck.Kotlin.Property

/-!
# Shadowed names

A name used inside a function may belong to something declared on the way: a parameter of an
enclosing lambda or function, or a local declared before the use.
-/

namespace ComposeCheck.Node

/-- The parameter names that a lambda, an anonymous function or a function introduces, those that a
lambda destructures included. -/
def declaredNames (callable : Node) : List String :=
  if callable.kind = "lambda_literal" then
    match callable.childOfKind? "lambda_parameters" with
    | none => []
    | some parameters =>
      (parameters.descendantsOfKind "variable_declaration").filterMap fun v =>
        (v.childOfKind? "identifier").map text
  else if callable.kind = "anonymous_function" ∨ callable.kind = "function_declaration" then
    match callable.childOfKind? "function_value_parameters" with
    | none => []
    | some list => (Parameter.allIn list).filterMap Parameter.name?
  else []

/-- Whether the name, as used at a node, belongs to something declared between the node and the
boundary. A property does not shadow the name in its own initializer. -/
def isShadowed (usage : Node) (name : String) (boundary : Node) : Bool :=
  ((usage.ancestorsBelow boundary).any fun scope => scope.declaredNames.contains name) ||
    (((usage.walkBackwards (some boundary)).filter fun n => !n.isAncestorOf usage).filterMap
      Property.ofNode?).any fun p => p.name? == some name || p.destructuredNames.contains name

end ComposeCheck.Node
