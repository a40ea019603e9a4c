import ComposeCheck.Tree.Node

/-!
# Calls

`Row(modifier) { … }` is two call nodes in the tree: the inner one has the arguments, the outer one
the trailing lambda. A `Call` joins the two halves and stands at the outer node; the inner half is
no call of its own, so each call of the source is seen once.
-/

namespace ComposeCheck

/-- A value argument. -/
structure Argument where
  node : Node

namespace Argument

def name? (argument : Argument) : Option String :=
  if argument.node.hasToken "=" then (argument.node.childOfKind? "identifier").map Node.text
  else none

def expression? (argument : Argument) : Option Node := argument.node.namedChildren.getLast?

end Argument

/-- A call: its outermost node, the expression that is called, the argument list and the node that
holds the trailing lambda. -/
structure Call where
  node : Node
  callee : Node
  valueArguments? : Option Node
  trailing? : Option Node

namespace Call

/-- Whether a node is the outer half of a call with arguments and a trailing lambda. -/
def isLambdaHalf (n : Node) : Bool :=
  n.kind == "call_expression" && (n.childOfKind? "annotated_lambda").isSome &&
    (n.childOfKind? "value_arguments").isNone &&
    n.firstNamedChild?.any (·.kind == "call_expression")

def isInnerHalf (n : Node) : Bool :=
  n.parent?.any fun parent => isLambdaHalf parent && parent.firstNamedChild?.any (· == n)

/-- Views a call node that is no inner half as a call. -/
def ofNode? (n : Node) : Option Call := do
  if n.kind ≠ "call_expression" ∨ isInnerHalf n then none
  let head ← if isLambdaHalf n then n.firstNamedChild? else some n
  let callee ← head.firstNamedChild?
  return ⟨n, callee, head.childOfKind? "value_arguments", n.childOfKind? "annotated_lambda"⟩

def name? (call : Call) : Option String :=
  if call.callee.kind = "identifier" then some call.callee.text
  else if call.callee.kind = "navigation_expression" then
    (call.callee.childrenOfKind "identifier").getLast?.map Node.text
  else none

def receiver? (call : Call) : Option Node :=
  if call.callee.kind = "navigation_expression" then call.callee.firstNamedChild? else none

def arguments (call : Call) : List Argument :=
  match call.valueArguments? with
  | none => []
  | some list => (list.childrenOfKind "value_argument").map Argument.mk

def argumentNamed? (name : String) (call : Call) : Option Argument :=
  call.arguments.find? (·.name? == some name)

def trailingLambda? (call : Call) : Option Node :=
  call.trailing?.bind (·.childOfKind? "lambda_literal")

/-- The lambdas that are passed, the trailing one last. -/
def lambdas (call : Call) : List Node :=
  (call.arguments.filterMap Argument.expression?).filter (·.kind == "lambda_literal") ++
    call.trailingLambda?.toList

def allIn (scope : Node) : List Call := scope.descendants.filterMap ofNode?

end Call

end ComposeCheck
