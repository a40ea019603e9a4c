import ComposeCheck.Tree.Node

/-!
# References

An identifier may read a value, or it may name a declaration, a member, a type or an argument.
-/

namespace ComposeCheck.Node

/-- Parents below which an identifier is no read of a value. -/
def namingKinds : List String :=
  ["parameter", "class_parameter", "variable_declaration", "function_declaration",
    "class_declaration", "object_declaration", "type_alias", "user_type", "qualified_identifier"]

def isReference (identifier : Node) : Bool :=
  match identifier.parent? with
  | none => false
  | some parent =>
    if parent.kind = "value_argument" then !identifier.next?.any (isToken "=")
    else if parent.kind = "navigation_expression" then
      parent.firstNamedChild?.any (· == identifier)
    else !namingKinds.contains parent.kind

/-- The identifiers below a node that read this name, in the order of the file. -/
def references (scope : Node) (name : String) : List Node :=
  ((scope.descendantsOfKind "identifier").filter fun n => n.text == name && n.isReference).mergeSort
    fun a b => a.start ≤ b.start

def owner? (n : Node) : Option Node := n.ancestorOfKind? "function_declaration"

/-- Whether a node belongs to a function and not to one nested in it. -/
def isOwnedBy (n function : Node) : Bool := n.owner?.any (· == function)

end ComposeCheck.Node
