import ComposeCheck.Text.Chars
import ComposeCheck.Tree.Node

/-!
# Names of types

The name of a type is written as identifiers joined by dots; its simple name is the last of them,
seen through nullability and parentheses.
-/

namespace ComposeCheck.Node

/-- The type inside a nullable or parenthesised type. -/
def wrappedType? (n : Node) : Option Node :=
  n.namedChildren.find? fun c => c.kind != "type_modifiers"

def isTypeWrapper (n : Node) : Bool :=
  n.kind == "nullable_type" || n.kind == "parenthesized_type"

theorem size_lt_of_wrappedType? {c n : Node} (h : n.wrappedType? = some c) : c.size < n.size :=
  size_lt_of_mem_namedChildren (List.mem_of_find?_eq_some h)

/-- The dotted name of a type, without type arguments. -/
def userTypeName? (n : Node) : Option String :=
  let parts := (n.childrenOfKind "identifier").map text
  if n.kind = "user_type" ∧ parts ≠ [] then some (".".intercalate parts) else none

/-- The last segment of a type's name, through nullability and parentheses. -/
def simpleTypeName? (n : Node) : Option String :=
  if n.kind = "user_type" then
    n.userTypeName?.bind fun name => (Text.pieces (· == '.') name).getLast?
  else if n.isTypeWrapper then
    match _h : n.wrappedType? with
    | some inner => simpleTypeName? inner
    | none => none
  else none
termination_by n.size
decreasing_by exact size_lt_of_wrappedType? _h

end ComposeCheck.Node
