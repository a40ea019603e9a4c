import ComposeCheck.Kotlin.Call
import ComposeCheck.Text.Chars

/-!
# Properties

Declarations with `val` or `var`, local or not.
-/

namespace ComposeCheck

/-- A property declaration. -/
structure Property where
  node : Node

namespace Property

def ofNode? (n : Node) : Option Property :=
  if n.kind = "property_declaration" then some ⟨n⟩ else none

def variableNode? (p : Property) : Option Node := p.node.childOfKind? "variable_declaration"

/-- The declared name, unless the declaration destructures. -/
def name? (p : Property) : Option String :=
  p.variableNode?.bind fun v => (v.childOfKind? "identifier").map Node.text

/-- The names that a destructuring declaration binds. -/
def destructuredNames (p : Property) : List String :=
  match p.node.childOfKind? "multi_variable_declaration" with
  | none => []
  | some several =>
    (several.childrenOfKind "variable_declaration").filterMap fun v =>
      (v.childOfKind? "identifier").map Node.text

def type? (p : Property) : Option Node :=
  p.variableNode?.bind fun v => v.namedChildren.find? fun c => c.kind != "identifier"

/-- Whether the property is declared with `var`. -/
def isVar (p : Property) : Bool := p.node.hasToken "var"

/-- The expression after `=`. -/
def initializer? (p : Property) : Option Node :=
  (p.node.children.find? (Node.isToken "=")).bind Node.nextNamed?

/-- The expression after `by`. -/
def delegate? (p : Property) : Option Node :=
  (p.node.childOfKind? "property_delegate").bind Node.firstNamedChild?

def value? (p : Property) : Option Node := p.initializer?.or p.delegate?

/-- The property declarations below a node, level by level. -/
def allIn (scope : Node) : List Property := scope.descendants.filterMap ofNode?

end Property

/-- Whether a node stands inside a call of `remember` or of a function whose name starts that way,
below the boundary. -/
def Node.isRemembered (n boundary : Node) : Bool :=
  ((n.ancestorsBelow boundary).filterMap Call.ofNode?).any fun call =>
    call.name?.any (Text.hasLead "remember")

end ComposeCheck
