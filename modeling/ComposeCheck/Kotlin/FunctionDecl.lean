import ComposeCheck.Kotlin.Parameter

/-!
# Function declarations
-/

namespace ComposeCheck

/-- Where a declaration can be seen: `private`, `protected`, `internal` or `public`. -/
inductive Visibility where
  | inFile
  | inSubclasses
  | inModule
  | everywhere
  deriving DecidableEq

namespace Visibility

/-- The visibilities in order, the narrowest first. -/
def rank : Visibility → Nat
  | .inFile => 0
  | .inSubclasses => 1
  | .inModule => 2
  | .everywhere => 3

def keyword : Visibility → String
  | .inFile => "private"
  | .inSubclasses => "protected"
  | .inModule => "internal"
  | .everywhere => "public"

/-- The visibility that a declaration's modifiers give it; public if they say nothing. -/
def ofDeclaration (declaration : Node) : Visibility :=
  match ((declaration.childOfKind? "modifiers").bind
      (·.childOfKind? "visibility_modifier")).map Node.text with
  | some "private" => .inFile
  | some "protected" => .inSubclasses
  | some "internal" => .inModule
  | _ => .everywhere

end Visibility

/-- A function declaration. -/
structure FunctionDecl where
  node : Node

namespace FunctionDecl

def ofNode? (n : Node) : Option FunctionDecl :=
  if n.kind = "function_declaration" then some ⟨n⟩ else none

def nameNode? (f : FunctionDecl) : Option Node := f.node.childOfKind? "identifier"

def name? (f : FunctionDecl) : Option String := f.nameNode?.map Node.text

def annotations (f : FunctionDecl) : List AnnotationEntry := AnnotationEntry.ofDeclaration f.node

def hasAnnotation (name : String) (f : FunctionDecl) : Bool :=
  f.annotations.any (·.name? == some name)

def isComposable (f : FunctionDecl) : Bool := f.hasAnnotation "Composable"

/-- Whether the function carries a preview annotation. -/
def isPreview (f : FunctionDecl) : Bool :=
  f.annotations.any fun entry => entry.name?.any fun name =>
    Text.hasTail "Preview" name || Text.hasTail "Previews" name

def parameterList? (f : FunctionDecl) : Option Node :=
  f.node.childOfKind? "function_value_parameters"

def parameters (f : FunctionDecl) : List Parameter :=
  (f.parameterList?.map Parameter.allIn).getD []

/-- The body, with its braces or its `=`. -/
def body? (f : FunctionDecl) : Option Node := f.node.childOfKind? "function_body"

def block? (f : FunctionDecl) : Option Node := f.body?.bind (·.childOfKind? "block")

/-- The expression of a body after `=`. -/
def expression? (f : FunctionDecl) : Option Node := do
  let body ← f.body?
  if (body.childOfKind? "block").isSome then none else body.firstNamedChild?

def statements (f : FunctionDecl) : List Node := (f.block?.map Node.namedChildren).getD []

/-- The declared return type: what follows the colon between the parameters and the body. -/
def returnType? (f : FunctionDecl) : Option Node := do
  let parameters ← f.parameterList?
  let header := parameters.siblingsAfter.takeWhile (·.kind != "function_body")
  let colon ← header.find? (Node.isToken ":")
  colon.nextNamed?

/-- Whether the function declares to return something other than `Unit`. -/
def returnsValue (f : FunctionDecl) : Bool :=
  f.returnType?.any fun type => Text.trimmed type.text != "Unit"

/-- The receiver type of an extension function: a type before the name. -/
def receiverType? (f : FunctionDecl) : Option Node := do
  let name ← f.nameNode?
  (f.node.namedChildren.takeWhile fun c => !(c == name)).find? fun c =>
    ["user_type", "nullable_type", "parenthesized_type", "function_type"].contains c.kind

def hasReceiver (f : FunctionDecl) : Bool := f.receiverType?.isSome

def visibility (f : FunctionDecl) : Visibility := .ofDeclaration f.node

/-- Whether a keyword such as `override` stands among the modifiers. -/
def hasKeyword (keyword : String) (f : FunctionDecl) : Bool :=
  (f.node.childOfKind? "modifiers").any fun modifiers =>
    (modifiers.namedChildren.filter (·.kind != "annotation")).any (·.text == keyword)

/-- The class, interface or object of which the function is a member. -/
def containingClass? (f : FunctionDecl) : Option Node := do
  let body ← f.node.parent?
  if body.kind = "class_body" then body.parent? else none

def isInInterface (f : FunctionDecl) : Bool := f.containingClass?.any (·.hasToken "interface")

def hasInheritedSignature (f : FunctionDecl) : Bool :=
  f.hasKeyword "override" || f.hasKeyword "actual" || f.isInInterface

/-- Whether rules about parameters leave the signature alone. -/
def hasFixedSignature (f : FunctionDecl) : Bool :=
  f.hasInheritedSignature || f.hasKeyword "abstract"

/-- The function declarations below a node, level by level. -/
def allIn (scope : Node) : List FunctionDecl := scope.descendants.filterMap ofNode?

end FunctionDecl

end ComposeCheck
