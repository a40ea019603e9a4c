import ComposeCheck.Tree.Node

/-!
# Annotations

Annotations stand in the `modifiers` of a declaration, or with `@file:` at the top of a file.
-/

namespace ComposeCheck

/-- An annotation as it stands in the source. -/
structure AnnotationEntry where
  node : Node

namespace AnnotationEntry

def ofNode? (n : Node) : Option AnnotationEntry :=
  if n.kind = "annotation" ∨ n.kind = "file_annotation" then some ⟨n⟩ else none

/-- The constructor call of an annotation with arguments. -/
def invocation? (entry : AnnotationEntry) : Option Node :=
  entry.node.childOfKind? "constructor_invocation"

def type? (entry : AnnotationEntry) : Option Node :=
  (entry.node.childOfKind? "user_type").or
    (entry.invocation?.bind (·.childOfKind? "user_type"))

def name? (entry : AnnotationEntry) : Option String :=
  entry.type?.bind fun type => (type.childrenOfKind "identifier").getLast?.map Node.text

/-- The contents of the string literals among the arguments, level by level. -/
def strings (entry : AnnotationEntry) : List String :=
  match entry.invocation?.bind (·.childOfKind? "value_arguments") with
  | none => []
  | some arguments =>
    (arguments.descendantsOfKind "string_literal").map fun literal =>
      String.join ((literal.childrenOfKind "string_content").map Node.text)

def among (holder : Node) : List AnnotationEntry :=
  (holder.childrenOfKind "annotation").filterMap ofNode?

def ofDeclaration (declaration : Node) : List AnnotationEntry :=
  match declaration.childOfKind? "modifiers" with
  | none => []
  | some modifiers => among modifiers

def ofFile (root : Node) : List AnnotationEntry :=
  (root.childrenOfKind "file_annotation").filterMap ofNode?

end AnnotationEntry

end ComposeCheck
