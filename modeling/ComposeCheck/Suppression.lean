import ComposeCheck.Kotlin.AnnotationEntry

/-!
# Suppressed findings

`@Suppress` and `@SuppressWarnings` name rules that say nothing about a declaration and what is
inside it, or about the whole file.
-/

namespace ComposeCheck

def AnnotationEntry.suppresses (ids : List String) (entry : AnnotationEntry) : Bool :=
  (entry.name? == some "Suppress" || entry.name? == some "SuppressWarnings") &&
    entry.strings.any ids.contains

def Node.root (n : Node) : Node := n.ancestors.getLast?.getD n

/-- Whether one of the ids is suppressed at a node: by an annotation of the node, of a declaration
around it, or of the file. -/
def Node.isSuppressed (ids : List String) (n : Node) : Bool :=
  (n :: n.ancestors).any (fun scope =>
      (AnnotationEntry.ofDeclaration scope).any (·.suppresses ids)) ||
    (AnnotationEntry.ofFile n.root).any (·.suppresses ids)

end ComposeCheck
