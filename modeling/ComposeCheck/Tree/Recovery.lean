import ComposeCheck.Tree.Parse
import ComposeCheck.Tree.Source

/-!
# Declarations misread as expressions

At the top level of a file the grammar sometimes reads a declaration as an expression statement: an
annotated `public fun` becomes a call, `@Suppress("X")` splits into an annotation and an expression
in parentheses. Inside a class body it does not. So each run of such statements is parsed again
between the braces of a class, and the members of that class take the place of the run, moved back
to the offsets they have in the file.
-/

namespace ComposeCheck.Recovery

/-- What is written before a run to parse it as class members. -/
def opening : String := "class Recovered \x7b"

/-- What is written after a run. -/
def closing : String := "\n\x7d"

/-- Words that can open a declaration but also read as plain identifiers. -/
def declarationModifiers : List String :=
  ["public", "private", "protected", "internal", "abstract", "final", "open", "override", "sealed",
    "data", "enum", "inline", "value", "suspend", "tailrec", "operator", "infix", "external",
    "expect", "actual", "const", "lateinit"]

/-- The kinds of top-level declarations. -/
def isDeclaration (t : ParseTree) : Bool :=
  ["function_declaration", "class_declaration", "object_declaration", "property_declaration",
    "type_alias"].contains t.label.kind

/-- Whether a top-level statement is really a declaration, or part of one. -/
def isMisread (source : Source) (t : ParseTree) : Bool :=
  if t.label.kind = "annotated_expression" then true
  else if !t.label.named || t.label.extra || isDeclaration t then false
  else if ["package_header", "import", "file_annotation"].contains t.label.kind then false
  else
    declarationModifiers.contains (source.textBetween t.leftmost.start t.leftmost.stop)

def dropTrailingExtras (ts : List ParseTree) : List ParseTree :=
  (ts.reverse.dropWhile (·.label.extra)).reverse

/-- How many of the statements after a misread one belong to its run: misread ones with the extras
between them, then the declaration that a trailing detached annotation belongs to, if one
follows. -/
def followers (source : Source) (rest : List ParseTree) : Nat :=
  let run := dropTrailingExtras (rest.takeWhile fun t => isMisread source t || t.label.extra)
  let after := rest.drop run.length
  let gap := (after.takeWhile (·.label.extra)).length
  match after[gap]? with
  | some next => if isDeclaration next then run.length + gap + 1 else run.length
  | none => run.length

/-- Moves a tree from an offset in one text to an offset in another. -/
def move (origin target : Nat) (t : ParseTree) : ParseTree :=
  t.map fun shape =>
    { shape with start := shape.start - origin + target, stop := shape.stop - origin + target }

def childOfKind? (kind : String) (t : ParseTree) : Option ParseTree :=
  t.children.find? (·.label.kind = kind)

/-- The members of the class that a run was wrapped in: the nodes of its body that lie inside the
run. There are none if the text did not parse cleanly. -/
def members? (parse : Parse) (length : Nat) : Option (List ParseTree) := do
  if parse.hasError then none
  let holder ← childOfKind? "class_declaration" parse.root
  let body ← childOfKind? "class_body" holder
  let first := opening.utf8ByteSize
  let inside (offset : Nat) : Bool := first ≤ offset && offset ≤ first + length
  let members := body.children.filter fun t => inside t.label.start && inside t.label.stop
  if members.isEmpty then none else some members

/-- The text of a run, from the start of its first statement to the end of its last. -/
def segment (source : Source) (run : List ParseTree) : String :=
  match run.head?, run.getLast? with
  | some first, some last => source.textBetween first.label.start last.label.stop
  | _, _ => ""

/-- What takes the place of a run: the members it parses to as a class body, or the run itself if
they cannot be read. -/
def replacement (parser : Parser) (source : Source) (run : List ParseTree) : List ParseTree :=
  let text := segment source run
  let start := (run.head?.map (·.label.start)).getD 0
  match (parser (opening ++ text ++ closing)).bind (members? · text.utf8ByteSize) with
  | some members => members.map (move opening.utf8ByteSize start)
  | none => run

/-- The top-level statements with every run replaced. -/
def statements (parser : Parser) (source : Source) : List ParseTree → List ParseTree
  | [] => []
  | t :: ts =>
    if isMisread source t then
      replacement parser source (t :: ts.take (followers source ts)) ++
        statements parser source (ts.drop (followers source ts))
    else t :: statements parser source ts
termination_by ts => ts.length
decreasing_by
  · simp only [List.length_drop, List.length_cons]
    omega
  · simp

/-- A file's tree with its misread declarations recovered. -/
def recover (parser : Parser) (source : Source) : ParseTree → ParseTree
  | .node shape ts => .node shape (statements parser source ts)

end ComposeCheck.Recovery
