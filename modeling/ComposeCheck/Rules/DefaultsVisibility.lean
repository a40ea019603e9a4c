import ComposeCheck.Emission
import ComposeCheck.Kotlin.Reference
import ComposeCheck.Rule

/-!
# Visibility of defaults objects

An object named `XDefaults` is at least as visible as the composables that use it in the defaults of
their parameters.
-/

namespace ComposeCheck.Rules

/-- The defaults objects of a file by name; of two with one name the last counts. -/
def defaultsObjects (root : Node) : List (String × Node) :=
  ((root.descendantsOfKind "object_declaration").filterMap fun declaration => do
    let name := (← declaration.childOfKind? "identifier").text
    if Text.hasTail "Defaults" name then some (name, declaration) else none).reverse

def objectsUsed (objects : List (String × Node)) (default : Node) : List Node :=
  (default :: default.descendants).filterMap fun n =>
    if n.kind == "identifier" && n.isReference then objects.lookup n.text else none

/-- The defaults objects that are less visible than a composable using them, each with such a
composable, in the order of the uses. -/
def hiddenDefaults (objects : List (String × Node)) (components : List FunctionDecl) :
    List (Node × FunctionDecl) :=
  components.flatMap fun f =>
    let used := (f.parameters.filterMap (·.default?)).flatMap (objectsUsed objects)
    used.filterMap fun declaration =>
      if (Visibility.ofDeclaration declaration).rank < f.visibility.rank then some (declaration, f)
      else none

def firstOfEach :
    List (Node × FunctionDecl) → List (Node × FunctionDecl) → List (Node × FunctionDecl)
  | _, [] => []
  | seen, entry :: rest =>
    if seen.any fun other => other.1 == entry.1 then firstOfEach seen rest
    else entry :: firstOfEach (entry :: seen) rest

/-- What is said of a defaults object and a composable that uses it. -/
def hiddenDefaultsMessage (declaration : Node) (f : FunctionDecl) : String :=
  let objectName := ((declaration.childOfKind? "identifier").map Node.text).getD ""
  let narrow := (Visibility.ofDeclaration declaration).keyword
  let wide := f.visibility.keyword
  let user := f.name?.getD ""
  s!"`{objectName}` is {narrow} but is used by the {wide} composable `{user}`. Defaults objects " ++
    "should be at least as visible as the composables using them."

/-- Finds defaults objects that are not visible enough. -/
def defaultsVisibility : Rule where
  code := "CL007"
  name := "defaults-visibility"
  description := "`XDefaults` objects are at least as visible as the composables using them"
  visit
    | .file root => do
      let hidden := hiddenDefaults (defaultsObjects root) (EmissionCounter.componentsIn root)
      RuleM.tell ((firstOfEach [] hidden).map fun (declaration, f) =>
        ⟨declaration, hiddenDefaultsMessage declaration f, none⟩)
    | _ => return

end ComposeCheck.Rules
