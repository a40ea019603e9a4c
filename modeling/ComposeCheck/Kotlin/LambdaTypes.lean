import ComposeCheck.Kotlin.FunctionDecl
import ComposeCheck.Options.Reading

/-!
# Types of lambdas

A type is that of a lambda if it is a function type, a `fun interface` of the file, a type alias
that leads to one of these, or a name that the options list. Whether the lambda is composable is
decided on the way: by the marker on the types, by the member of the interface, or by the option.
-/

namespace ComposeCheck

/-- What a file and the options say about the types of lambdas: its fun interfaces with whether
their member is composable, its aliases with their targets, and the names in the options. -/
structure LambdaTypes where
  funInterfaces : List (String × Bool)
  aliases : List (String × Node)
  lambdas : List String
  composables : List String

namespace LambdaTypes

/-- Whether a type carries the marker `@Composable`. -/
def isMarked (type : Node) : Bool :=
  (type.childOfKind? "type_modifiers").any fun modifiers =>
    (AnnotationEntry.among modifiers).any (·.name? == some "Composable")

/-- Whether a function type carries the marker, on itself or on its receiver. -/
def isMarkedFunction (type : Node) : Bool :=
  isMarked type || (type.hasToken "." && type.wrappedType?.any isMarked)

/-- The fun interfaces below a node, the last declaration first. -/
def funInterfacesIn (root : Node) : List (String × Bool) :=
  ((root.descendantsOfKind "class_declaration").filterMap fun declaration => do
    if !(declaration.hasToken "fun" && declaration.hasToken "interface") then none
    let name ← declaration.childOfKind? "identifier"
    let members := ((declaration.childOfKind? "class_body").map Node.children).getD []
    return (name.text, (members.filterMap FunctionDecl.ofNode?).any (·.isComposable))).reverse

/-- The type aliases below a node, the last declaration first. -/
def aliasesIn (root : Node) : List (String × Node) :=
  ((root.descendantsOfKind "type_alias").filterMap fun declaration => do
    let name ← declaration.childOfKind? "identifier"
    let target ← (← declaration.children.find? (Node.isToken "=")).nextNamed?
    return (name.text, target)).reverse

def collect (root : Node) (lambdas composables : List String) : LambdaTypes :=
  ⟨funInterfacesIn root, aliasesIn root, lambdas, composables⟩

/-- Collects the types of a file, with the names in the options. -/
def read (root : Node) : OptionM LambdaTypes := do
  let lambdas ← Options.set "treatAsLambda" []
  let composables ← Options.set "treatAsComposableLambda" []
  return collect root lambdas composables

def others (name : String) (aliases : List (String × Node)) : List (String × Node) :=
  aliases.filter fun entry => entry.1 != name

theorem length_others_lt {name : String} {target : Node} {aliases : List (String × Node)}
    (h : aliases.lookup name = some target) :
    (others name aliases).length < aliases.length := by
  unfold others
  induction aliases with
  | nil => simp at h
  | cons entry rest ih =>
    obtain ⟨other, value⟩ := entry
    have hle := List.length_filter_le (fun entry : String × Node => entry.1 != name) rest
    by_cases heq : name = other
    · subst heq
      simp only [bne_self_eq_false, Bool.false_eq_true, not_false_eq_true,
        List.filter_cons_of_neg, List.length_cons]
      omega
    · have hb : (name == other) = false := by simp [heq]
      rw [List.lookup_cons, hb] at h
      have hne : (other != name) = true := by simp [Ne.symm heq]
      simp only [List.filter_cons, hne, if_true, List.length_cons]
      have := ih h
      omega

/-- Whether a type is that of a lambda, and then whether that lambda is composable. Each alias is
followed at most once; `aliases` holds those that are left. -/
def resolveWith (types : LambdaTypes) (aliases : List (String × Node)) (type : Node) :
    Option Bool :=
  if type.kind = "function_type" then some (isMarkedFunction type)
  else if type.isTypeWrapper then
    match _h : type.wrappedType? with
    | some inner => (resolveWith types aliases inner).map (· || isMarked type)
    | none => none
  else if type.kind = "user_type" then
    match type.simpleTypeName? with
    | none => none
    | some name =>
      if types.composables.contains name then some true
      else if types.lambdas.contains name then some false
      else
        match types.funInterfaces.lookup name with
        | some composable => some composable
        | none =>
          match _h : aliases.lookup name with
          | some target => resolveWith types (others name aliases) target
          | none => none
  else none
termination_by (aliases.length, type.size)
decreasing_by
  · exact Prod.Lex.right _ (Node.size_lt_of_wrappedType? _h)
  · exact Prod.Lex.left _ _ (length_others_lt _h)

/-- Whether a type is that of a lambda, and then whether that lambda is composable. -/
def resolve (types : LambdaTypes) (type : Node) : Option Bool :=
  types.resolveWith types.aliases type

def isLambda (types : LambdaTypes) (type : Node) : Bool := (types.resolve type).isSome

def isComposableLambda (types : LambdaTypes) (type : Node) : Bool :=
  types.resolve type == some true

end LambdaTypes

end ComposeCheck
