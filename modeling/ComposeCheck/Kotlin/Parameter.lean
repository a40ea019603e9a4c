import ComposeCheck.Kotlin.AnnotationEntry
import ComposeCheck.Kotlin.TypeName

/-!
# Value parameters

In the tree a parameter's modifiers and its default stand beside it in the parameter list:
`parameter_modifiers`, then `parameter`, then `=` and the default. Reading a list puts the three
together again.
-/

namespace ComposeCheck

/-- A value parameter with its default and the node that holds its modifiers. -/
structure Parameter where
  node : Node
  default? : Option Node
  modifiers? : Option Node

namespace Parameter

/-- What has been read of a parameter list: the parameters so far, the last first, the modifiers
waiting for their parameter, and whether an `=` waits for its default. -/
structure Reading where
  found : List Parameter
  modifiers? : Option Node
  awaitsDefault : Bool

/-- Takes in one child of a parameter list; comments change nothing. -/
def Reading.step (state : Reading) (child : Node) : Reading :=
  if child.isComment then state
  else if child.kind = "parameter_modifiers" then { state with modifiers? := some child }
  else if child.kind = "parameter" then
    { state with found := ⟨child, none, state.modifiers?⟩ :: state.found, modifiers? := none }
  else if child.isToken "=" then { state with awaitsDefault := true }
  else if child.isToken "," || child.isToken "(" || child.isToken ")" then
    { state with awaitsDefault := false }
  else if state.awaitsDefault && child.named then
    match state.found with
    | [] => { state with awaitsDefault := false }
    | last :: earlier =>
      { state with
        found := { last with default? := some child } :: earlier
        awaitsDefault := false }
  else state

def allIn (list : Node) : List Parameter :=
  (list.children.foldl Reading.step ⟨[], none, false⟩).found.reverse

def nameNode? (p : Parameter) : Option Node := p.node.childOfKind? "identifier"

def name? (p : Parameter) : Option String := p.nameNode?.map Node.text

def type? (p : Parameter) : Option Node :=
  p.node.namedChildren.find? fun c => c.kind != "identifier"

def typeText? (p : Parameter) : Option String := p.type?.map Node.text

def simpleTypeName? (p : Parameter) : Option String := p.type?.bind Node.simpleTypeName?

def isNullable (p : Parameter) : Bool := p.type?.any (·.kind == "nullable_type")

/-- Whether the type is one of the modifier types that every project has. -/
def isModifier (p : Parameter) : Bool :=
  p.simpleTypeName?.any ["Modifier", "GlanceModifier"].contains

def hasDefault (p : Parameter) : Bool := p.default?.isSome

def annotations (p : Parameter) : List AnnotationEntry :=
  (p.modifiers?.map AnnotationEntry.among).getD []

/-- Whether the parameter is `vararg`. -/
def isVararg (p : Parameter) : Bool :=
  p.modifiers?.any fun modifiers =>
    (modifiers.childrenOfKind "parameter_modifier").any (·.text == "vararg")

/-- Whether a type is a function type, through nullability and parentheses. -/
def isFunctionType (type : Node) : Bool :=
  if type.kind = "function_type" then true
  else if type.isTypeWrapper then
    match _h : type.wrappedType? with
    | some inner => isFunctionType inner
    | none => false
  else false
termination_by type.size
decreasing_by exact Node.size_lt_of_wrappedType? _h

def isFunctionTyped (p : Parameter) : Bool := p.type?.any isFunctionType

end Parameter

end ComposeCheck
