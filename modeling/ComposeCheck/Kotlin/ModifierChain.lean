import ComposeCheck.Kotlin.FunctionDecl
import ComposeCheck.Kotlin.Property
import ComposeCheck.Options.Reading

/-!
# Modifier chains

A chain such as `modifier.padding(4.dp).clickable { }` starts at its root expression and applies
its calls from left to right. A local whose initializer is a chain that starts at a modifier is an
alias of that modifier.
-/

namespace ComposeCheck

namespace Node

/-- Whether a node is a link of a chain, whose first named child is what it is applied to. -/
def isChainLink (n : Node) : Bool :=
  ["call_expression", "navigation_expression", "parenthesized_expression"].contains n.kind

def chainRoot (n : Node) : Node :=
  if n.isChainLink then
    match _h : n.firstNamedChild? with
    | some inner => chainRoot inner
    | none => n
  else n
termination_by n.size
decreasing_by exact size_lt_of_firstNamedChild? _h

/-- The calls of a chain in the order in which they apply. -/
def chainCalls (n : Node) : List Call :=
  let own := (Call.ofNode? n).toList
  if n.isChainLink then
    match _h : n.firstNamedChild? with
    | some inner => chainCalls inner ++ own
    | none => own
  else own
termination_by n.size
decreasing_by exact size_lt_of_firstNamedChild? _h

def startsAtAny (names : List String) (n : Node) : Bool :=
  n.chainRoot.kind == "identifier" && names.contains n.chainRoot.text

end Node

/-- The locals whose initializer starts at one of the names. -/
def derivedFrom (names : List String) (locals : List (String × Node)) : List (String × Node) :=
  locals.filter fun entry => entry.2.startsAtAny names

/-- The locals whose initializer starts at none of the names. -/
def notDerivedFrom (names : List String) (locals : List (String × Node)) : List (String × Node) :=
  locals.filter fun entry => !entry.2.startsAtAny names

/-- Adds the names of the locals that are derived from the names, then those of the locals derived
from the new names, until no local is left that is. -/
def growAliases (names : List String) (locals : List (String × Node)) : List String :=
  if (notDerivedFrom names locals).length < locals.length then
    growAliases (names ++ (derivedFrom names locals).map (·.1)) (notDerivedFrom names locals)
  else names
termination_by locals.length

/-- A name and every local in the scope that is derived from it. -/
def modifierNames (scope : Node) (initial : String) : List String :=
  let locals := (Property.allIn scope).filterMap fun p => do return (← p.name?, ← p.initializer?)
  (growAliases [initial] locals).eraseDups

/-- The types of modifiers: the ones that every project has, and the project's own. -/
structure ModifierTypes where
  custom : List String

namespace ModifierTypes

/-- Reads the option `customModifiers`. -/
def read : OptionM ModifierTypes := return ⟨← Options.set "customModifiers" []⟩

def isModifier (types : ModifierTypes) (p : Parameter) : Bool :=
  p.isModifier || p.simpleTypeName?.any types.custom.contains

/-- The first modifier among a function's parameters. -/
def parameterOf? (types : ModifierTypes) (f : FunctionDecl) : Option Parameter :=
  f.parameters.find? types.isModifier

def defaultFor (p : Parameter) : String :=
  if p.simpleTypeName? = some "GlanceModifier" then "GlanceModifier" else "Modifier"

end ModifierTypes

end ComposeCheck
