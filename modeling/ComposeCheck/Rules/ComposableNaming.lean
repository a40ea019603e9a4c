import ComposeCheck.NamePattern.Listed
import ComposeCheck.Rule

/-!
# Names of composables

A composable that returns nothing is a noun and starts in upper case; one that returns a value is
like any other function and starts in lower case. A function with a body after `=` and no declared
type may be either. The option `allowedComposableFunctionNames` lists names that are always fine.
-/

namespace ComposeCheck.Rules

/-- What is said of a composable that returns nothing and starts in lower case. -/
def unitNamingMessage : String :=
  "Composable functions that return Unit should start with an uppercase letter. They are " ++
  "considered declarative entities that can be either emitted in a composition or be part of " ++
  "the composition of other composables, and as such are nouns and should be capitalized."

/-- What is said of a composable that returns a value and starts in upper case. -/
def valueNamingMessage : String :=
  "Composable functions that return a value should start with a lowercase letter. While useful " ++
  "and accepted outside of @Composable functions, this factory function convention has " ++
  "drawbacks that set inappropriate expectations for callers."

def namingMessage? (f : FunctionDecl) (name : String) : Option String :=
  if f.returnsValue then
    if Text.startsUpper name then some valueNamingMessage else none
  else
    let inferred := f.returnType?.isNone && f.expression?.isSome
    if !inferred && Text.startsLower name then some unitNamingMessage else none

def composableNaming : Rule where
  code := "CL001"
  name := "composable-naming"
  description := "Unit composables are PascalCase, value-returning composables are camelCase"
  visit
    | .composable f => do
      if f.hasInheritedSignature || f.hasKeyword "operator" then return
      match f.name? with
      | none => return
      | some name =>
        let allowed ← Pattern.readOption "allowedComposableFunctionNames" []
        if Pattern.matchesAny allowed name then return
        RuleM.tell ((namingMessage? f name).map fun message => ⟨f.node, message, none⟩).toList
    | _ => return

end ComposeCheck.Rules
