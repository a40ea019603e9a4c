import ComposeCheck.Kotlin.ModifierChain
import ComposeCheck.Rule

/-!
# Names of modifier parameters

The only modifier parameter is named `modifier`; of several, the others are named after the part
they belong to.
-/

namespace ComposeCheck.Rules

/-- What is said of a single modifier with another name. -/
def singleModifierMessage : String :=
  "Modifiers should be named `modifier` when there is only one modifier parameter."

/-- What is said of one modifier of several with another name. -/
def partModifierMessage : String :=
  "Modifiers applied to a part of the component should be named after that part, ending in " ++
  "`Modifier` (e.g. `iconModifier`)."

/-- Whether a modifier of several has a name that fits. -/
def isPartName (name : String) : Bool := name == "modifier" || Text.hasTail "Modifier" name

/-- Finds modifier parameters with other names. -/
def modifierNaming : Rule where
  code := "CL014"
  name := "modifier-naming"
  description := "Modifier parameters are named `modifier` or `xModifier`"
  visit
    | .composable f => do
      if f.hasFixedSignature then return
      let types ← ModifierTypes.read
      match f.parameters.filter types.isModifier with
      | [only] =>
        if only.name?.any (· != "modifier") then
          RuleM.tell [⟨only.node, singleModifierMessage, none⟩]
      | modifiers =>
        let misnamed := modifiers.filter fun p => p.name?.any fun name => !isPartName name
        RuleM.tell (misnamed.map fun p => ⟨p.node, partModifierMessage, none⟩)
    | _ => return

end ComposeCheck.Rules
