import ComposeCheck.Kotlin.ModifierChain
import ComposeCheck.Rule

/-!
# Modifier parameters have a default

Callers should be able to leave the modifier out. Nullable modifiers and signatures that are
dictated elsewhere are left alone. The fix writes the default behind the parameter.
-/

namespace ComposeCheck.Rules

/-- What is said of a modifier parameter without a default. -/
def modifierDefaultMessage : String :=
  "This @Composable function has a modifier parameter but it doesn't have a default value. Add " ++
  "`= Modifier` as its default."

/-- Finds modifier parameters without a default, and adds it. -/
def modifierWithoutDefault : Rule where
  code := "CL017"
  name := "modifier-without-default"
  description := "Modifier parameters default to `Modifier`"
  visit
    | .composable f => do
      if f.hasFixedSignature then return
      let types ← ModifierTypes.read
      let missing := f.parameters.filter fun p =>
        types.isModifier p && !p.isNullable && !p.hasDefault
      discard <| RuleM.offerAll (missing.map fun p => ⟨p.node, modifierDefaultMessage,
        some [.append p.node (" = " ++ ModifierTypes.defaultFor p)]⟩)
    | _ => return

end ComposeCheck.Rules
