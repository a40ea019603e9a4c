import ComposeCheck.Rule

/-!
# No mutable parameters

Changes of a mutable collection are not seen by a composable, and a `MutableState` lets it change
what its caller owns.
-/

namespace ComposeCheck.Rules

def mutableParamMessage : String :=
  "Using mutable objects as state in Compose will cause your users to see incorrect or stale " ++
  "data in your app. Mutable objects that are not observable, such as `ArrayList` or a mutable " ++
  "data class, cannot be observed by Compose to trigger recomposition when they change."

def mutableTypes : List String :=
  ["MutableState", "MutableList", "MutableSet", "MutableMap", "MutableCollection", "ArrayList",
    "HashSet", "HashMap", "LinkedHashSet", "LinkedHashMap"]

/-- Finds parameters of mutable types. -/
def mutableParams : Rule where
  code := "CL019"
  name := "mutable-params"
  description := "Composables don't take mutable collections or `MutableState`"
  visit
    | .composable f => do
      let found := f.parameters.filter fun p => p.simpleTypeName?.any mutableTypes.contains
      RuleM.tell (found.map fun p => ⟨p.node, mutableParamMessage, none⟩)
    | _ => return

end ComposeCheck.Rules
