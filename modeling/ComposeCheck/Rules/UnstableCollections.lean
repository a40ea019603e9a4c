import ComposeCheck.Rule

/-!
# Immutable collections

The compiler cannot tell whether a parameter of a collection interface changes. This is a warning
only.
-/

namespace ComposeCheck.Rules

/-- Finds parameters whose type is a collection interface. -/
def unstableCollections : Rule where
  code := "CL025"
  name := "unstable-collections"
  description := "Composables take immutable collections"
  severity := .warning
  visit
    | .composable f => do
      RuleM.tell (f.parameters.filterMap fun p => do
        let type ← p.simpleTypeName?
        let name := p.name?.getD "items"
        let written := p.typeText?.getD type
        if ["Collection", "List", "Set", "Map"].contains type then
          some ⟨p.node, "The Compose Compiler cannot infer the stability of a parameter if a " ++
            s!"{type} is used in it, even if the item type is stable. Use Kotlinx Immutable " ++
            s!"Collections instead (`{name}: Immutable{type}`) or wrap it in an `@Immutable` " ++
            s!"class holding `{written}`.", none⟩
        else none)
    | _ => return

end ComposeCheck.Rules
