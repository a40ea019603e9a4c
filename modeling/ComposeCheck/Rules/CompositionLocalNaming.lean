import ComposeCheck.Kotlin.CompositionLocal
import ComposeCheck.Rule

/-!
# Names of composition locals

A composition local is named `LocalX`.
-/

namespace ComposeCheck.Rules

def compositionLocalNaming : Rule where
  code := "CL003"
  name := "composition-local-naming"
  description := "CompositionLocals are named with a `Local` prefix"
  visit
    | .file root => do
      let named := (Property.allIn root).filter fun p =>
        p.isCompositionLocal && p.name?.any fun name => !Text.hasLead "Local" name
      RuleM.tell (named.map fun p => ⟨p.node, "CompositionLocals should be named using the " ++
        "`Local` prefix as an adjective, followed by a descriptive noun.", none⟩)
    | _ => return

end ComposeCheck.Rules
