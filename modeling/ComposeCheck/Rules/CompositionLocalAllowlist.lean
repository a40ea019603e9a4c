import ComposeCheck.Kotlin.CompositionLocal
import ComposeCheck.Rule

/-!
# Allowed composition locals

Composition locals are implicit dependencies, so new ones have to be listed in the option
`allowedCompositionLocals`.
-/

namespace ComposeCheck.Rules

def compositionLocalAllowlist : Rule where
  code := "CL002"
  name := "composition-local-allowlist"
  description := "Only allow-listed CompositionLocals may be declared"
  visit
    | .file root => do
      let allowed ← Options.set "allowedCompositionLocals" []
      RuleM.tell (((Property.allIn root).filter (·.isCompositionLocal)).filterMap fun p => do
        let name ← p.name?
        if allowed.contains name then none
        else some ⟨p.node, "CompositionLocals are implicit dependencies of composables and " ++
          s!"creating new ones should be avoided. If `{name}` is really needed, add it to " ++
          "`allowedCompositionLocals`.", none⟩)
    | _ => return

end ComposeCheck.Rules
