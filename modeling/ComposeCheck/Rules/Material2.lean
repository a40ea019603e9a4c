import ComposeCheck.Rule

/-!
# Material 3 instead of Material 2

Imports from the Material 2 package are out of date. Its icons and ripples are shared with Material
3; the option `allowedFromM2` lists more that is fine, and `disallowMaterial2` turns the rule off.
-/

namespace ComposeCheck.Rules

/-- What an import takes from the Material 2 package; nothing stands for the package itself. -/
def belowMaterial2? (path : String) : Option String := do
  let rest ← Text.afterLead "androidx.compose.material" path
  if rest = "" then some rest else Text.afterLead "." rest

/-- Whether an import from the package is fine: by its first segment, its last, or as a whole. -/
def isAllowedFromMaterial2 (allowed : List String) (rest : String) : Bool :=
  let segments := Text.pieces (· == '.') rest
  segments.head?.any ["icons", "ripple"].contains || allowed.contains rest ||
    segments.getLast?.any allowed.contains

def material2 : Rule where
  code := "CL009"
  name := "material2"
  description := "Material 3 is used instead of Material 2"
  visit
    | .file root => do
      if !(← Options.flag "disallowMaterial2" true) then return
      let allowed ← Options.list "allowedFromM2" []
      let imports := (root.childrenOfKind "import").filter fun n =>
        n.named && ((n.childOfKind? "qualified_identifier").bind
          fun path => belowMaterial2? path.text).any fun rest =>
            !isAllowedFromMaterial2 allowed rest
      RuleM.tell (imports.map fun n => ⟨n, "Compose Material 2 (M2) is succeeded by Material 3 " ++
        "(M3). Please use M3 APIs.", none⟩)
    | _ => return

end ComposeCheck.Rules
