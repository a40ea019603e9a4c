import ComposeCheck.Rule

/-!
# Previews are private

A preview is for the development environment and nobody should call it. The fix makes it private.
-/

namespace ComposeCheck.Rules

def previewPublicMessage : String :=
  "Composables annotated with @Preview that are used only for previewing the UI should not be " ++
  "public."

/-- The edits that make a function private: its visibility is replaced, or written before `fun`. -/
def makePrivate (f : FunctionDecl) : List Edit :=
  match (f.node.childOfKind? "modifiers").bind (·.childOfKind? "visibility_modifier") with
  | some visibility => [.replace visibility "private"]
  | none =>
    match f.node.children.find? (Node.isToken "fun") with
    | some keyword => [.replace keyword "private fun"]
    | none => []

/-- Finds public previews, and makes them private. -/
def previewPublic : Rule where
  code := "CL023"
  name := "preview-public"
  description := "Previews are private"
  visit
    | .composable f => do
      if f.isPreview && f.visibility = .everywhere then
        discard <| RuleM.offer ⟨f.node, previewPublicMessage, some (makePrivate f)⟩
    | _ => return

end ComposeCheck.Rules
