import ComposeCheck.Kotlin.LambdaTypes
import ComposeCheck.Kotlin.Reference
import ComposeCheck.Kotlin.Shadowing
import ComposeCheck.Rule
import ComposeCheck.Suppression

/-!
# Content slots are used once

A composable lambda that is called or handed on at several places loses its state when the code path
changes. Uses inside movable content do not count.
-/

namespace ComposeCheck.Rules

/-- Whether a reference calls a slot, by parentheses or by `invoke`, or hands it on. -/
def isSlotUse (reference : Node) : Bool :=
  match reference.parent? with
  | none => false
  | some parent =>
    if parent.kind = "value_argument" then true
    else if parent.kind = "call_expression" then parent.firstNamedChild?.any (· == reference)
    else if parent.kind = "navigation_expression" then
      parent.namedChildren.getLast?.any (·.text == "invoke") &&
        parent.parent?.any (·.kind == "call_expression")
    else false

/-- Whether a reference stands inside movable content below the boundary. -/
def isInMovableContent (reference boundary : Node) : Bool :=
  ((reference.ancestorsBelow boundary).filterMap Call.ofNode?).any fun call =>
    call.name?.any ["movableContentOf", "movableContentWithReceiverOf"].contains

def slotUses (f : FunctionDecl) (body : Node) (name : String) : List Node :=
  (body.references name).filter fun reference =>
    isSlotUse reference && !reference.isShadowed name f.node &&
      !isInMovableContent reference f.node

/-- Finds composable lambdas that are used more than once. -/
def contentSlotReused : Rule where
  code := "CL005"
  name := "content-slot-reused"
  description := "Composable content slots are invoked at most once"
  visit
    | .composable f => do
      match f.body? with
      | none => return
      | some body =>
        let types ← LambdaTypes.read f.node.root
        RuleM.tell (f.parameters.filterMap fun p => do
          let name ← p.name?
          let type ← p.type?
          if !types.isComposableLambda type then none
          let uses := (slotUses f body name).length
          if uses > 1 then
            some ⟨p.node, s!"The composable lambda `{name}` is used in {uses} places. Content " ++
              "slots should not be reused in different code paths, as their state is lost every " ++
              "time the code path changes. Use `movableContentOf` to move the content between " ++
              "code paths instead.", none⟩
          else none)
    | _ => return

end ComposeCheck.Rules
