import ComposeCheck.Kotlin.ModifierUsage
import ComposeCheck.Rule

/-!
# The modifier is used once

A composable hands its modifier to one call only, unless the calls stand in different branches.
-/

namespace ComposeCheck.Rules

/-- What is said of a call that shares the modifier. -/
def modifierReusedMessage : String :=
  "Modifiers should only be used once and by the root level layout of a Composable. This " ++
  "modifier is also used by another composable in this function."

/-- The child of a node in which another node lies. -/
def branchOf? (above n : Node) : Option Node :=
  above.namedChildren.find? fun c => c == n || c.isAncestorOf n

/-- Whether two nodes lie in different branches of one condition. -/
def areExclusive (a b : Node) : Bool :=
  if a.isAncestorOf b || b.isAncestorOf a then false
  else
    match a.ancestors.find? (·.isAncestorOf b) with
    | none => false
    | some common =>
      match branchOf? common a, branchOf? common b with
      | some left, some right =>
        if common.kind = "if_expression" then
          !(left == right) && !common.firstNamedChild?.any fun c => c == left || c == right
        else if common.kind = "when_expression" then
          !(left == right) && left.kind == "when_entry" && right.kind == "when_entry"
        else false
      | _, _ => false

/-- The entries of a list, each with the entries at the other places. -/
def withOthers {α : Type} : List α → List α → List (α × List α)
  | _, [] => []
  | before, a :: after => (a, before ++ after) :: withOthers (before ++ [a]) after

/-- Finds calls that share a modifier with another call. -/
def modifierReused : Rule where
  code := "CL016"
  name := "modifier-reused"
  description := "The modifier parameter is applied once"
  visit
    | .composable f => do
      let calls := (← f.modifierUsages).map (·.call.node)
      let shared := (withOthers [] calls).filter fun (call, others) =>
        others.any fun other => !areExclusive call other
      RuleM.tell (shared.map fun (call, _) => ⟨call, modifierReusedMessage, none⟩)
    | _ => return

end ComposeCheck.Rules
