import ComposeCheck.Kotlin.ModifierChain
import ComposeCheck.Rule

/-!
# Clicks come after shapes

In a modifier chain `clickable` and its kin come after what gives the shape, or the click indication
ignores the shape.
-/

namespace ComposeCheck.Rules

def isClickable (call : Call) : Bool :=
  call.name?.any ["clickable", "combinedClickable", "selectable", "toggleable",
    "triStateToggleable"].contains

/-- Whether a call gives a shape: `clip`, or `background` with a shape. -/
def setsShape (call : Call) : Bool :=
  call.name? == some "clip" ||
    (call.name? == some "background" &&
      (call.arguments.length ≥ 2 || (call.argumentNamed? "shape").isSome))

def looksLikeModifier (name : String) : Bool := name == "Modifier" || Text.hasTail "odifier" name

/-- Whether a node is the last call of a chain that starts at a modifier. -/
def isModifierChain (n : Node) : Bool :=
  n.kind == "call_expression" && !n.parent?.any (·.kind == "navigation_expression") &&
    n.chainRoot.kind == "identifier" && looksLikeModifier n.chainRoot.text

/-- The first clickable call of a chain, and the first call after it that gives a shape. -/
def clickBeforeShape? (chain : Node) : Option (Call × Call) :=
  match chain.chainCalls.dropWhile fun call => !isClickable call with
  | [] => none
  | click :: later => (later.find? setsShape).map fun shape => (click, shape)

/-- Finds clickable calls before a shape. -/
def modifierClickableOrder : Rule where
  code := "CL010"
  name := "modifier-clickable-order"
  description := "`clickable` comes after `clip` and shaped `background` in a modifier chain"
  visit
    | .file root => do
      RuleM.tell (((root.descendants.filter isModifierChain).filterMap clickBeforeShape?).map
        fun (click, shape) =>
          let clickable := click.name?.getD ""
          let shaping := shape.name?.getD ""
          ⟨click.node, s!"`{clickable}` is applied before `{shaping}`, so the click indication " ++
            s!"ignores the shape. Move `{shaping}` before `{clickable}` in the modifier chain.",
            none⟩)
    | _ => return

end ComposeCheck.Rules
