import ComposeCheck.Kotlin.Property

/-!
# Composition locals

A property is a composition local if its value comes from one of the factories. The grammar may
read a factory call with type arguments as a comparison, so the leftmost operand decides.
-/

namespace ComposeCheck

/-- The operand from which a chain of calls and comparisons starts. -/
def Node.leftOperand? (n : Node) : Option Node :=
  if n.kind = "identifier" then some n
  else if n.kind = "call_expression" ∨ n.kind = "binary_expression" then
    match _h : n.firstNamedChild? with
    | some inner => leftOperand? inner
    | none => none
  else none
termination_by n.size
decreasing_by exact Node.size_lt_of_firstNamedChild? _h

namespace Property

def isCompositionLocal (p : Property) : Bool :=
  (p.value?.bind Node.leftOperand?).any fun operand =>
    ["compositionLocalOf", "staticCompositionLocalOf",
      "compositionLocalWithComputedDefaultOf"].contains operand.text

end Property

end ComposeCheck
