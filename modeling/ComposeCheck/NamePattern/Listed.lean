import ComposeCheck.NamePattern.Meaning
import ComposeCheck.NamePattern.Reader
import ComposeCheck.NamePattern.Size
import ComposeCheck.Options.Reading

/-!
# Patterns in options

An option may list patterns that a whole name has to match. What is no pattern, or too large a one,
is left out.
-/

namespace ComposeCheck.Pattern

def read? (text : List Char) : Option Pattern := do
  let (p, _) ← (← WrittenPattern.read? text).meaning? {}
  if p.isTooLarge then none else some p

/-- Reads a pattern that a whole name has to match. -/
def readName? (text : String) : Option Pattern :=
  read? ("^(?:".toList ++ text.toList ++ ")$".toList)

/-- Reads an option that lists name patterns; what is no pattern is left out. -/
def readOption (name : String) (default : List String) : OptionM (List Pattern) := do
  return (← Options.list name default).filterMap readName?

def matchesAny (patterns : List Pattern) (name : String) : Bool :=
  patterns.any (·.isFoundIn name)

end ComposeCheck.Pattern
