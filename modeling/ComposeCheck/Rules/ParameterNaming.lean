import ComposeCheck.Kotlin.LambdaTypes
import ComposeCheck.Rule
import ComposeCheck.Suppression

/-!
# Events in the present tense

A lambda for an event is named for what happens, not for what has happened: `onClick`, not
`onClicked`.
-/

namespace ComposeCheck.Rules

/-- Past forms that do not end in `ed`, less those that read the same in the present. -/
def irregularPast : List String :=
  ["Ate", "Began", "Blew", "Bought", "Broke", "Brought", "Built", "Came", "Caught", "Chose",
    "Dealt", "Did", "Drank", "Drew", "Drove", "Fell", "Felt", "Flew", "Forgot", "Fought", "Found",
    "Froze", "Gave", "Got", "Grew", "Heard", "Held", "Hid", "Kept", "Knew", "Laid", "Lost",
    "Made", "Meant", "Paid", "Ran", "Rang", "Rode", "Said", "Sang", "Sank", "Saw", "Sent",
    "Shook", "Shot", "Showed", "Slept", "Sold", "Spent", "Spoke", "Stood", "Stole", "Struck",
    "Swam", "Swept", "Swung", "Taught", "Threw", "Told", "Took", "Tore", "Thought", "Understood",
    "Went", "Woke", "Won", "Wore", "Wrote"]

/-- Words in `ed` that are no past forms. -/
def notPast : List String :=
  ["Bed", "Bleed", "Breed", "Embed", "Exceed", "Feed", "Need", "Proceed", "Red", "Seed", "Shed",
    "Shred", "Speed", "Succeed"]

def lastWord (name : String) : String :=
  let tail := name.toList.reverse.takeWhile fun c => !Text.isUpper c
  match name.toList.reverse.drop tail.length with
  | [] => name
  | upper :: _ => String.ofList (upper :: tail.reverse)

def isPastTense (word : String) : Bool :=
  irregularPast.contains word ||
    (word.utf8ByteSize > 3 && Text.hasTail "ed" word && !notPast.contains word)

def isEventName (name : String) : Bool := (Text.afterLead "on" name).any Text.startsUpper

/-- Finds events in the past tense. -/
def parameterNaming : Rule where
  code := "CL021"
  name := "parameter-naming"
  description := "Event lambda parameters are named in present tense"
  visit
    | .composable f => do
      if f.hasInheritedSignature then return
      let types ← LambdaTypes.read f.node.root
      RuleM.tell (f.parameters.filterMap fun p => do
        let name ← p.name?
        let type ← p.type?
        let word := lastWord name
        if isEventName name && types.isLambda type && !types.isComposableLambda type &&
            isPastTense word then
          some ⟨p.node, "Lambda parameters in a composable function should be in present tense, " ++
            s!"not past tense (`{name}` ends in `{word}`). Examples: `onClick` and not " ++
            "`onClicked`, `onTextChange` and not `onTextChanged`.", none⟩
        else none)
    | _ => return

end ComposeCheck.Rules
