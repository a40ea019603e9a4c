/-!
# Places in a text

A matcher that follows all its choices at once keeps the set of places that it may have come to.
A text of `n` items has `n + 1` places, from the one before its first item to the one behind its
last, and a set of them is a truth value for each place in order. Each part of a pattern takes such
a set to the set of places behind it, in time linear in the text.
-/

namespace ComposeCheck

/-- For each place of a text whether it is in the set. -/
abbrev Places := List Bool

namespace Places

variable {α : Type}

/-- The place before the first item only. -/
def start (text : List α) : Places := true :: text.map fun _ => false

def none (text : List α) : Places := false :: text.map fun _ => false

/-- The places of two sets together. -/
def union : Places → Places → Places := List.zipWith (· || ·)

def isInhabited (places : Places) : Bool := places.any id

/-- The places behind one item with a property. -/
def step (holds : α → Bool) (text : List α) (places : Places) : Places :=
  false :: List.zipWith (fun here item => here && holds item) places text

/-- The places behind any number of items with a property; `before` says whether the place before
the text that is left is one of them. -/
def spreadFrom (holds : α → Bool) : (before : Bool) → List α → Places → Places
  | _, _, [] => []
  | before, text, here :: places =>
    let reached := here || before
    match text with
    | [] => [reached]
    | item :: text => reached :: spreadFrom holds (reached && holds item) text places

/-- The places behind any number of items with a property. -/
def spread (holds : α → Bool) (text : List α) (places : Places) : Places :=
  spreadFrom holds false text places

/-- The place behind the last item, if the set has a place. -/
def finish (text : List α) (places : Places) : Places :=
  (text.map fun _ => false) ++ [places.isInhabited]

/-- Whether the place behind the last item is in the set. -/
def isAtEnd (places : Places) : Bool := places.getLastD false

end Places

end ComposeCheck
