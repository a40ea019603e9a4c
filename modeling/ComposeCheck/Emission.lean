import ComposeCheck.Decimal.Bounds
import ComposeCheck.Kotlin.ModifierChain
import ComposeCheck.Text.Letters

/-!
# How much a composable emits

The direct count of a composable looks at its own statements: a call that emits counts one, a loop
whose body emits counts two, and of the branches of a condition the largest counts. Calls of other
composables of the file add what those emit; the counts are refined until they stay the same, for at
most as many passes as there are composables. The program keeps counts in words of 64 bits and fails
on a sum that is too large for one (`EmissionCounter.overflows`).
-/

namespace ComposeCheck

/-- Which calls emit content: names added to the known ones, and names that never emit. -/
structure ContentEmitters where
  extra : List String
  denied : List String

namespace ContentEmitters

/-- Composables that emit one node of the interface. -/
def known : List String :=
  ["AlertDialog", "AndroidView", "BasicText", "BasicTextField", "Box", "BoxWithConstraints",
    "Button", "Canvas", "Card", "Checkbox", "CircularProgressIndicator", "Column",
    "ConstraintLayout", "DropdownMenu", "DropdownMenuItem", "ElevatedButton", "ElevatedCard",
    "ExtendedFloatingActionButton", "FilledTonalButton", "FloatingActionButton",
    "HorizontalDivider", "HorizontalPager", "Icon", "IconButton", "IconToggleButton", "Image",
    "LazyColumn", "LazyHorizontalGrid", "LazyRow", "LazyVerticalGrid", "LazyVerticalStaggeredGrid",
    "LinearProgressIndicator", "ListItem", "ModalBottomSheet", "NavigationBar",
    "NavigationBarItem", "NavigationRail", "OutlinedButton", "OutlinedCard", "OutlinedTextField",
    "RadioButton", "Row", "Scaffold", "Slider", "SnackbarHost", "Spacer", "Surface", "Switch",
    "Tab", "TabRow", "Text", "TextButton", "TextField", "TopAppBar", "VerticalDivider",
    "VerticalPager"]

/-- `Spacer` followed by digits. -/
def isNumberedSpacer (name : String) : Bool :=
  match Text.dropLead "Spacer".toList name.toList with
  | none => false
  | some digits => !digits.isEmpty && digits.all Text.isDigit

/-- Reads the options `contentEmitters` and `contentEmittersDenylist`. -/
def read : OptionM ContentEmitters := do
  let extra ← Options.set "contentEmitters" []
  let denied ← Options.set "contentEmittersDenylist" []
  return ⟨extra, denied⟩

/-- Whether a composable of this name is known to emit. -/
def isKnown (emitters : ContentEmitters) (name : String) : Bool :=
  !emitters.denied.contains name &&
    (known.contains name || isNumberedSpacer name || emitters.extra.contains name)

/-- Whether an argument hands a modifier on: by its label, or as a chain that starts at one. -/
def passesModifier (argument : Argument) : Bool :=
  argument.name? == some "modifier" || argument.expression?.any fun value =>
    value.chainRoot.kind == "identifier" &&
      (value.chainRoot.text == "Modifier" || value.chainRoot.text == "modifier")

/-- Whether a call emits: a known emitter does, and so does any upper-case call that is handed a
modifier, for modifiers only make sense on something that is laid out. -/
def emits (emitters : ContentEmitters) (call : Call) : Bool :=
  match call.name? with
  | none => false
  | some name =>
    if emitters.denied.contains name || call.receiver?.isSome then false
    else emitters.isKnown name ||
      (name.toList.head?.any Text.isUpper && call.arguments.any passesModifier)

def isLoop (n : Node) : Bool :=
  ["for_statement", "while_statement", "do_while_statement"].contains n.kind

/-- The body of a loop: its block, or else its last named child. -/
def loopBody? (n : Node) : Option Node := (n.childOfKind? "block").or n.namedChildren.getLast?

theorem size_lt_of_loopBody? {c n : Node} (h : loopBody? n = some c) : c.size < n.size := by
  unfold loopBody? at h
  cases hb : n.childOfKind? "block" with
  | some b =>
    rw [hb] at h
    cases h
    exact Node.size_lt_of_mem_children (List.mem_of_find?_eq_some hb)
  | none =>
    rw [hb] at h
    exact Node.size_lt_of_mem_namedChildren (List.mem_of_getLast? h)

/-- The largest of some counts, zero if there are none. -/
def largest (counts : List Nat) : Nat := counts.foldl max 0

def total (counts : List Nat) : Nat := counts.foldr (· + ·) 0

mutual

def statementCount (emitters : ContentEmitters) (n : Node) : Nat :=
  if n.kind = "call_expression" then
    if (Call.ofNode? n).any emitters.emits then 1 else 0
  else if n.kind = "if_expression" then
    largest ((n.namedChildren.drop 1).attach.map fun ⟨branch, h⟩ =>
      have : branch.size < n.size := Node.size_lt_of_mem_namedChildren (List.mem_of_mem_drop h)
      branchCount emitters branch)
  else if n.kind = "when_expression" then
    largest (n.children.attach.filterMap fun ⟨entry, h⟩ =>
      if entry.kind = "when_entry" then
        match hb : entry.namedChildren.getLast? with
        | some branch =>
          have : branch.size < n.size := Nat.lt_trans
            (Node.size_lt_of_mem_namedChildren (List.mem_of_getLast? hb))
            (Node.size_lt_of_mem_children h)
          some (branchCount emitters branch)
        | none => none
      else none)
  else if isLoop n then
    match h : loopBody? n with
    | some body =>
      have : body.size < n.size := size_lt_of_loopBody? h
      if branchCount emitters body > 0 then 2 else 0
    | none => 0
  else 0
termination_by (n.size, 0)

/-- What a branch emits: a block emits what its statements do. -/
def branchCount (emitters : ContentEmitters) (n : Node) : Nat :=
  if n.kind = "block" then
    total (n.namedChildren.attach.map fun ⟨statement, h⟩ =>
      have : statement.size < n.size := Node.size_lt_of_mem_namedChildren h
      statementCount emitters statement)
  else statementCount emitters n
termination_by (n.size, 1)

end

/-- What the statements of a block emit together. -/
def blockCount (emitters : ContentEmitters) (block : Node) : Nat :=
  total (block.namedChildren.map emitters.statementCount)

/-- What a function emits directly; a body after `=` is one statement. -/
def directCount (emitters : ContentEmitters) (f : FunctionDecl) : Nat :=
  match f.block? with
  | some block => emitters.blockCount block
  | none => (f.expression?.map emitters.statementCount).getD 0

end ContentEmitters

/-- How much each function emits, by the number of its node. -/
structure EmissionMap where
  counts : List (Nat × Nat)
  deriving BEq

namespace EmissionMap

/-- The count of a function, zero if the map has none. -/
def get (emissions : EmissionMap) (f : FunctionDecl) : Nat :=
  (emissions.counts.lookup f.node.id).getD 0

def size (emissions : EmissionMap) : Nat := (emissions.counts.map (·.1)).eraseDups.length

end EmissionMap

/-- Counting for the composables of a file, each with its direct count. -/
structure EmissionCounter where
  emitters : ContentEmitters
  components : List (FunctionDecl × Nat)

namespace EmissionCounter

/-- Prepares counting; only bodies in braces have a direct count. -/
def ofComponents (emitters : ContentEmitters) (components : List FunctionDecl) : EmissionCounter :=
  ⟨emitters, components.map fun f => (f, (f.block?.map emitters.blockCount).getD 0)⟩

/-- The composables below a node in the order of the file. -/
def componentsIn (root : Node) : List FunctionDecl :=
  ((FunctionDecl.allIn root).filter (·.isComposable)).mergeSort
    fun f g => f.node.start ≤ g.node.start

def seed (counter : EmissionCounter) : EmissionMap :=
  ⟨counter.components.map fun (f, direct) => (f.node.id, direct)⟩

/-- What the composables of the file emit that a call may mean: the most that any of its name does;
nothing for a call on a receiver. -/
def calleeCount (counter : EmissionCounter) (current : EmissionMap) (call : Call) : Nat :=
  if call.receiver?.isSome then 0
  else
    match call.name? with
    | none => 0
    | some name =>
      ContentEmitters.largest
        ((counter.components.filter (·.1.name? == some name)).map (current.get ·.1))

/-- What a statement's call adds to the direct count. A call that already counts as one adds what
its callee emits beyond one. -/
def indirectCount (counter : EmissionCounter) (current : EmissionMap) (call : Call) : Nat :=
  if call.name?.any counter.emitters.isKnown then 0
  else if counter.emitters.emits call then counter.calleeCount current call - 1
  else counter.calleeCount current call

/-- One pass: the direct counts plus what the statements' calls add, by the current counts. -/
def refine (counter : EmissionCounter) (current : EmissionMap) : EmissionMap :=
  ⟨counter.components.map fun (f, direct) =>
    let calls := f.statements.filterMap Call.ofNode?
    (f.node.id, direct + ContentEmitters.total (calls.map (counter.indirectCount current)))⟩

/-- Refines for at most this many passes, until a pass changes nothing. -/
def refineUpTo (counter : EmissionCounter) : Nat → EmissionMap → EmissionMap
  | 0, current => current
  | passes + 1, current =>
    if counter.refine current == current then current
    else refineUpTo counter passes (counter.refine current)

/-- The counts of a file's composables. -/
def resolve (counter : EmissionCounter) : EmissionMap :=
  counter.refineUpTo counter.components.length counter.seed

/-- The maps that `refineUpTo` makes, one for each pass. -/
def passesUpTo (counter : EmissionCounter) : Nat → EmissionMap → List EmissionMap
  | 0, _ => []
  | passes + 1, current =>
    let next := counter.refine current
    if next == current then [next] else next :: passesUpTo counter passes next

/-- The maps that counting makes: the direct counts, and the counts of each pass. -/
def maps (counter : EmissionCounter) : List EmissionMap :=
  counter.seed :: counter.passesUpTo counter.components.length counter.seed

/-- The sums that counting makes. -/
def sums (counter : EmissionCounter) : List Nat :=
  counter.maps.flatMap fun emissions => emissions.counts.map (·.2)

/-- A sum is too large for a word. -/
def overflows (counter : EmissionCounter) : Bool := counter.sums.any (wordCount ≤ ·)

end EmissionCounter

end ComposeCheck
