import ComposeCheck.Dispatch
import ComposeCheck.Proofs.Buried
import ComposeCheck.Proofs.EditPlaces
import ComposeCheck.Proofs.Reading

/-!
# What becomes of fixes

The rewrites of a run come from its edits, one after the other, and all edits are edits of nodes of
the file (`yields_dispatch`). So each text that a fix writes is in the fixed file, or it is buried
and leaves no trace there (`dispatch_shows_or_buries`).
-/

namespace ComposeCheck

open OptionM

namespace Dispatch

variable {file : CheckedFile} {mode : Mode} {scheduled : Scheduled} {nodes : List Node}

/-- Steps edit these nodes only, and their edits lead from one state to another. -/
structure Leads (nodes : List Node) (before : Rewrites) (steps : List Step) (after : Rewrites) :
    Prop where
  nodes_mem : ∀ edit ∈ steps.flatMap (·.edits), edit.node ∈ nodes
  after_eq : after = (steps.flatMap (·.edits)).foldl Edit.apply before

theorem Leads.append {before between after : Rewrites} {first others : List Step}
    (h₁ : Leads nodes before first between) (h₂ : Leads nodes between others after) :
    Leads nodes before (first ++ others) after := by
  constructor
  · intro edit hedit
    rw [List.flatMap_append] at hedit
    rcases List.mem_append.1 hedit with hedit | hedit
    · exact h₁.nodes_mem edit hedit
    · exact h₂.nodes_mem edit hedit
  · rw [List.flatMap_append, List.foldl_append, ← h₁.after_eq, h₂.after_eq]

theorem leads_nil (before : Rewrites) : Leads nodes before [] before :=
  ⟨fun _ hedit => absurd hedit List.not_mem_nil, rfl⟩

theorem yields_step (hrule : scheduled.rule.EditsBelow) (before : Rewrites) (visit : Visit) :
    Yields (step file mode scheduled before visit) fun first =>
      Leads visit.node.preorder before [first] first.after := by
  refine (hrule visit _).bind fun report hreport => yields_pure ⟨fun edit hedit => ?_, ?_⟩
  · rw [List.flatMap_singleton] at hedit
    exact hreport edit hedit
  · rw [List.flatMap_singleton]

theorem yields_steps (hrule : scheduled.rule.EditsBelow) {visits : List Visit}
    (hvisits : ∀ visit ∈ visits, ∀ n ∈ visit.node.preorder, n ∈ nodes) (before : Rewrites) :
    Yields (steps file mode scheduled before visits) fun result =>
      Leads nodes before result.1 result.2 := by
  induction visits generalizing before with
  | nil => exact yields_pure (leads_nil before)
  | cons visit visits ih =>
    refine (yields_step hrule before visit).bind fun first hfirst => ?_
    have hrest := ih (fun v hv => hvisits v (List.mem_cons_of_mem visit hv)) first.after
    refine hrest.bind fun (others, last) hothers => yields_pure ?_
    have hnodes : Leads nodes before [first] first.after :=
      ⟨fun edit hedit => hvisits visit List.mem_cons_self _ (hfirst.nodes_mem edit hedit),
        hfirst.after_eq⟩
    exact hnodes.append hothers

theorem yields_rules {list : List Scheduled} (hrules : ∀ s ∈ list, s.rule.EditsBelow)
    {visits : List Visit} (hvisits : ∀ visit ∈ visits, ∀ n ∈ visit.node.preorder, n ∈ nodes)
    (before : Rewrites) :
    Yields (rules file mode visits before list) fun result =>
      Leads nodes before result.1 result.2 := by
  induction list generalizing before with
  | nil => exact yields_pure (leads_nil before)
  | cons s list ih =>
    have hsteps : Yields (steps file mode s before visits) fun result =>
        Leads nodes before result.1 result.2 :=
      yields_steps (hrules s List.mem_cons_self) hvisits before
    refine hsteps.bind fun (first, between) hfirst => ?_
    have hrest := ih (fun t ht => hrules t (List.mem_cons_of_mem s ht)) between
    refine hrest.bind fun (others, last) hothers => yields_pure ?_
    exact hfirst.append hothers

end Dispatch

theorem node_mem_of_mem_visitsOf {root : Node} {visit : Visit} (h : visit ∈ visitsOf root) :
    visit.node ∈ root.preorder := by
  rcases List.mem_cons.1 h with rfl | h
  · exact root.self_mem_preorder
  obtain ⟨n, hn, h⟩ := List.mem_flatMap.1 h
  split at h
  · obtain rfl := List.mem_singleton.1 h
    exact hn
  split at h
  · exact absurd h List.not_mem_nil
  case h_2 f hf =>
    rw [FunctionDecl.ofNode?] at hf
    split at hf
    case isFalse => cases hf
    cases hf
    split at h
    · rcases List.mem_cons.1 h with rfl | h
      · exact hn
      · obtain rfl := List.mem_singleton.1 h
        exact hn
    · obtain rfl := List.mem_singleton.1 h
      exact hn

/-- A run rewrites what its edits write, one after the other, at nodes of the file. -/
theorem yields_dispatch (tree : SyntaxTree) (file : CheckedFile) (mode : Mode)
    {rules : List Scheduled} (hrules : ∀ s ∈ rules, s.rule.EditsBelow) :
    Yields (dispatch tree file rules mode) fun run =>
      (∀ edit ∈ run.edits, edit.node ∈ tree.rootNode.preorder) ∧
        run.rewrites = run.edits.foldl Edit.apply .none := by
  have hvisits : ∀ visit ∈ visitsOf tree.rootNode, ∀ n ∈ visit.node.preorder,
      n ∈ tree.rootNode.preorder := fun visit hvisit n hn =>
    Node.mem_preorder_trans (node_mem_of_mem_visitsOf hvisit) hn
  refine (Dispatch.yields_rules hrules hvisits .none).bind fun (steps, last) hsteps => ?_
  exact yields_pure ⟨hsteps.nodes_mem, hsteps.after_eq⟩

/-- A text that a fix writes is in the fixed file, unless it is buried. A buried text leaves no
trace: whatever had been written there, the file would look the same. -/
theorem dispatch_shows_or_buries {parser : Parser} {text : String} {tree : SyntaxTree}
    (hfits : parser.FitsFile text) (hread : SyntaxTree.read? parser text = some tree)
    (file : CheckedFile) (mode : Mode) {rules : List Scheduled}
    (hrules : ∀ s ∈ rules, s.rule ∈ allRules) (backend : Backend) (memo : Memo) :
    let run := (dispatch tree file rules mode backend memo).1
    ∀ before edit after, run.edits = before ++ edit :: after →
      (¬Edit.IsBuried before edit after → Shows (tree.render run.rewrites) edit.text) ∧
      (Edit.IsBuried before edit after → ∀ other, tree.render run.rewrites =
        tree.render ((before ++ edit.withText other :: after).foldl Edit.apply .none)) := by
  intro run before edit after hedits
  obtain ⟨hnodes, hrewrites⟩ := yields_dispatch tree file mode
    (fun s hs => editsBelow_of_mem_allRules (hrules s hs)) backend memo
  obtain ⟨parse, hparse, -⟩ := Option.bind_eq_some_iff.1 hread
  have hwell := SyntaxTree.wellFormed_of_read? hfits hparse hread
  change ∀ edit ∈ run.edits, edit.node ∈ tree.rootNode.preorder at hnodes
  change run.rewrites = run.edits.foldl Edit.apply .none at hrewrites
  rw [hedits] at hnodes hrewrites
  rw [hrewrites, ← SyntaxTree.carrier?_eq_none_iff hwell hnodes]
  constructor
  · intro hcarrier
    obtain ⟨m, hm⟩ := Option.ne_none_iff_exists'.1 hcarrier
    exact SyntaxTree.shows_render hwell hnodes hm
  · intro hcarrier other
    exact (SyntaxTree.render_withText hwell hnodes hcarrier other).symm

/-- A state holder with a boxed number in its key. -/
def boxedKeyFile : String :=
  "@Composable\nfun A() \x7b\n    val w: W = injectedViewModel(key = mutableStateOf(3L))\n\x7d\n"

def boxedKeyRoot : ParseTree :=
  let named (kind : String) (start stop : Nat) (ts : List ParseTree) : ParseTree :=
    .node ⟨kind, true, false, start, stop⟩ ts
  let token (kind : String) (start stop : Nat) : ParseTree :=
    .node ⟨kind, false, false, start, stop⟩ []
  let name (start stop : Nat) : ParseTree := named "identifier" start stop []
  let type (start stop : Nat) : ParseTree := named "user_type" start stop [name start stop]
  let state := named "call_expression" 61 79 [name 61 75, named "value_arguments" 75 79
    [token "(" 75 76, named "value_argument" 76 78 [named "number_literal" 76 78 []],
      token ")" 78 79]]
  let holder := named "call_expression" 37 80 [name 37 54, named "value_arguments" 54 80
    [token "(" 54 55, named "value_argument" 55 79 [name 55 58, token "=" 59 60, state],
      token ")" 79 80]]
  let property := named "property_declaration" 26 80 [token "val" 26 29,
    named "variable_declaration" 30 34 [name 30 31, token ":" 31 32, type 33 34],
    token "=" 35 36, holder]
  let body := named "function_body" 20 82
    [named "block" 20 82 [token "\x7b" 20 21, property, token "\x7d" 81 82]]
  let modifiers := named "modifiers" 0 11
    [named "annotation" 0 11 [token "@" 0 1, type 1 11]]
  named "source_file" 0 83 [named "function_declaration" 0 82
    [modifiers, token "fun" 12 15, name 16 17,
      named "function_value_parameters" 17 19 [token "(" 17 18, token ")" 18 19], body]]

def boxedKeyParser : Parser := fun text =>
  if text = boxedKeyFile then some ⟨boxedKeyRoot, false⟩ else none

theorem fitsOn_boxedKeyParser (text : String) : boxedKeyParser.FitsOn text := by
  intro parse hparse
  rw [boxedKeyParser] at hparse
  split at hparse
  case isFalse => cases hparse
  case isTrue htext =>
    subst htext
    obtain rfl := Option.some.inj hparse
    exact ⟨by decide +kernel, by decide +kernel⟩

def boxedKeyTree : SyntaxTree :=
  (SyntaxTree.read? boxedKeyParser boxedKeyFile).get (by decide +kernel)

/-- The rules that unbox the number and make the state holder a parameter. -/
def boxedKeyRules : List Scheduled :=
  [⟨Rules.mutableStateAutoboxing, .error⟩, ⟨Rules.viewModelInjection, .error⟩]

/-- The run of these rules over that file. -/
def boxedKeyRun : Run :=
  (dispatch boxedKeyTree (.of "" "A.kt" boxedKeyFile) boxedKeyRules .fix (fun _ => none) .empty).1

/-- The number is unboxed inside a property that goes away, and its parameter has the old call. -/
theorem edits_boxedKeyRun : boxedKeyRun.edits.map
    (fun e => (e.node.id, e.node.place.last, e.isReplacement, e.text)) =
      [(31, 31, true, "mutableLongStateOf"), (15, 37, true, ""),
        (9, 11, true, "(w: W = injectedViewModel(key = mutableStateOf(3L)))")] := by
  decide +kernel

theorem dispatch_shows_or_buries_boxedKey :
    boxedKeyParser.FitsFile boxedKeyFile ∧
    SyntaxTree.read? boxedKeyParser boxedKeyFile = some boxedKeyTree ∧
    (∀ s ∈ boxedKeyRules, s.rule ∈ allRules) ∧
    ∃ unboxed removed added, boxedKeyRun.edits = [unboxed, removed, added] ∧
      (Edit.IsBuried [] unboxed [removed, added] ∧
        ∀ other, boxedKeyTree.render boxedKeyRun.rewrites =
          boxedKeyTree.render ([unboxed.withText other, removed, added].foldl Edit.apply .none)) ∧
      ¬Edit.IsBuried [unboxed, removed] added [] ∧
      Shows (boxedKeyTree.render boxedKeyRun.rewrites)
        "(w: W = injectedViewModel(key = mutableStateOf(3L)))" := by
  have hfits : boxedKeyParser.FitsFile boxedKeyFile :=
    ⟨fitsOn_boxedKeyParser _, fun _ _ _ _ => fitsOn_boxedKeyParser _⟩
  have hread : SyntaxTree.read? boxedKeyParser boxedKeyFile = some boxedKeyTree :=
    (Option.some_get _).symm
  have hrules : ∀ s ∈ boxedKeyRules, s.rule ∈ allRules := by simp [boxedKeyRules, allRules]
  have hrun := dispatch_shows_or_buries hfits hread (.of "" "A.kt" boxedKeyFile) .fix hrules
    (fun _ => none) .empty
  obtain ⟨unboxed, _, hlist, hunboxed, hrest⟩ := List.map_eq_cons_iff.1 edits_boxedKeyRun
  obtain ⟨removed, _, rfl, hremoved, hrest⟩ := List.map_eq_cons_iff.1 hrest
  obtain ⟨added, _, rfl, hadded, hrest⟩ := List.map_eq_cons_iff.1 hrest
  obtain rfl := List.map_eq_nil_iff.1 hrest
  simp only [Prod.mk.injEq] at hunboxed hremoved hadded
  obtain ⟨hid, -⟩ := hunboxed
  obtain ⟨hid', hlast', hrep', -⟩ := hremoved
  obtain ⟨hid'', -, -, htext''⟩ := hadded
  have hburied : Edit.IsBuried [] unboxed [removed, added] := by
    refine .inr ⟨[], removed, [added], rfl, hrep', ?_, fun g hg => absurd hg List.not_mem_nil⟩
    simp [Node.covers, Node.isAncestorOf, hid, hid', hlast']
  have hshown : ¬Edit.IsBuried [unboxed, removed] added [] := by
    rintro (⟨f, hf, hup⟩ | ⟨between, f, rest, h, -⟩)
    · simp only [List.mem_cons, List.not_mem_nil, or_false] at hf
      rcases hf with rfl | rfl <;> simp [Node.isAncestorOf, hid, hid', hid''] at hup
    · simp at h
  refine ⟨hfits, hread, hrules, unboxed, removed, added, hlist, ⟨hburied, ?_⟩, hshown, ?_⟩
  · exact (hrun [] unboxed [removed, added] hlist).2 hburied
  · exact htext'' ▸ (hrun [unboxed, removed] added [] hlist).1 hshown

end ComposeCheck
