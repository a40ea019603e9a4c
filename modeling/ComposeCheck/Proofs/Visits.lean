import ComposeCheck.Proofs.Licence

/-!
# The order of visits

The walk in document order is what a stack makes of a tree: the node on top is taken, and its
children go on top in its place (`stackWalk_eq_flatMap`). A run asks rule by rule, and each rule at
the root of the file and then along this walk (`runs_steps`, `runs_rules`); what it tells comes in
the same order.
-/

namespace ComposeCheck

namespace Node

/-- Takes nodes from the top of a stack until it is empty. The children of a node that is taken are
put on the stack, so that the first of them lies on top. -/
def stackWalk : List Node → List Node
  | [] => []
  | n :: stack => n :: stackWalk (n.children ++ stack)
termination_by stack => (stack.map size).sum
decreasing_by
  have h := sum_size_children n
  simp only [List.map_append, List.map_cons, List.sum_append, List.sum_cons]
  omega

theorem preorderForest_eq_flatMap {source : Source} {path : List Frame} {parent : Place}
    (before ts : List (Tree Place)) : preorderForest source path parent before ts =
      (focuses source path parent before ts).flatMap preorder := by
  induction ts generalizing before with
  | nil => rfl
  | cons t ts ih =>
    rw [preorderForest, focuses, List.flatMap_cons, ih]
    rfl

theorem preorder_eq (n : Node) : n.preorder = n :: n.children.flatMap preorder := by
  obtain ⟨source, ⟨place, ts⟩, path⟩ := n
  show preorderOf source path (.node place ts) = _
  rw [preorderOf, preorderForest_eq_flatMap]
  rfl

theorem stackWalk_eq_flatMap (stack : List Node) : stackWalk stack = stack.flatMap preorder := by
  induction stack using stackWalk.induct with
  | case1 => simp [stackWalk]
  | case2 n stack ih =>
    rw [stackWalk, ih, List.flatMap_append, List.flatMap_cons, preorder_eq n, List.cons_append]

theorem stackWalk_root (n : Node) : stackWalk [n] = n.preorder := by
  simp [stackWalk_eq_flatMap]

end Node

/-- What a rule is asked at a node of the walk. -/
def Visit.atNode (n : Node) : List Visit :=
  if n.kind ∈ ["class_declaration", "object_declaration", "companion_object"] then [.type n]
  else if n.kind = "function_declaration" then
    if FunctionDecl.isComposable ⟨n⟩ then [.function ⟨n⟩, .composable ⟨n⟩] else [.function ⟨n⟩]
  else []

theorem visitsOf_eq (root : Node) :
    visitsOf root = .file root :: (Node.stackWalk [root]).flatMap Visit.atNode := by
  rw [visitsOf, Node.stackWalk_root]
  refine congrArg (_ :: ·) (List.flatMap_congr fun n _ => ?_)
  unfold Visit.atNode FunctionDecl.ofNode?
  simp only [List.contains_iff_mem]
  split
  · rfl
  · by_cases h : n.kind = "function_declaration" <;> simp [h]

namespace Dispatch

variable (file : CheckedFile) (mode : Mode) (visits : List Visit) (backend : Backend)

/-- A rule was asked at these places, one after the other. -/
structure Runs (visits : List Visit) (s : Scheduled) (steps : List Step) : Prop where
  scheduled : ∀ step ∈ steps, step.scheduled = s
  visits : steps.map (·.visit) = visits

theorem runs_steps (s : Scheduled) (before : Rewrites) (memo : Memo) :
    Runs visits s (steps file mode s before visits backend memo).1.1 := by
  induction visits generalizing before memo with
  | nil => exact ⟨fun _ h => absurd h List.not_mem_nil, rfl⟩
  | cons visit visits ih =>
    -- The other visits go on from what the first has left, which does not show in where they are.
    obtain ⟨hscheduled, hvisits⟩ := ih _ (step file mode s before visit backend memo).2
    refine ⟨List.forall_mem_cons.2 ⟨rfl, hscheduled⟩, ?_⟩
    exact congrArg (visit :: ·) hvisits

/-- The steps of a run fall into those of its rules, in the order of the list. -/
theorem runs_rules (before : Rewrites) (list : List Scheduled) (memo : Memo) :
    ∃ groups, List.Forall₂ (Runs visits) list groups ∧
      (rules file mode visits before list backend memo).1.1 = groups.flatten := by
  induction list generalizing before memo with
  | nil => exact ⟨[], .nil, rfl⟩
  | cons s list ih =>
    let first := steps file mode s before visits backend memo
    obtain ⟨groups, hgroups, hsteps⟩ := ih first.1.2 first.2
    exact ⟨first.1.1 :: groups, .cons (runs_steps file mode visits backend s before memo) hgroups,
      congrArg (first.1.1 ++ ·) hsteps⟩

end Dispatch

/-- A run visits the nodes of a file in the order of their numbers, each of them once. Rule by rule,
in the order of the list, it asks at the root of the file and then at each class, interface, object
and companion and at each function, there once more if it is a composable. The violations come in
the order of these steps, and those of a step in the order in which the rule has reported them. -/
theorem dispatch_visits_in_order {parser : Parser} {text : String} {tree : SyntaxTree}
    (hread : SyntaxTree.read? parser text = some tree) (file : CheckedFile)
    (rules : List Scheduled) (mode : Mode) (backend : Backend) (memo : Memo) :
    let nodes := Node.stackWalk [tree.rootNode]
    let run := (dispatch tree file rules mode backend memo).1
    nodes.map Node.id = List.range tree.size ∧
    ∃ groups,
      List.Forall₂ (Dispatch.Runs (.file tree.rootNode :: nodes.flatMap Visit.atNode)) rules groups ∧
      run.steps = groups.flatten ∧
      run.violations file = groups.flatMap (fun group => group.flatMap (·.violations file)) ∧
      ∀ step ∈ run.steps, ∃ memo,
        let report := (step.scheduled.rule.report step.visit
          ⟨step.before, step.scheduled.outcome file mode⟩ backend memo).1
        step.violations file = (report.findings.filter fun finding =>
          !step.scheduled.isSilenced file finding.node).map (step.scheduled.violation file) := by
  intro nodes run
  have hnumbered := SyntaxTree.numberedFrom_of_read? hread
  have hids : nodes.map Node.id = List.range tree.size := by
    show (Node.stackWalk [tree.rootNode]).map Node.id = _
    rw [Node.stackWalk_root, SyntaxTree.map_id_preorder_rootNode hnumbered]
  obtain ⟨groups, hgroups, hsteps⟩ :=
    Dispatch.runs_rules file mode (visitsOf tree.rootNode) backend .none rules memo
  rw [visitsOf_eq] at hgroups
  have hrun : run.steps = groups.flatten := hsteps
  refine ⟨hids, groups, hgroups, hrun, ?_, fun step hstep => ?_⟩
  · rw [Run.violations, hrun, List.flatMap_def, List.map_flatten, List.flatten_flatten]
    simp [List.flatMap_def, Function.comp_def]
  · have hasked : Dispatch.IsStep file mode backend rules step := Dispatch.isStep_of_mem_rules hstep
    obtain ⟨memo, -, hreported, -, -⟩ := hasked.exists_report
    refine ⟨memo, hasked.violations_eq.trans ?_⟩
    rw [hreported]

/-- A composable in a class, and a function behind it. -/
def shelfFile : String := "class A \x7b\n" ++ sketchText "b" ["E"] ++ "\x7d\nfun c() \x7b\x7d\n"

def shelfParser : Parser := fun text =>
  if text = shelfFile then
    let named (kind : String) (start stop : Nat) (ts : List ParseTree) : ParseTree :=
      .node ⟨kind, true, false, start, stop⟩ ts
    some ⟨named "source_file" 0 50
      [named "class_declaration" 0 39
          [named "identifier" 6 7 [], named "class_body" 8 39 [sketchTree 10 1]],
        named "function_declaration" 40 50 [named "identifier" 44 45 []]], false⟩
  else none

def shelfTree : SyntaxTree := (SyntaxTree.read? shelfParser shelfFile).get (by decide +kernel)

/-- A rule that finds something wherever it is asked. -/
def recorder (code : String) : Rule where
  code := code
  name := "recorder"
  visit visit := RuleM.tell [⟨visit.node, "seen", none⟩]

def shelfRules : List Scheduled := [⟨recorder "CL1", .error⟩, ⟨recorder "CL2", .info⟩]

def shelfCheck : CheckedFile := .of "" "A.kt" shelfFile

def shelfRun : Run := (dispatch shelfTree shelfCheck shelfRules .report (fun _ => none) .empty).1

theorem dispatch_visits_in_order_shelf :
    SyntaxTree.read? shelfParser shelfFile = some shelfTree ∧
    (Node.stackWalk [shelfTree.rootNode]).map Node.id = List.range shelfTree.size ∧
    shelfRun.steps.map (fun step => (step.scheduled.rule.code, step.visit.node.id)) =
      [("CL1", 0), ("CL1", 1), ("CL1", 4), ("CL1", 4), ("CL1", 20),
        ("CL2", 0), ("CL2", 1), ("CL2", 4), ("CL2", 4), ("CL2", 20)] ∧
    ∃ groups : List (List Step), shelfRun.steps = groups.flatten ∧ groups.length = 2 ∧
      shelfRun.violations shelfCheck =
        groups.flatMap (fun group => group.flatMap (·.violations shelfCheck)) := by
  have hread : SyntaxTree.read? shelfParser shelfFile = some shelfTree := (Option.some_get _).symm
  obtain ⟨hids, groups, hgroups, hsteps, hviolations, -⟩ :=
    dispatch_visits_in_order hread shelfCheck shelfRules .report (fun _ => none) .empty
  exact ⟨hread, hids, by decide +kernel, groups, hsteps, hgroups.length_eq.symm, hviolations⟩

end ComposeCheck
