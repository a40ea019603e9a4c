import ComposeCheck.Proofs.Insertion
import ComposeCheck.Proofs.Licence

/-!
# Names of hoisted parameters

State holders are moved from any depth of a body, out of branches and lambdas, into one list of
parameters. In the body a name can be used again in another scope, in the list it cannot. What is
read of the list afterwards has the names of before and those of the moved properties
(`Parameter.names_reread_perm`), and nothing is done about a name that is there twice.
-/

namespace ComposeCheck

namespace Parameter

section
variable {tree : SyntaxTree} {f : FunctionDecl} {list : Node} {added : List Added}

theorem names_carrying {modifiers? : Option Node} {ps : List Parameter} :
    (carrying modifiers? ps).map name? = ps.map name? := by
  cases ps <;> rfl

/-- The names that are read of a list of parameters once others have been added. -/
theorem names_reread_perm (hwell : tree.WellFormed) (hf : f.node ∈ tree.rootNode.preorder)
    (hlist : f.parameterList? = some list) (horderly : isOrderly list.children = true) :
    ((reread list added (Rules.additions f (added.map Added.text))).map name?).Perm
      (f.parameters.map name? ++ added.map (·.parameter.name?)) := by
  have hmem : list ∈ tree.rootNode.preorder :=
    Node.mem_preorder_trans hf (Node.mem_preorder_of_childOfKind? hlist)
  have hnames : (added.map Added.parameter).map name? = added.map (·.parameter.name?) :=
    List.map_map
  cases added with
  | nil =>
    rw [List.map_nil, List.map_nil, List.append_nil, FunctionDecl.parameters_eq hlist]
    exact .refl _
  | cons a rest =>
    change ((reread list (a :: rest) (Rules.addParameters f _)).map name?).Perm _
    rcases List.eq_nil_or_concat f.parameters with hnone | ⟨earlier, last, hlast⟩
    · rw [reread_of_nil hlist hnone, hnone, hnames]
      exact .refl _
    rw [List.concat_eq_append] at hlast
    cases htyped : last.isFunctionTyped with
    | false =>
      rw [reread_of_not_isFunctionTyped hwell hmem hlist horderly hlast htyped, hlast,
        List.map_append, hnames]
    | true =>
      rw [reread_of_isFunctionTyped hwell hmem hlist horderly hlast htyped (List.cons_ne_nil a rest),
        hlast, List.map_append, List.map_append, List.map_append, names_carrying, hnames,
        List.append_assoc, List.append_assoc]
      exact List.perm_append_comm.append_left _

end

end Parameter

namespace Rules

open Parameter (Added)

section
variable {factories : List String} {p : Property} {i : Injection} {f : FunctionDecl}
  {body list : Node} {backend : Backend} {memo : Memo} {file : CheckedFile} {severity : Severity}
  {before : Rewrites} {tree : SyntaxTree}

/-- The functions that a project's state holders are fetched with. -/
def factoriesAt (backend : Backend) (memo : Memo) : List String :=
  (Options.set "viewModelFactories" [] backend memo).1 ++ defaultFactories

/-- The parameter that would take the place of a property. -/
def parameterFor? (factories : List String) (p : Property) : Option String :=
  (injectionOf? factories p).bind (·.parameter?)

theorem exists_name_of_parameterFor? {text : String} (h : parameterFor? factories p = some text) :
    ∃ (name : String) (type : Node) (call : Call), p.name? = some name ∧
      text = name ++ ": " ++ type.text ++ " = " ++ call.node.text := by
  obtain ⟨i, hi, htext⟩ := Option.bind_eq_some_iff.1 h
  obtain ⟨_, -, hi⟩ := Option.bind_eq_some_iff.1 hi
  obtain ⟨call, -, hi⟩ := Option.bind_eq_some_iff.1 hi
  obtain ⟨_, -, hi⟩ := Option.bind_eq_some_iff.1 hi
  split at hi
  · cases hi
  · cases hi
    obtain ⟨_, -, htext⟩ := Option.bind_eq_some_iff.1 htext
    obtain ⟨name, hname, htext⟩ := Option.bind_eq_some_iff.1 htext
    obtain ⟨type, -, htext⟩ := Option.bind_eq_some_iff.1 htext
    exact ⟨name, type, call, hname, (Option.some.inj htext).symm⟩

theorem parameterFor?_property (h : i ∈ injections factories f body) :
    parameterFor? factories i.property = i.parameter? := by
  obtain ⟨p, -, hi⟩ := List.mem_filterMap.1 h
  rw [property_of_injectionOf? hi, parameterFor?, hi]
  rfl

theorem map_property_injections_sublist : ((injections factories f body).map (·.property)).Sublist
    ((Property.allIn body).filter (·.node.isOwnedBy f.node)) :=
  map_filterMap_sublist (fun _ _ => property_of_injectionOf?) _

/-! ### What a visit moves -/

/-- The state holders that are moved in a run that fixes. -/
def moved (s : Scheduled) (file : CheckedFile) (found : List Injection) : List Injection :=
  found.filter fun i => s.outcome file .fix (injectionFinding i) = .corrected

theorem report_viewModelInjection (hbody : f.body? = some body) (occasion : Occasion) :
    let found := injections (factoriesAt backend memo) f body
    (viewModelInjection.report (.composable f) occasion backend memo).1 =
      Plan.report ⟨found.map injectionFinding,
        fun corrected => additions f (movedParameters found corrected), false⟩
        occasion.outcome := by
  have hcarries : (viewModelInjection.visit (.composable f)).CarriesOut
      (Options.set "viewModelFactories" [] >>= fun extra =>
        let found := injections (extra ++ defaultFactories) f body
        pure ⟨found.map injectionFinding,
          fun corrected => additions f (movedParameters found corrected), false⟩) := by
    simp only [viewModelInjection, hbody]
    exact RuleM.carriesOut_bind fun extra => RuleM.carriesOut_conclude fun _ => rfl
  rw [hcarries.report_eq]
  rfl

theorem fix?_of_mem_moved {s : Scheduled} {found : List Injection} (h : i ∈ moved s file found) :
    i ∈ found ∧ i.parameter?.isSome = true := by
  obtain ⟨hmem, hcorrected⟩ := List.mem_filter.1 h
  refine ⟨hmem, ?_⟩
  have hfix := (Scheduled.outcome_eq_corrected_iff.1 (of_decide_eq_true hcorrected)).2.1
  rwa [injectionFinding, Option.isSome_map] at hfix

/-- The properties that are moved go away, and their parameters are added. -/
theorem edits_injections {s : Scheduled} {found : List Injection} :
    Plan.edits ⟨found.map injectionFinding,
      fun corrected => additions f (movedParameters found corrected), false⟩
        (s.outcome file .fix) =
      (moved s file found).map (fun i => .replace i.property.node "") ++
        additions f ((moved s file found).filterMap (·.parameter?)) := by
  have hfixes : (found.flatMap fun i =>
      (injectionFinding i).edits (s.outcome file .fix (injectionFinding i))) =
      (moved s file found).map fun i => .replace i.property.node "" := by
    simp only [Finding.edits]
    rw [flatMap_filter_of_eq_nil (p := fun i =>
      decide (s.outcome file .fix (injectionFinding i) = .corrected)) fun i _ hi =>
        if_neg (of_decide_eq_false hi), List.map_eq_flatMap]
    refine List.flatMap_congr fun i hi => ?_
    obtain ⟨text, htext⟩ := Option.isSome_iff_exists.1 (fix?_of_mem_moved hi).2
    rw [if_pos (of_decide_eq_true (List.mem_filter.1 hi).2), injectionFinding, htext]
    rfl
  have htexts : movedParameters found ((found.map injectionFinding).map fun finding =>
      decide (s.outcome file .fix finding = .corrected)) =
        (moved s file found).filterMap (·.parameter?) := by
    have hzip {α β : Type} (xs : List α) (g : α → β) :
        xs.zip (xs.map g) = xs.map fun x => (x, g x) := by
      simpa using List.zip_map' (f := id) (g := g) (l := xs)
    rw [movedParameters, List.map_map, hzip, List.filterMap_map, moved, List.filterMap_filter]
    rfl
  rw [Plan.edits]
  dsimp only
  rw [htexts, List.flatMap_map]
  exact congrArg (· ++ _) hfixes

theorem step_viewModelInjection (hbody : f.body? = some body) :
    let s : Scheduled := ⟨viewModelInjection, severity⟩
    let step := (Dispatch.step file .fix s before (.composable f) backend memo).1
    let found := moved s file (injections (factoriesAt backend memo) f body)
    (step.findings.filter (·.2 = .corrected)).map (·.1.node) = found.map (·.property.node) ∧
      step.edits = found.map (fun i => .replace i.property.node "") ++
        additions f (found.filterMap (·.parameter?)) := by
  intro s step found
  let occasion : Occasion := ⟨before, s.outcome file .fix⟩
  have hreport (report : Report)
      (h : (viewModelInjection.report (.composable f) occasion backend memo).1 = report) :
      step.findings = (report.findings.map fun finding =>
        (finding, s.outcome file .fix finding)) ∧ step.edits = report.edits :=
    h ▸ ⟨rfl, rfl⟩
  obtain ⟨hfindings, hedits⟩ := hreport _ (report_viewModelInjection hbody occasion)
  refine ⟨?_, hedits.trans edits_injections⟩
  rw [hfindings, Plan.report, List.map_map, List.filter_map, List.map_map]
  rfl

/-- A state holder is hoisted from any depth of the body, under the name of its property. So after
a visit that fixes, no name is there twice iff none was, no two hoisted properties have one name,
and none has the name of a parameter. -/
theorem hoisted_names_apart_iff (hwell : tree.WellFormed) (hf : f.node ∈ tree.rootNode.preorder)
    (hbody : f.body? = some body) (hlist : f.parameterList? = some list)
    (horderly : Parameter.isOrderly list.children = true) (file : CheckedFile)
    (severity : Severity) (before : Rewrites) (backend : Backend) (memo : Memo) :
    let step := (Dispatch.step file .fix ⟨viewModelInjection, severity⟩ before (.composable f)
      backend memo).1
    let hoisted : List Property :=
      (step.findings.filter (·.2 = .corrected)).map fun finding => ⟨finding.1.node⟩
    hoisted.Sublist ((Property.allIn body).filter (·.node.isOwnedBy f.node)) ∧
    (∀ p ∈ hoisted, ∃ (name : String) (type : Node) (call : Call), p.name? = some name ∧
      parameterFor? (factoriesAt backend memo) p =
        some (name ++ ": " ++ type.text ++ " = " ++ call.node.text)) ∧
    ∀ added : List Added,
      added.map (some ·.text) = hoisted.map (parameterFor? (factoriesAt backend memo)) →
      added.map (·.parameter.name?) = hoisted.map (·.name?) →
      let after := Parameter.reread list added (additions f (added.map (·.text)))
      step.edits =
        hoisted.map (fun p => .replace p.node "") ++ additions f (added.map (·.text)) ∧
      (after.map (·.name?)).Perm (f.parameters.map (·.name?) ++ hoisted.map (·.name?)) ∧
      ((after.map (·.name?)).Nodup ↔
        (f.parameters.map (·.name?)).Nodup ∧ (hoisted.map (·.name?)).Nodup ∧
          ∀ p ∈ hoisted, ∀ q ∈ f.parameters, p.name? ≠ q.name?) := by
  intro step hoisted
  obtain ⟨hnodes, hedits⟩ : _ ∧ step.edits = _ := step_viewModelInjection hbody
  generalize hfound : moved _ file _ = found at hnodes hedits
  have hmoved {i : Injection} (hi : i ∈ found) :
      parameterFor? (factoriesAt backend memo) i.property = i.parameter? ∧
        i.parameter?.isSome = true := by
    obtain ⟨hi, hsome⟩ := fix?_of_mem_moved (hfound ▸ hi)
    exact ⟨parameterFor?_property hi, hsome⟩
  have hhoisted : hoisted = found.map (·.property) := by
    have hmap := congrArg (List.map Property.mk) hnodes
    rwa [List.map_map, List.map_map] at hmap
  refine ⟨?_, fun p hp => ?_, fun added htexts hnames => ?_⟩
  · rw [hhoisted, ← hfound]
    exact (List.filter_sublist.map _).trans map_property_injections_sublist
  · rw [hhoisted] at hp
    obtain ⟨i, hi, rfl⟩ := List.mem_map.1 hp
    obtain ⟨hparameter, hsome⟩ := hmoved hi
    obtain ⟨text, htext⟩ := Option.isSome_iff_exists.1 (hparameter ▸ hsome)
    obtain ⟨name, type, call, hname, rfl⟩ := exists_name_of_parameterFor? htext
    exact ⟨name, type, call, hname, htext⟩
  intro after
  have hperm : (after.map (·.name?)).Perm
      (f.parameters.map (·.name?) ++ hoisted.map (·.name?)) := by
    rw [← hnames]
    exact Parameter.names_reread_perm hwell hf hlist horderly
  refine ⟨?_, hperm, ?_⟩
  · have htexts : found.filterMap (·.parameter?) = added.map (·.text) := by
      have hparameters : found.map (parameterFor? (factoriesAt backend memo) ∘ (·.property)) =
          found.map (·.parameter?) := List.map_congr_left fun i hi => (hmoved hi).1
      rw [hhoisted, List.map_map, hparameters] at htexts
      have hsome := congrArg (List.filterMap id) htexts
      rw [List.filterMap_map, List.filterMap_map] at hsome
      exact hsome.symm.trans (congrFun List.filterMap_eq_map added)
    rw [hedits, htexts, hhoisted, List.map_map]
    rfl
  · rw [hperm.nodup_iff, List.nodup_append]
    refine and_congr_right fun _ => and_congr_right fun _ => ?_
    simp only [List.forall_mem_map]
    exact ⟨fun h p hp q hq => (h q hq p hp).symm, fun h q hq p hp => (h p hp q hq).symm⟩

end

section
open ParseTree

/-- A state holder that is fetched in a lambda, under the name of a parameter. -/
def clashFile : String := "@Composable\nfun A(vm: VM) \x7b\n    Row \x7b\n" ++
  "        val vm = viewModel<VM>()\n    \x7d\n\x7d\n"

def clashRoot : ParseTree :=
  let modifiers := named "modifiers" 0 11 [composableMarker 0]
  let parameters := named "function_value_parameters" 17 25 [token "(" 17 18,
    named "parameter" 18 24 [name 18 20, token ":" 20 21, typeName 22 24], token ")" 24 25]
  let property := named "property_declaration" 46 70 [token "val" 46 49,
    named "variable_declaration" 50 52 [name 50 52], token "=" 53 54, fetch 55]
  let lambda := named "annotated_lambda" 36 76 [named "lambda_literal" 36 76
    [token "\x7b" 36 37, property, token "\x7d" 75 76]]
  named "source_file" 0 79 [named "function_declaration" 0 78 [modifiers, token "fun" 12 15,
    name 16 17, parameters, named "function_body" 26 78 [named "block" 26 78 [token "\x7b" 26 27,
      named "call_expression" 32 76 [name 32 35, lambda], token "\x7d" 77 78]]]]

def clashTree : SyntaxTree :=
  ⟨.ofText clashFile, SyntaxTree.number (.ofText clashFile) 0 clashRoot, false⟩

theorem wellFormed_clashTree : clashTree.WellFormed :=
  SyntaxTree.wellFormed_number ⟨by decide +kernel, by decide +kernel⟩

/-- The visit at a function, in a run that fixes. -/
def clashStep (f : FunctionDecl) : Step :=
  (Dispatch.step (.of "" "A.kt" clashFile) .fix ⟨viewModelInjection, .error⟩ .none (.composable f)
    (fun _ => none) .empty).1

def clashRun : Run :=
  (dispatch clashTree (.of "" "A.kt" clashFile) [⟨viewModelInjection, .error⟩] .fix
    (fun _ => none) .empty).1

/-- The state holder of the lambda gets the name of the parameter. -/
theorem hoisted_names_apart_iff_clash :
    clashTree.WellFormed ∧ ∃ (f : FunctionDecl) (body list : Node) (p : Property),
      f.node ∈ clashTree.rootNode.preorder ∧ f.body? = some body ∧ f.parameterList? = some list ∧
      Parameter.isOrderly list.children = true ∧
      f.parameters.map (·.name?) = [some "vm"] ∧ (f.parameters.map (·.name?)).Nodup ∧
      ((clashStep f).findings.filter (·.2 = .corrected)).map (·.1.node) = [p.node] ∧
      p.name? = some "vm" ∧
      parameterFor? (factoriesAt (fun _ => none) .empty) p = some holder.text ∧
      (let after := Parameter.reread list [holder] (additions f [holder.text])
      (after.map (·.name?)).Perm [some "vm", some "vm"] ∧ ¬(after.map (·.name?)).Nodup) ∧
      clashTree.render clashRun.rewrites = "@Composable\n" ++
        "fun A(vm: VM, vm: VM = viewModel<VM>()) \x7b\n    Row \x7b\n" ++
        "        \n    \x7d\n\x7d\n" := by
  have hfile : (FunctionDecl.allIn clashTree.rootNode).map (fun f => (f.body?.isSome,
      f.parameterList?.map fun list => Parameter.isOrderly list.children,
      f.parameters.map (·.name?))) = [(true, some true, [some "vm"])] := by
    decide +kernel
  have hcorrected : (FunctionDecl.allIn clashTree.rootNode).map (fun f =>
      ((clashStep f).findings.filter (·.2 = .corrected)).map fun finding =>
        (Property.name? ⟨finding.1.node⟩,
          parameterFor? (factoriesAt (fun _ => none) .empty) ⟨finding.1.node⟩)) =
      [[(some "vm", some holder.text)]] := by
    decide +kernel
  have hholder : holder.parameter.name? = some "vm" := by decide +kernel
  have hrender : clashTree.render clashRun.rewrites = "@Composable\n" ++
      "fun A(vm: VM, vm: VM = viewModel<VM>()) \x7b\n    Row \x7b\n" ++
      "        \n    \x7d\n\x7d\n" := by
    decide +kernel
  obtain ⟨f, _, hfound, hf, hrest⟩ := List.map_eq_cons_iff.1 hfile
  obtain rfl := List.map_eq_nil_iff.1 hrest
  obtain ⟨hbody, hf⟩ := Prod.mk.inj hf
  obtain ⟨hlist, hnames⟩ := Prod.mk.inj hf
  obtain ⟨body, hbody⟩ := Option.isSome_iff_exists.1 hbody
  obtain ⟨list, hlist, horderly⟩ := Option.map_eq_some_iff.1 hlist
  rw [hfound, List.map_singleton] at hcorrected
  obtain ⟨finding, _, hfindings, hp, hrest⟩ :=
    List.map_eq_cons_iff.1 (List.singleton_inj.1 hcorrected)
  obtain rfl := List.map_eq_nil_iff.1 hrest
  obtain ⟨hname, htext⟩ := Prod.mk.inj hp
  have hnode : f.node ∈ clashTree.rootNode.preorder :=
    FunctionDecl.mem_preorder_of_mem_allIn (hfound ▸ List.mem_cons_self)
  obtain ⟨-, -, hhoisted⟩ := hoisted_names_apart_iff wellFormed_clashTree hnode hbody hlist horderly
    (.of "" "A.kt" clashFile) .error .none (fun _ => none) .empty
  have hstep : (Dispatch.step (.of "" "A.kt" clashFile) .fix ⟨viewModelInjection, .error⟩ .none
      (.composable f) (fun _ => none) .empty).1.findings.filter (·.2 = .corrected) = [finding] :=
    hfindings
  rw [hstep, List.map_singleton] at hhoisted
  obtain ⟨-, hperm, -⟩ := hhoisted [holder]
    (by rw [List.map_singleton, List.map_singleton, htext])
    (by rw [List.map_singleton, List.map_singleton, hname, hholder])
  rw [hnames, List.map_singleton, List.map_singleton, hname] at hperm
  refine ⟨wellFormed_clashTree, f, body, list, ⟨finding.1.node⟩, hnode, hbody, hlist, horderly,
    hnames, hnames ▸ List.nodup_singleton _, by rw [hfindings]; rfl, hname, htext,
    ⟨hperm, fun hnodup => ?_⟩, hrender⟩
  have hdouble := hperm.nodup_iff.1 hnodup
  simp at hdouble

end

end Rules

end ComposeCheck
