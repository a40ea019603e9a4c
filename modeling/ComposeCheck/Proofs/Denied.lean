import ComposeCheck.Proofs.Branches
import ComposeCheck.Proofs.Settling

/-!
# Calls of names that never emit

What a pass counts for a component is the sum of what its statements contribute
(`EmissionCounter.contribution`). A call of a name that never emits is nothing by itself, but it
contributes what the composables of this name count that the file declares: the name is not known to
emit, so nothing keeps the callee's count away. It contributes nothing in all passes exactly if none
of these composables ever counts.
-/

namespace ComposeCheck

namespace EmissionCounter

open ContentEmitters

/-- What a statement adds to the count that a pass gives its component. -/
def contribution (counter : EmissionCounter) (current : EmissionMap) (n : Node) : Nat :=
  counter.emitters.statementCount n +
    ((Call.ofNode? n).map (counter.indirectCount current)).getD 0

section
variable {emitters : ContentEmitters} {components : List FunctionDecl} {f g : FunctionDecl}
  {current : EmissionMap} {n : Node} {call : Call} {name : String}

/-! ### Counts as sums over statements -/

theorem total_filterMap {α : Type} (xs : List α) (part : α → Option Call) (count : Call → Nat) :
    total ((xs.filterMap part).map count) =
      total (xs.map fun x => ((part x).map count).getD 0) := by
  rw [total_eq_sum, total_eq_sum]
  induction xs with
  | nil => rfl
  | cons x xs ih =>
    rw [List.filterMap_cons, List.map_cons, List.sum_cons, ← ih]
    cases part x with
    | none => exact (Nat.zero_add _).symm
    | some call => rfl

/-- The direct count that a component starts with is what its statements count. -/
theorem direct_eq (emitters : ContentEmitters) (f : FunctionDecl) :
    (f.block?.map emitters.blockCount).getD 0 =
      total (f.statements.map emitters.statementCount) := by
  unfold FunctionDecl.statements
  cases f.block? <;> rfl

theorem weight_eq_total :
    (ofComponents emitters components).weight current
        (f, (f.block?.map emitters.blockCount).getD 0) =
      total (f.statements.map ((ofComponents emitters components).contribution current)) := by
  rw [weight, direct_eq, total_filterMap, total_eq_sum, total_eq_sum, total_eq_sum,
    ← List.sum_map_add]
  rfl

theorem get_refine_eq_total (hid : Identified components) (hf : f ∈ components) :
    ((ofComponents emitters components).refine current).get f =
      total (f.statements.map
        ((ofComponents emitters components).contribution current)) := by
  rw [get_refine_of_mem hid hf, weight_eq_total]

theorem contribution_none (counter : EmissionCounter) (n : Node) :
    counter.contribution .none n = counter.emitters.statementCount n := by
  unfold contribution
  cases Call.ofNode? n with
  | none => rfl
  | some call => rw [Option.map_some, Option.getD_some, indirectCount_none, Nat.add_zero]

theorem get_seed_eq_total (hid : Identified components) (hf : f ∈ components) :
    (ofComponents emitters components).seed.get f =
      total (f.statements.map emitters.statementCount) := by
  rw [seed_eq_refine, get_refine_eq_total hid hf]
  exact congrArg total (List.map_congr_left fun n _ => contribution_none _ n)

/-! ### Calls of denied names -/

theorem emits_eq_false_of_denied (hdenied : name ∈ emitters.denied)
    (hname : call.name? = some name) : emitters.emits call = false := by
  refine Bool.eq_false_iff.2 fun h => ?_
  obtain ⟨other, hother, -, hallowed, -⟩ := emits_iff.1 h
  obtain rfl : name = other := Option.some.inj (hname.symm.trans hother)
  exact hallowed hdenied

theorem statementCount_eq_zero_of_denied (hdenied : name ∈ emitters.denied)
    (hcall : Call.ofNode? n = some call) (hname : call.name? = some name) :
    emitters.statementCount n = 0 := by
  rw [statementCount_eq, if_pos (Call.kind_of_ofNode? hcall), hcall, Option.any_some,
    emits_eq_false_of_denied hdenied hname]
  rfl

theorem calleeCount_ofComponents (hname : call.name? = some name)
    (hreceiver : call.receiver? = none) :
    (ofComponents emitters components).calleeCount current call =
      largest ((components.filter (·.name? == some name)).map current.get) := by
  unfold calleeCount ofComponents
  rw [hreceiver, hname]
  simp only [Option.isSome_none, Bool.false_eq_true, if_false, List.filter_map, List.map_map]
  rfl

theorem contribution_of_denied (hdenied : name ∈ emitters.denied)
    (hcall : Call.ofNode? n = some call) (hname : call.name? = some name)
    (hreceiver : call.receiver? = none) :
    (ofComponents emitters components).contribution current n =
      largest ((components.filter (·.name? == some name)).map current.get) := by
  have hunknown : emitters.isKnown name = false :=
    Bool.eq_false_iff.2 fun h => (isKnown_iff.1 h).1 hdenied
  have hindirect : (ofComponents emitters components).indirectCount current call =
      (ofComponents emitters components).calleeCount current call := by
    have hemitters : (ofComponents emitters components).emitters = emitters := rfl
    rw [indirectCount, hemitters, hname, Option.any_some, hunknown,
      emits_eq_false_of_denied hdenied hname]
    rfl
  rw [← calleeCount_ofComponents hname hreceiver, ← hindirect, contribution, hcall]
  exact (congrArg (· + _) (statementCount_eq_zero_of_denied hdenied hcall hname)).trans
    (Nat.zero_add _)

end

/-- What is counted for a component is the sum over its statements. A call of a name that never
emits contributes nothing to the first counts, and to the counts of every pass what the composables
of its name count so far; that is nothing throughout exactly if they never count. -/
theorem denied_calls_count_callees {parser : Parser} {text : String} {tree : SyntaxTree}
    (hread : SyntaxTree.read? parser text = some tree) {emitters : ContentEmitters} {name : String}
    (hdenied : name ∈ emitters.denied) :
    let components := componentsIn tree.rootNode
    let counter := ofComponents emitters components
    (∀ f ∈ components,
      counter.seed.get f = total (f.statements.map emitters.statementCount) ∧
      ∀ current, (counter.refine current).get f =
        total (f.statements.map (counter.contribution current))) ∧
    (∃ k, counter.resolve = counter.refine^[k] counter.seed) ∧
    ∀ n call, Call.ofNode? n = some call → call.name? = some name → call.receiver? = none →
      emitters.statementCount n = 0 ∧
      (∀ current, counter.contribution current n =
        largest ((components.filter (·.name? == some name)).map current.get)) ∧
      ((∀ k, counter.contribution (counter.refine^[k] counter.seed) n = 0) ↔
        ∀ g ∈ components, g.name? = some name →
          ∀ k, (counter.refine^[k] counter.seed).get g = 0) := by
  intro components counter
  have hin : ∀ f ∈ components, f.node ∈ tree.rootNode.preorder := fun f hf =>
    FunctionDecl.mem_preorder_of_mem_allIn (List.mem_filter.1 (List.mem_mergeSort.1 hf)).1
  have hid := SyntaxTree.identified_of_mem (SyntaxTree.numberedFrom_of_read? hread) hin
  obtain ⟨passes, -, hresolve⟩ := exists_resolve_eq_iterate counter
  refine ⟨fun f hf => ⟨get_seed_eq_total hid hf, fun current => get_refine_eq_total hid hf⟩,
    ⟨passes, hresolve⟩, fun n call hcall hname hreceiver => ?_⟩
  have hcontribution (current : EmissionMap) : counter.contribution current n =
      largest ((components.filter (·.name? == some name)).map current.get) :=
    contribution_of_denied hdenied hcall hname hreceiver
  refine ⟨statementCount_eq_zero_of_denied hdenied hcall hname, hcontribution, ?_⟩
  constructor
  · intro h g hg hgname k
    have hzero := h k
    rw [hcontribution, ← Nat.le_zero, largest_le_iff] at hzero
    exact Nat.le_zero.1 (hzero _ (List.mem_map_of_mem
      (List.mem_filter.2 ⟨hg, beq_iff_eq.2 hgname⟩)))
  · intro h k
    rw [hcontribution, ← Nat.le_zero, largest_le_iff]
    intro a hcount
    obtain ⟨g, hg, rfl⟩ := List.mem_map.1 hcount
    obtain ⟨hg, hgname⟩ := List.mem_filter.1 hg
    exact Nat.le_of_eq (h g hg (beq_iff_eq.1 hgname) k)

/-- A page that only calls a title which never emits but contains two emitters. -/
def titleFile : String := sketchText "P" ["T"] ++ sketchText "T" ["E", "E"]

def titleParser : Parser := fun text =>
  if text = titleFile then
    some ⟨.node ⟨"source_file", true, false, 0, 61⟩ [sketchTree 0 1, sketchTree 28 2], false⟩
  else none

def titleTree : SyntaxTree := (SyntaxTree.read? titleParser titleFile).get (by decide +kernel)

theorem denied_calls_count_callees_title :
    SyntaxTree.read? titleParser titleFile = some titleTree ∧
    componentsIn titleTree.rootNode = sketchComponents titleTree ∧
    let counter := ofComponents ⟨["E"], ["T"]⟩ (sketchComponents titleTree)
    counter.seed.counts = [(1, 0), (17, 2)] ∧
    counter.resolve.counts = [(1, 2), (17, 2)] ∧
    ∃ f ∈ sketchComponents titleTree, ∃ n ∈ f.statements,
      ContentEmitters.statementCount ⟨["E"], ["T"]⟩ n = 0 ∧
      counter.contribution counter.seed n = 2 := by
  have hread : SyntaxTree.read? titleParser titleFile = some titleTree :=
    (Option.some_get _).symm
  have hsorted : componentsIn titleTree.rootNode = sketchComponents titleTree :=
    List.mergeSort_of_pairwise (by decide +kernel)
  have hcounter : ofComponents ⟨["E"], ["T"]⟩ (sketchComponents titleTree) = _ :=
    ofComponents_of_calls (by decide +kernel)
  obtain ⟨f, hf, n, hn, call, hcall, hname, hreceiver⟩ :
      ∃ f ∈ sketchComponents titleTree, ∃ n ∈ f.statements, ∃ call ∈ Call.ofNode? n,
        call.name? = some "T" ∧ call.receiver?.isNone = true := by decide +kernel
  have hmem : "T" ∈ (⟨["E"], ["T"]⟩ : ContentEmitters).denied := by decide
  have hdenied := denied_calls_count_callees hread hmem
  rw [hsorted] at hdenied
  obtain ⟨hzero, hcount, -⟩ :=
    hdenied.2.2 n call hcall hname (Option.isNone_iff_eq_none.1 hreceiver)
  refine ⟨hread, hsorted, ?_, ?_, f, hf, n, hn, hzero, (hcount _).trans ?_⟩
  · rw [hcounter]
    decide +kernel
  · rw [hcounter]
    decide +kernel
  · rw [hcounter]
    decide +kernel

end EmissionCounter

end ComposeCheck
