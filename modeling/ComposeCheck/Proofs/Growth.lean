import ComposeCheck.Proofs.Denied
import ComposeCheck.Proofs.Licence
import ComposeCheck.Proofs.Remaining
import Mathlib.Algebra.BigOperators.Ring.List

/-!
# How large counts get

A statement counts no more than it has nodes, so direct counts are no larger than the file. A pass
multiplies: what it counts for a component is at most the size of the file times the largest count
before the pass (`weight_le`), and at least the count of another component times the number of its
calls (`countP_mul_le_weight`). By induction over the passes, counts stay below a power of the size
of the file, but they grow by a factor with each component in a row that calls the one before it
several times: a few dozen of them are enough to leave the words.

The maps that counting makes are those of the passes up to the number of components
(`mem_maps_iff`), so counting overflows exactly if one of these holds a count that is too large, and
a run over the file fails exactly if a rule is on that counts (`overflowed_dispatch_iff`).
-/

namespace ComposeCheck

theorem Node.sum_size_namedChildren_lt (n : Node) : (n.namedChildren.map size).sum < n.size := by
  have hle : (n.namedChildren.map size).sum ≤ (n.children.map size).sum :=
    (List.filter_sublist.map size).sum_le_sum fun _ _ => Nat.zero_le _
  have hchildren := n.sum_size_children
  omega

theorem Node.size_le_of_mem_preorder {m n : Node} (h : m ∈ n.preorder) : m.size ≤ n.size := by
  rcases eq_or_under_of_mem_preorder h with rfl | hunder
  · exact Nat.le_refl _
  · exact Nat.le_of_lt (size_lt_of_under hunder)

theorem FunctionDecl.sum_size_statements_le (f : FunctionDecl) :
    (f.statements.map Node.size).sum ≤ f.node.size := by
  unfold statements
  cases hblock : f.block? with
  | none => exact Nat.zero_le _
  | some block =>
    obtain ⟨body, hbody, hchild⟩ := Option.bind_eq_some_iff.1 hblock
    have hblockSize : block.size < body.size :=
      Node.size_lt_of_mem_children (List.mem_of_find?_eq_some hchild)
    have hbodySize : body.size < f.node.size :=
      Node.size_lt_of_mem_children (List.mem_of_find?_eq_some hbody)
    have hsum := block.sum_size_namedChildren_lt
    rw [Option.map_some, Option.getD_some]
    omega

namespace ContentEmitters

open Node

/-- A statement calls a function: not on a receiver, and by a name that is not known to emit. -/
def callsTo (emitters : ContentEmitters) (g : FunctionDecl) (n : Node) : Bool :=
  (Call.ofNode? n).any fun call => call.receiver?.isNone &&
    call.name?.any fun name => !emitters.isKnown name && g.name? == some name

section
variable {emitters : ContentEmitters} {n branch : Node} {g : FunctionDecl}

theorem callsTo_iff : emitters.callsTo g n = true ↔ ∃ call name, Call.ofNode? n = some call ∧
    call.receiver? = none ∧ call.name? = some name ∧ emitters.isKnown name = false ∧
      g.name? = some name := by
  simp only [callsTo, Option.any_eq_true, Bool.and_eq_true, Option.isNone_iff_eq_none,
    Bool.not_eq_true', beq_iff_eq]
  constructor
  · rintro ⟨call, hcall, hreceiver, name, hname, hunknown, hg⟩
    exact ⟨call, name, hcall, hreceiver, hname, hunknown, hg⟩
  · rintro ⟨call, name, hcall, hreceiver, hname, hunknown, hg⟩
    exact ⟨call, hcall, hreceiver, name, hname, hunknown, hg⟩

/-! ### Direct counts -/

theorem branchCount_le_size
    (h : ∀ m ∈ branchStatements branch, emitters.statementCount m ≤ m.size) :
    emitters.branchCount branch ≤ branch.size := by
  have hsum : ((branchStatements branch).map emitters.statementCount).sum ≤
      ((branchStatements branch).map size).sum := List.sum_le_sum h
  rw [branchCount_eq, total_eq_sum]
  refine Nat.le_trans hsum ?_
  unfold branchStatements
  split
  · exact Nat.le_of_lt branch.sum_size_namedChildren_lt
  · simp

theorem statementCount_le_size (emitters : ContentEmitters) (n : Node) :
    emitters.statementCount n ≤ n.size := by
  induction hsize : n.size using Nat.strongRecOn generalizing n with
  | ind size ih =>
  subst hsize
  have hlt {branch : Node} (hbranch : branch ∈ countedBranches n) : branch.size < n.size :=
    size_lt_of_under (under_of_mem_countedBranches hbranch)
  have hcount : ∀ branch ∈ countedBranches n, emitters.branchCount branch ≤ n.size := by
    intro branch hbranch
    have hle : emitters.branchCount branch ≤ branch.size := by
      refine branchCount_le_size fun m hm => ih m.size (size_lt_of_under ?_) m rfl
      exact (inside_iff.2 ⟨branch, hbranch, hm⟩).under fun _ => under_of_mem_countedBranches
    exact Nat.le_trans hle (Nat.le_of_lt (hlt hbranch))
  have hpos : 0 < n.size := n.tree.size_pos
  rw [statementCount_eq]
  split
  · split <;> omega
  split
  · split
    case isTrue hany =>
      -- A loop counts two, but only if there is a body below it.
      obtain ⟨body, hbody, -⟩ := List.any_eq_true.1 hany
      have hbodyPos : 0 < body.size := body.tree.size_pos
      have := hlt hbody
      omega
    case isFalse => exact Nat.zero_le _
  · exact largest_le_iff.2 (List.forall_mem_map.2 hcount)

theorem blockCount_le_size (emitters : ContentEmitters) (block : Node) :
    emitters.blockCount block ≤ block.size := by
  have hsum : (block.namedChildren.map emitters.statementCount).sum ≤
      (block.namedChildren.map size).sum :=
    List.sum_le_sum fun n _ => statementCount_le_size emitters n
  exact Nat.le_trans hsum (Nat.le_of_lt block.sum_size_namedChildren_lt)

end

end ContentEmitters

theorem EmissionMap.get_le {emissions : EmissionMap} {bound : Nat}
    (h : ∀ entry ∈ emissions.counts, entry.2 ≤ bound) (f : FunctionDecl) :
    emissions.get f ≤ bound := by
  unfold get
  cases hlookup : emissions.counts.lookup f.node.id with
  | none => exact Nat.zero_le _
  | some count =>
    obtain ⟨before, after, hcounts, -⟩ := List.lookup_eq_some_iff.1 hlookup
    exact h (f.node.id, count) (by simp [hcounts])

theorem EmissionMap.exists_entry_of_le_get {emissions : EmissionMap} {f : FunctionDecl} {bound : Nat}
    (hpos : 0 < bound) (h : bound ≤ emissions.get f) :
    ∃ entry ∈ emissions.counts, bound ≤ entry.2 := by
  by_contra hnone
  have hle : emissions.get f ≤ bound - 1 := emissions.get_le (fun entry hentry =>
    Nat.le_pred_of_lt (Nat.lt_of_not_le fun hentry' => hnone ⟨entry, hentry, hentry'⟩)) f
  omega

namespace EmissionCounter

open ContentEmitters

section
variable {counter : EmissionCounter} {emitters : ContentEmitters} {components : List FunctionDecl}
  {current : EmissionMap} {f g : FunctionDecl} {n : Node} {call : Call} {bound size : Nat}

/-! ### The maps that counting makes -/

/-- A pass that changes nothing is the last one; further ones would make the same map. -/
theorem mem_passesUpTo_iff {passes : Nat} {made : EmissionMap} :
    made ∈ counter.passesUpTo passes current ↔
      ∃ k < passes, counter.refine^[k + 1] current = made := by
  induction passes generalizing current with
  | zero => simp [passesUpTo]
  | succ passes ih =>
    have hsplit : (∃ k < passes + 1, counter.refine^[k + 1] current = made) ↔
        counter.refine current = made ∨
          ∃ k < passes, counter.refine^[k + 1] (counter.refine current) = made := by
      constructor
      · rintro ⟨- | k, hk, hmade⟩
        · exact .inl hmade
        · exact .inr ⟨k, Nat.lt_of_succ_lt_succ hk, hmade⟩
      · rintro (hmade | ⟨k, hk, hmade⟩)
        · exact ⟨0, Nat.succ_pos _, hmade⟩
        · exact ⟨k + 1, Nat.succ_lt_succ hk, hmade⟩
    rw [passesUpTo, hsplit]
    split
    case isTrue hstable =>
      rw [EmissionMap.beq_iff] at hstable
      rw [List.mem_singleton, eq_comm, iff_self_or]
      rintro ⟨k, -, hmade⟩
      rwa [Function.iterate_fixed (congrArg counter.refine hstable)] at hmade
    case isFalse => rw [List.mem_cons, ih, eq_comm]

theorem mem_maps_iff {made : EmissionMap} : made ∈ counter.maps ↔
    ∃ k ≤ counter.components.length, counter.refine^[k] counter.seed = made := by
  rw [maps, List.mem_cons, mem_passesUpTo_iff]
  constructor
  · rintro (rfl | ⟨k, hk, hmade⟩)
    · exact ⟨0, Nat.zero_le _, rfl⟩
    · exact ⟨k + 1, hk, hmade⟩
  · rintro ⟨- | k, hk, hmade⟩
    · exact .inl hmade.symm
    · exact .inr ⟨k, hk, hmade⟩

theorem overflows_iff : counter.overflows = true ↔ ∃ k ≤ counter.components.length,
    ∃ entry ∈ (counter.refine^[k] counter.seed).counts, wordCount ≤ entry.2 := by
  simp only [overflows, sums, List.any_eq_true, List.mem_flatMap, mem_maps_iff, List.mem_map,
    decide_eq_true_eq]
  constructor
  · rintro ⟨_, ⟨_, ⟨k, hk, rfl⟩, entry, hentry, rfl⟩, hlarge⟩
    exact ⟨k, hk, entry, hentry, hlarge⟩
  · rintro ⟨k, hk, entry, hentry, hlarge⟩
    exact ⟨entry.2, ⟨_, ⟨k, hk, rfl⟩, entry, hentry, rfl⟩, hlarge⟩

/-! ### How far a pass can raise the counts -/

theorem calleeCount_le (h : ∀ g, current.get g ≤ bound) :
    counter.calleeCount current call ≤ bound := by
  rcases calleeCount_cases call with hzero | ⟨name, -, -, hcount⟩
  · rw [hzero]
    exact Nat.zero_le _
  · rw [hcount]
    exact largest_le_iff.2 (List.forall_mem_map.2 fun component _ => h component.1)

theorem contribution_le (h : ∀ g, current.get g ≤ bound) (hpos : 0 < bound) :
    counter.contribution current n ≤ n.size * bound := by
  have hsize : 0 < n.size := n.tree.size_pos
  unfold contribution
  cases hcall : Call.ofNode? n with
  | none =>
    exact Nat.le_trans (statementCount_le_size _ n) (Nat.le_mul_of_pos_right n.size hpos)
  | some call =>
    -- A call that counts by itself adds one less of its callee.
    have hcallee : counter.calleeCount current call ≤ bound := calleeCount_le h
    refine Nat.le_trans ?_ (Nat.le_mul_of_pos_left bound hsize)
    rw [statementCount_eq, if_pos (Call.kind_of_ofNode? hcall), hcall, Option.any_some,
      Option.map_some, Option.getD_some, indirectCount]
    split <;> split <;> omega

theorem weight_le (h : ∀ g, current.get g ≤ bound) (hpos : 0 < bound)
    (hsize : f.node.size ≤ size) :
    (ofComponents emitters components).weight current
      (f, (f.block?.map emitters.blockCount).getD 0) ≤ size * bound := by
  have hsum : (f.statements.map ((ofComponents emitters components).contribution current)).sum ≤
      (f.statements.map (·.size * bound)).sum :=
    List.sum_le_sum fun n _ => contribution_le h hpos
  rw [List.sum_map_mul_right] at hsum
  rw [weight_eq_total, total_eq_sum]
  exact Nat.le_trans hsum
    (Nat.mul_le_mul_right bound (Nat.le_trans f.sum_size_statements_le hsize))

theorem iterate_le_pow (hsize : ∀ f ∈ components, f.node.size ≤ size) (k : Nat) :
    let counter := ofComponents emitters components
    ∀ entry ∈ (counter.refine^[k] counter.seed).counts, entry.2 ≤ size ^ (k + 1) := by
  intro counter
  have hpass {current : EmissionMap} {bound : Nat} (h : ∀ g, current.get g ≤ bound)
      (hpos : 0 < bound) : ∀ entry ∈ (counter.refine current).counts,
        entry.2 ≤ size * bound := by
    intro entry hentry
    obtain ⟨component, hcomponent, rfl⟩ := List.mem_map.1 hentry
    obtain ⟨f, hf, rfl⟩ := List.mem_map.1 hcomponent
    exact weight_le h hpos (hsize f hf)
  induction k with
  | zero =>
    -- The seed is the pass over no counts.
    rw [Function.iterate_zero_apply, seed_eq_refine, Nat.zero_add, Nat.pow_one]
    have hdirect : ∀ entry ∈ (counter.refine .none).counts, entry.2 ≤ size * 1 :=
      hpass (fun _ => Nat.zero_le 1) Nat.one_pos
    rwa [Nat.mul_one] at hdirect
  | succ k ih =>
    intro entry hentry
    rw [Function.iterate_succ_apply'] at hentry
    have hpos : 0 < size ^ (k + 1) := by
      obtain ⟨component, hcomponent, -⟩ := List.mem_map.1 hentry
      obtain ⟨f, hf, -⟩ := List.mem_map.1 hcomponent
      exact Nat.pow_pos (Nat.lt_of_lt_of_le f.node.tree.size_pos (hsize f hf))
    rw [Nat.pow_succ']
    exact hpass (EmissionMap.get_le ih) hpos entry hentry

/-! ### How far a pass has to raise the counts -/

theorem get_le_contribution (hg : g ∈ components) (hcalls : emitters.callsTo g n = true) :
    current.get g ≤ (ofComponents emitters components).contribution current n := by
  obtain ⟨call, name, hcall, hreceiver, hname, hunknown, hgname⟩ := callsTo_iff.1 hcalls
  have hcallee : current.get g ≤ (ofComponents emitters components).calleeCount current call := by
    rw [calleeCount_ofComponents hname hreceiver]
    exact le_largest (List.mem_map_of_mem (List.mem_filter.2 ⟨hg, beq_iff_eq.2 hgname⟩))
  have hemitters : (ofComponents emitters components).emitters = emitters := rfl
  rw [contribution, hemitters, statementCount_eq, if_pos (Call.kind_of_ofNode? hcall), hcall,
    Option.any_some, Option.map_some, Option.getD_some, indirectCount, hemitters, hname,
    Option.any_some, hunknown]
  simp only [Bool.false_eq_true, if_false]
  split <;> omega

theorem countP_mul_le_weight (hg : g ∈ components) :
    f.statements.countP (emitters.callsTo g) * current.get g ≤
      (ofComponents emitters components).weight current
        (f, (f.block?.map emitters.blockCount).getD 0) := by
  have hcalls : ((f.statements.filter (emitters.callsTo g)).map
      ((ofComponents emitters components).contribution current)).sum ≤
        (f.statements.map ((ofComponents emitters components).contribution current)).sum :=
    (List.filter_sublist.map _).sum_le_sum fun _ _ => Nat.zero_le _
  have hsum := List.card_nsmul_le_sum ((f.statements.filter (emitters.callsTo g)).map
    ((ofComponents emitters components).contribution current)) (current.get g)
    (List.forall_mem_map.2 fun n hn => get_le_contribution hg (List.mem_filter.1 hn).2)
  rw [List.length_map, ← List.countP_eq_length_filter, Nat.nsmul_eq_mul] at hsum
  rw [weight_eq_total, total_eq_sum]
  exact Nat.le_trans hsum hcalls

/-- Where each of some components calls the one before it several times, counts grow by that factor
from one to the next. -/
theorem pow_mul_le_get (hid : Identified components) {b n : Nat} {chain : Nat → FunctionDecl}
    (hchain : ∀ i ≤ n, chain i ∈ components)
    (hcalls : ∀ i < n, b ≤ (chain (i + 1)).statements.countP (emitters.callsTo (chain i))) :
    let counter := ofComponents emitters components
    b ^ n * counter.seed.get (chain 0) ≤
      (counter.refine^[n] counter.seed).get (chain n) := by
  intro counter
  induction n with
  | zero => simp
  | succ n ih =>
    have hprior := ih (fun i hi => hchain i (Nat.le_succ_of_le hi))
      fun i hi => hcalls i (Nat.lt_succ_of_lt hi)
    have hmem := hchain (n + 1) (Nat.le_refl _)
    rw [Function.iterate_succ_apply', get_refine, component?_ofComponents hid hmem,
      Option.map_some, Option.getD_some, Nat.pow_succ', Nat.mul_assoc]
    refine Nat.le_trans (Nat.mul_le_mul (hcalls n (Nat.lt_succ_self n)) hprior) ?_
    exact countP_mul_le_weight (hchain n (Nat.le_succ n))

end

end EmissionCounter

/-! ### Runs that fail -/

open EmissionCounter

theorem eq_of_mem_visitsOf_file {root n : Node} (h : Visit.file n ∈ visitsOf root) : n = root := by
  rcases List.mem_cons.1 h with h | h
  · exact Visit.file.inj h
  obtain ⟨m, -, h⟩ := List.mem_flatMap.1 h
  split at h
  · simp at h
  split at h
  · simp at h
  · split at h <;> simp at h

theorem eq_of_countsEmissions {rule : Rule} (hrule : rule ∈ allRules) (h : rule.CountsEmissions) :
    rule = Rules.multipleContentEmitters ∨ rule = Rules.contentEmitterReturningValues :=
  h.imp (eq_of_code_eq hrule (by simp [allRules])) (eq_of_code_eq hrule (by simp [allRules]))

/-- Of the rules there are, those that count fail at the root of a file if a sum there is too large,
and no rule fails anywhere else. -/
theorem Scheduled.failsAt_iff {s : Scheduled} (hs : s.rule ∈ allRules) {backend : Backend}
    {visit : Visit} : s.failsAt backend visit = true ↔ s.rule.CountsEmissions ∧
      ∃ root, visit = .file root ∧ (ofComponents (ContentEmitters.read backend .empty).1
        (componentsIn root)).overflows = true := by
  constructor
  · intro h
    have hcounts : s.rule.CountsEmissions :=
      (independent_of_mem_allRules hs).fails visit .plain backend .empty h
    refine ⟨hcounts, ?_⟩
    rw [failsAt] at h
    rcases eq_of_countsEmissions hs hcounts with hrule | hrule <;> rw [hrule] at h <;>
      cases visit <;> first | exact ⟨_, rfl, h⟩ | exact absurd h Bool.false_ne_true
  · rintro ⟨hcounts, root, rfl, h⟩
    rw [failsAt]
    rcases eq_of_countsEmissions hs hcounts with hrule | hrule <;> rw [hrule] <;> exact h

/-- A run of rules over a file fails if one of them counts what composables emit and a sum is too
large for a word, and in no other case. -/
theorem overflowed_dispatch_iff (tree : SyntaxTree) (file : CheckedFile) {rules : List Scheduled}
    (hrules : ∀ s ∈ rules, s.rule ∈ allRules) (mode : Mode) (backend : Backend) :
    (dispatch tree file rules mode backend .empty).1.overflowed = true ↔
      (∃ s ∈ rules, s.rule.CountsEmissions) ∧
        (ofComponents (ContentEmitters.read backend .empty).1
          (componentsIn tree.rootNode)).overflows = true := by
  have hreport : (dispatch tree file rules .report backend .empty).1.overflowed =
      rules.any fun s => (visitsOf tree.rootNode).any (s.failsAt backend) :=
    (reports_dispatch tree file backend hrules).2.2.2
  rw [(dispatch_eq_of_modes tree file hrules mode .report backend .empty).2, hreport,
    List.any_eq_true]
  simp only [List.any_eq_true]
  constructor
  · rintro ⟨s, hs, visit, hvisit, hfails⟩
    obtain ⟨hcounts, root, rfl, hoverflows⟩ := (Scheduled.failsAt_iff (hrules s hs)).1 hfails
    exact ⟨⟨s, hs, hcounts⟩, eq_of_mem_visitsOf_file hvisit ▸ hoverflows⟩
  · rintro ⟨⟨s, hs, hcounts⟩, hoverflows⟩
    exact ⟨s, hs, .file tree.rootNode, List.mem_cons_self,
      (Scheduled.failsAt_iff (hrules s hs)).2 ⟨hcounts, _, rfl, hoverflows⟩⟩

namespace EmissionCounter

open ContentEmitters

/-- What a statement, a branch or a block of a file counts is no more than its nodes. A sum is too
large for a word exactly if one of as many passes as there are components makes a count that is. The
counts are at most a power of the file's size; but where each of some components calls the one before
it several times, they are at least a power of that number. A run of rules over the file fails
exactly if one of them counts and a sum is too large, and then the file has no other answer. -/
theorem sums_fit_iff {parser : Parser} {text : String} {tree : SyntaxTree}
    (hread : SyntaxTree.read? parser text = some tree) (emitters : ContentEmitters) :
    let components := componentsIn tree.rootNode
    let counter := ofComponents emitters components
    (∀ n, emitters.statementCount n ≤ n.size ∧ emitters.branchCount n ≤ n.size ∧
      emitters.blockCount n ≤ n.size) ∧
    (counter.overflows = true ↔ ∃ k ≤ components.length,
      ∃ entry ∈ (counter.refine^[k] counter.seed).counts, wordCount ≤ entry.2) ∧
    (∀ k, ∀ entry ∈ (counter.refine^[k] counter.seed).counts,
      entry.2 ≤ tree.size ^ (k + 1)) ∧
    (∀ b n (chain : Nat → FunctionDecl), (∀ i ≤ n, chain i ∈ components) →
      (∀ i < n, b ≤ (chain (i + 1)).statements.countP (emitters.callsTo (chain i))) →
      b ^ n * counter.seed.get (chain 0) ≤ (counter.refine^[n] counter.seed).get (chain n) ∧
      (n ≤ components.length → wordCount ≤ b ^ n * counter.seed.get (chain 0) →
        counter.overflows = true)) ∧
    ∀ checker : Checker, (∀ s ∈ checker.rules, s.rule ∈ allRules) →
      (ContentEmitters.read checker.options.resolve .empty).1 = emitters → ∀ file mode,
      ((checker.run file tree mode).overflowed = true ↔
        (∃ s ∈ checker.rules, s.rule.CountsEmissions) ∧ counter.overflows = true) := by
  intro components counter
  have hin : ∀ f ∈ components, f.node ∈ tree.rootNode.preorder := fun f hf =>
    FunctionDecl.mem_preorder_of_mem_allIn (List.mem_filter.1 (List.mem_mergeSort.1 hf)).1
  have hid := SyntaxTree.identified_of_mem (SyntaxTree.numberedFrom_of_read? hread) hin
  have hlength : counter.components.length = components.length := List.length_map _
  have hoverflows : counter.overflows = true ↔ ∃ k ≤ components.length,
      ∃ entry ∈ (counter.refine^[k] counter.seed).counts, wordCount ≤ entry.2 :=
    hlength ▸ overflows_iff
  refine ⟨fun n => ⟨statementCount_le_size emitters n, ?_, blockCount_le_size emitters n⟩,
    hoverflows, iterate_le_pow fun f hf => Node.size_le_of_mem_preorder (hin f hf), ?_, ?_⟩
  · exact branchCount_le_size fun m _ => statementCount_le_size emitters m
  · intro b n chain hchain hcalls
    have hgrows := pow_mul_le_get hid hchain hcalls
    refine ⟨hgrows, fun hn hlarge => hoverflows.2 ⟨n, hn, ?_⟩⟩
    exact EmissionMap.exists_entry_of_le_get (by decide) (Nat.le_trans hlarge hgrows)
  · rintro checker hrules rfl file mode
    exact overflowed_dispatch_iff tree file hrules mode checker.options.resolve

/-- A composable that emits twice, one that calls it three times, and one that calls that one three
times. -/
def stairFile : String :=
  sketchText "P" ["E", "E"] ++ sketchText "Q" ["P", "P", "P"] ++ sketchText "R" ["Q", "Q", "Q"]

def stairParser : Parser := fun text =>
  if text = stairFile then
    some ⟨.node ⟨"source_file", true, false, 0, 109⟩
      [sketchTree 0 2, sketchTree 33 3, sketchTree 71 3], false⟩
  else none

def stairTree : SyntaxTree := (SyntaxTree.read? stairParser stairFile).get (by decide +kernel)

def stairChain (i : Nat) : FunctionDecl :=
  (sketchComponents stairTree).getD i ⟨stairTree.rootNode⟩

theorem sums_fit_iff_stairs :
    SyntaxTree.read? stairParser stairFile = some stairTree ∧
    componentsIn stairTree.rootNode = sketchComponents stairTree ∧
    let counter := ofComponents ⟨["E"], []⟩ (sketchComponents stairTree)
    counter.sums = [2, 0, 0, 2, 6, 0, 2, 6, 18, 2, 6, 18] ∧
    3 ^ 2 * 2 ≤ (counter.refine^[2] counter.seed).get (stairChain 2) := by
  have hread : SyntaxTree.read? stairParser stairFile = some stairTree :=
    (Option.some_get _).symm
  have hsorted : componentsIn stairTree.rootNode = sketchComponents stairTree :=
    List.mergeSort_of_pairwise (by decide +kernel)
  have hcounter : ofComponents ⟨["E"], []⟩ (sketchComponents stairTree) = _ :=
    ofComponents_of_calls (by decide +kernel)
  have hlength : (sketchComponents stairTree).length = 3 := by decide +kernel
  have hchain : ∀ i ≤ 2, stairChain i ∈ sketchComponents stairTree := by
    intro i hi
    have hlt : i < (sketchComponents stairTree).length := by omega
    rw [stairChain, List.getD_eq_getElem?_getD, List.getElem?_eq_getElem hlt]
    exact List.getElem_mem hlt
  have hcalls : ∀ i < 2, 3 ≤ (stairChain (i + 1)).statements.countP
      (ContentEmitters.callsTo ⟨["E"], []⟩ (stairChain i)) := by decide +kernel
  have hfit := sums_fit_iff hread ⟨["E"], []⟩
  rw [hsorted] at hfit
  obtain ⟨-, -, -, hgrows, -⟩ := hfit
  have hsums : (ofComponents ⟨["E"], []⟩ (sketchComponents stairTree)).sums =
      [2, 0, 0, 2, 6, 0, 2, 6, 18, 2, 6, 18] := by
    rw [hcounter]
    decide +kernel
  have hdirect : (ofComponents ⟨["E"], []⟩ (sketchComponents stairTree)).seed.get
      (stairChain 0) = 2 := by
    rw [hcounter]
    decide +kernel
  have hgrown := (hgrows 3 2 stairChain hchain hcalls).1
  rw [hdirect] at hgrown
  exact ⟨hread, hsorted, hsums, hgrown⟩

end EmissionCounter

end ComposeCheck
