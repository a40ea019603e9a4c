import ComposeCheck.Proofs.Halves
import ComposeCheck.Proofs.Passes

/-!
# Calls that count directly

The direct count of a function looks into the branches of its statements: it is positive exactly if
a call that emits stands in them (`countedBranches`). These are the branches as they are written
(`writtenBranches`), but for a loop whose body is not found: the body of a `do` without braces is
passed over for the condition, and a loop without a body has what stands last in its head counted.
Where every body is found (`InPlace`) the count is positive exactly if a call that emits stands in
the branches that are written. In any case such a call is one of the body's calls, and the count
only grows with the names that emit and only falls with those that do not.
-/

namespace ComposeCheck

/-- The children of a node from a token on. -/
def Node.childrenFrom (token : String) (n : Node) : List Node :=
  n.children.dropWhile fun c => !c.isToken token

/-- The children of a node in front of a token. -/
def Node.childrenBefore (token : String) (n : Node) : List Node :=
  n.children.takeWhile fun c => !c.isToken token

/-- The statements that a function consists of; a body after `=` is one. -/
def FunctionDecl.bodyStatements (f : FunctionDecl) : List Node :=
  match f.block? with
  | some block => block.namedChildren
  | none => f.expression?.toList

namespace Node

section
variable {n m : Node}

theorem childrenBefore_append_childrenFrom (token : String) (n : Node) :
    n.childrenBefore token ++ n.childrenFrom token = n.children :=
  List.takeWhile_append_dropWhile

theorem under_of_mem_children (h : m ∈ n.children) : m.Under n :=
  .single (parent?_of_mem_children h)

theorem under_of_mem_namedChildren (h : m ∈ n.namedChildren) : m.Under n :=
  under_of_mem_children (List.mem_filter.1 h).1

theorem size_lt_of_under (h : m.Under n) : m.size < n.size := by
  induction h with
  | single h => exact size_lt_of_mem_children (mem_children_of_parent? h)
  | tail _ h ih =>
    exact Nat.lt_trans ih (size_lt_of_mem_children (mem_children_of_parent? h))

end

end Node

theorem Call.kind_of_ofNode? {n : Node} {call : Call} (h : ofNode? n = some call) :
    n.kind = "call_expression" :=
  (ofNode?_eq_some_iff.1 h).1

namespace ContentEmitters

open Node

/-- The branches of a statement into which counting looks. -/
def countedBranches (n : Node) : List Node :=
  if n.kind = "if_expression" then n.namedChildren.drop 1
  else if n.kind = "when_expression" then
    (n.childrenOfKind "when_entry").filterMap fun entry => entry.namedChildren.getLast?
  else if isLoop n then (loopBody? n).toList
  else []

/-- What stands directly in front of the body of a loop. -/
def loopOpening (n : Node) : String := if n.kind = "do_while_statement" then "do" else ")"

/-- Where the body of a loop stands. -/
def loopBodyPlace (n : Node) : List Node :=
  if n.kind = "do_while_statement" then
    (n.childrenFrom "do").takeWhile fun c => !c.isToken "while"
  else n.childrenFrom ")"

/-- The branches of a statement as they are written: behind the condition of an `if`, behind the
arrows of a `when`, and the body of a loop. -/
def writtenBranches (n : Node) : List Node :=
  if n.kind = "if_expression" then (n.childrenFrom ")").filter isContent
  else if n.kind = "when_expression" then
    (n.childrenOfKind "when_entry").filterMap fun entry =>
      (entry.childrenFrom "->").find? isContent
  else if isLoop n then ((loopBodyPlace n).find? isContent).toList
  else []

/-- A loop has one body, and it is in braces if it stands in front of the condition. No other block
is in sight. -/
def LoopInPlace (n : Node) : Prop :=
  ((loopBodyPlace n).filter isContent).length = 1 ∧
  (n.kind = "do_while_statement" →
    ∀ c ∈ loopBodyPlace n, c.isContent = true → c.kind = "block") ∧
  (∀ c ∈ n.childrenBefore (loopOpening n), c.kind ≠ "block") ∧
  ∀ c ∈ loopBodyPlace n, c.kind = "block" → c.isContent = true

instance (n : Node) : Decidable (LoopInPlace n) := by
  unfold LoopInPlace
  infer_instance

/-- One condition stands in front of the branches of an `if`, one body behind each arrow of a
`when`, and a loop is in place. -/
def InPlace (n : Node) : Prop :=
  (n.kind = "if_expression" → ((n.childrenBefore ")").filter isContent).length = 1) ∧
  (n.kind = "when_expression" → ∀ entry ∈ n.childrenOfKind "when_entry",
    ((entry.childrenFrom "->").filter isContent).length = 1) ∧
  (isLoop n = true → LoopInPlace n)

instance (n : Node) : Decidable (InPlace n) := by
  unfold InPlace
  infer_instance

def branchStatements (branch : Node) : List Node :=
  if branch.kind = "block" then branch.namedChildren else [branch]

/-- A statement stands in a branch of another one. -/
def Inside (branches : Node → List Node) (n m : Node) : Prop :=
  m ∈ (branches n).flatMap branchStatements

/-- A call that emits is the statement, or stands in its branches, their branches and so on. -/
def Meets (emitters : ContentEmitters) (branches : Node → List Node) (n : Node) : Prop :=
  ∃ m call, Relation.ReflTransGen (Inside branches) n m ∧ Call.ofNode? m = some call ∧
    emitters.emits call = true

section
variable {emitters other : ContentEmitters} {n m branch : Node} {f : FunctionDecl} {call : Call}
  {counts : List Nat}

/-! ### Counts as sums over branches -/

theorem largest_pos_iff : 0 < largest counts ↔ ∃ a ∈ counts, 0 < a := by
  rw [← not_iff_not, Nat.not_lt, largest_le_iff]
  simp

theorem total_pos_iff : 0 < total counts ↔ ∃ a ∈ counts, 0 < a := by
  rw [total_eq_sum, ← not_iff_not, Nat.not_lt, Nat.le_zero, List.sum_eq_zero_iff]
  simp

theorem ite_pos_iff {P : Prop} [Decidable P] {a : Nat} (ha : 0 < a) :
    (0 < if P then a else 0) ↔ P := by
  split <;> simp [*]

theorem ite_le_ite {P Q : Prop} [Decidable P] [Decidable Q] (h : P → Q) (a : Nat) :
    (if P then a else 0) ≤ if Q then a else 0 := by
  split
  case isTrue hP => rw [if_pos (h hP)]
  case isFalse => exact Nat.zero_le _

theorem branchCount_eq (emitters : ContentEmitters) (branch : Node) : emitters.branchCount branch =
    total ((branchStatements branch).map emitters.statementCount) := by
  rw [branchCount, branchStatements]
  split
  · rw [List.map_attach_eq_pmap, List.pmap_eq_map]
  · rfl

theorem statementCount_eq (emitters : ContentEmitters) (n : Node) : emitters.statementCount n =
    if n.kind = "call_expression" then if (Call.ofNode? n).any emitters.emits then 1 else 0
    else if isLoop n then if (countedBranches n).any (0 < emitters.branchCount ·) then 2 else 0
    else largest ((countedBranches n).map emitters.branchCount) := by
  rw [statementCount, countedBranches]
  split
  · rfl
  split
  case isTrue h =>
    have hloop : isLoop n = false := by rw [isLoop, h]; rfl
    rw [hloop, List.map_attach_eq_pmap, List.pmap_eq_map]
    rfl
  split
  case isTrue h =>
    have hloop : isLoop n = false := by rw [isLoop, h]; rfl
    -- The counts run over the children with their membership, which ends the recursion only.
    let count (entry : Node) : Option Nat :=
      if entry.kind = "when_entry" then entry.namedChildren.getLast?.map emitters.branchCount
      else none
    have hentries : n.children.filterMap count =
        ((n.childrenOfKind "when_entry").filterMap fun entry =>
          entry.namedChildren.getLast?).map emitters.branchCount := by
      rw [childrenOfKind, List.map_filterMap, List.filterMap_filter]
      simp only [beq_iff_eq]
      rfl
    have hattach : n.children.attach.filterMap (fun entry => count entry.1) =
        n.children.filterMap count := by
      conv => rhs; rw [← List.attach_map_subtype_val n.children, List.filterMap_map]
      rfl
    rw [hloop, ← hentries, ← hattach, if_neg Bool.false_ne_true]
    congr 2
    funext ⟨entry, hentry⟩
    simp only [count]
    split
    · split
      case h_1 branch hbranch => rw [hbranch, Option.map_some]
      case h_2 hbranch => rw [hbranch, Option.map_none]
    · rfl
  split
  case isTrue h =>
    split
    case h_1 body hbody => simp [hbody]
    case h_2 hbody => simp [hbody]
  case isFalse h => rfl

theorem directCount_eq (emitters : ContentEmitters) (f : FunctionDecl) :
    emitters.directCount f = total (f.bodyStatements.map emitters.statementCount) := by
  rw [directCount, FunctionDecl.bodyStatements]
  cases f.block? with
  | some block => rfl
  | none => cases f.expression? <;> rfl

/-! ### Where branches stand -/

theorem under_of_mem_countedBranches (h : branch ∈ countedBranches n) : branch.Under n := by
  unfold countedBranches at h
  split at h
  · exact under_of_mem_namedChildren (List.mem_of_mem_drop h)
  split at h
  · obtain ⟨entry, hentry, hlast⟩ := List.mem_filterMap.1 h
    exact (under_of_mem_namedChildren (List.mem_of_getLast? hlast)).trans
      (under_of_mem_children (List.mem_filter.1 hentry).1)
  split at h
  · rw [Option.mem_toList, loopBody?, Option.or_eq_some_iff] at h
    rcases h with h | ⟨-, h⟩
    · exact under_of_mem_children (List.mem_of_find?_eq_some h)
    · exact under_of_mem_namedChildren (List.mem_of_getLast? h)
  · cases h

theorem under_of_mem_loopBodyPlace (h : branch ∈ loopBodyPlace n) : branch.Under n := by
  unfold loopBodyPlace at h
  split at h
  · exact under_of_mem_children
      ((List.dropWhile_sublist _).mem ((List.takeWhile_sublist _).mem h))
  · exact under_of_mem_children ((List.dropWhile_sublist _).mem h)

theorem under_of_mem_writtenBranches (h : branch ∈ writtenBranches n) : branch.Under n := by
  unfold writtenBranches at h
  split at h
  · exact under_of_mem_children ((List.dropWhile_sublist _).mem (List.mem_filter.1 h).1)
  split at h
  · obtain ⟨entry, hentry, hbody⟩ := List.mem_filterMap.1 h
    have hbody := (List.dropWhile_sublist _).mem (List.mem_of_find?_eq_some hbody)
    exact (under_of_mem_children hbody).trans (under_of_mem_children (List.mem_filter.1 hentry).1)
  split at h
  · exact under_of_mem_loopBodyPlace (List.mem_of_find?_eq_some (Option.mem_toList.1 h))
  · cases h

theorem inside_iff {branches : Node → List Node} : Inside branches n m ↔
    ∃ branch ∈ branches n, m ∈ branchStatements branch :=
  List.mem_flatMap

theorem Inside.under {branches : Node → List Node} (h : Inside branches n m)
    (hbranches : ∀ branch ∈ branches n, branch.Under n) : m.Under n := by
  obtain ⟨branch, hbranch, hm⟩ := inside_iff.1 h
  unfold branchStatements at hm
  split at hm
  · exact (under_of_mem_namedChildren hm).trans (hbranches branch hbranch)
  · exact List.mem_singleton.1 hm ▸ hbranches branch hbranch

theorem mem_preorder_of_reflTransGen {branches : Node → List Node}
    (hbranches : ∀ n, ∀ branch ∈ branches n, branch.Under n)
    (h : Relation.ReflTransGen (Inside branches) n m) : m ∈ n.preorder := by
  induction h with
  | refl => exact n.self_mem_preorder
  | tail _ hstep ih =>
    exact mem_preorder_trans ih (mem_preorder_of_under (hstep.under (hbranches _)))

/-- The statements of a function stand in its body. -/
theorem exists_body_of_mem (h : n ∈ f.bodyStatements) :
    ∃ body, f.body? = some body ∧ n ∈ body.preorder ∧ body.kind = "function_body" := by
  unfold FunctionDecl.bodyStatements at h
  split at h
  case h_1 block hblock =>
    obtain ⟨body, hbody, hchild⟩ := Option.bind_eq_some_iff.1 hblock
    have hunder := (under_of_mem_namedChildren h).trans (.single (of_childOfKind? hchild).1)
    exact ⟨body, hbody, mem_preorder_of_under hunder, (of_childOfKind? hbody).2⟩
  case h_2 =>
    obtain ⟨body, hbody, h⟩ := Option.bind_eq_some_iff.1 (Option.mem_toList.1 h)
    rw [Option.ite_none_left_eq_some] at h
    have hunder : n.Under body := .single (parent?_of_firstNamedChild? h.2)
    exact ⟨body, hbody, mem_preorder_of_under hunder, (of_childOfKind? hbody).2⟩

/-! ### Counts that are positive -/

theorem branchCount_pos_iff : 0 < emitters.branchCount branch ↔
    ∃ m ∈ branchStatements branch, 0 < emitters.statementCount m := by
  rw [branchCount_eq, total_pos_iff]
  simp

/-- A statement counts if it is a call that emits, or if a statement in a branch counts. -/
theorem statementCount_pos_iff : 0 < emitters.statementCount n ↔
    (∃ call, Call.ofNode? n = some call ∧ emitters.emits call = true) ∨
      ∃ m, Inside countedBranches n m ∧ 0 < emitters.statementCount m := by
  rw [statementCount_eq]
  split
  case isTrue h =>
    have hnone : countedBranches n = [] := by
      unfold countedBranches isLoop
      rw [h]
      rfl
    have hinside : ¬∃ m, Inside countedBranches n m ∧ 0 < emitters.statementCount m := by
      rintro ⟨m, hm, -⟩
      rw [Inside, hnone] at hm
      cases hm
    rw [or_iff_left hinside, ite_pos_iff Nat.one_pos, Option.any_eq_true]
  case isFalse h =>
  have hcall : ¬∃ call, Call.ofNode? n = some call ∧ emitters.emits call = true :=
    fun ⟨call, hcall, _⟩ => h (Call.kind_of_ofNode? hcall)
  rw [or_iff_right hcall]
  have hinside : (∃ m, Inside countedBranches n m ∧ 0 < emitters.statementCount m) ↔
      ∃ branch ∈ countedBranches n, 0 < emitters.branchCount branch := by
    simp only [inside_iff, branchCount_pos_iff]
    constructor
    · rintro ⟨m, ⟨branch, hbranch, hm⟩, hpos⟩
      exact ⟨branch, hbranch, m, hm, hpos⟩
    · rintro ⟨branch, hbranch, m, hm, hpos⟩
      exact ⟨m, ⟨branch, hbranch, hm⟩, hpos⟩
  rw [hinside]
  split
  · rw [ite_pos_iff Nat.two_pos]
    simp
  · rw [largest_pos_iff]
    simp

theorem statementCount_pos_iff_meets :
    0 < emitters.statementCount n ↔ emitters.Meets countedBranches n := by
  constructor
  · intro h
    -- What stands in a branch is smaller than the statement, which carries the induction.
    induction hsize : n.size using Nat.strongRecOn generalizing n with
    | ind size ih =>
      rcases statementCount_pos_iff.1 h with ⟨call, hcall, hemits⟩ | ⟨m, hinside, hpos⟩
      · exact ⟨n, call, .refl, hcall, hemits⟩
      · have hlt := size_lt_of_under (hinside.under fun _ => under_of_mem_countedBranches)
        obtain ⟨c, call, hreach, hcall, hemits⟩ := ih m.size (hsize ▸ hlt) hpos rfl
        exact ⟨c, call, .head hinside hreach, hcall, hemits⟩
  · rintro ⟨c, call, hreach, hcall, hemits⟩
    induction hreach using Relation.ReflTransGen.head_induction_on with
    | refl => exact statementCount_pos_iff.2 (.inl ⟨call, hcall, hemits⟩)
    | head hinside _ ih => exact statementCount_pos_iff.2 (.inr ⟨_, hinside, ih⟩)

theorem directCount_pos_iff : 0 < emitters.directCount f ↔
    ∃ n ∈ f.bodyStatements, emitters.Meets countedBranches n := by
  rw [directCount_eq, total_pos_iff]
  simp [statementCount_pos_iff_meets]

/-- A call that counts is one of the calls in the body. -/
theorem exists_call_of_directCount_pos (h : 0 < emitters.directCount f) :
    ∃ body call, f.body? = some body ∧ call ∈ Call.allIn body ∧ emitters.emits call = true := by
  obtain ⟨n, hn, m, call, hreach, hcall, hemits⟩ := directCount_pos_iff.1 h
  obtain ⟨body, hbody, hmem, hkind⟩ := exists_body_of_mem hn
  have hm := mem_preorder_trans hmem
    (mem_preorder_of_reflTransGen (fun _ _ => under_of_mem_countedBranches) hreach)
  have hunder : m.Under body := by
    refine (eq_or_under_of_mem_preorder hm).resolve_left ?_
    rintro rfl
    have hne := Call.kind_of_ofNode? hcall
    rw [hkind] at hne
    simp at hne
  exact ⟨body, call, hbody, List.mem_filterMap.2 ⟨m, mem_descendants_iff.2 hunder, hcall⟩, hemits⟩

/-! ### Branches in place -/

theorem drop_namedChildren (h : ((n.childrenBefore ")").filter isContent).length = 1) :
    n.namedChildren.drop 1 = (n.childrenFrom ")").filter isContent := by
  rw [namedChildren, ← childrenBefore_append_childrenFrom ")" n, List.filter_append, List.drop_left' h]

theorem getLast?_namedChildren (h : ((n.childrenFrom "->").filter isContent).length = 1) :
    n.namedChildren.getLast? = (n.childrenFrom "->").find? isContent := by
  obtain ⟨body, hbody⟩ := List.length_eq_one_iff.1 h
  rw [← List.head?_filter, namedChildren, ← childrenBefore_append_childrenFrom "->" n,
    List.filter_append, hbody, List.getLast?_append]
  rfl

/-- Behind the place of its body a loop has something only if it is a `do`. -/
theorem exists_behind_loopBodyPlace (n : Node) :
    ∃ behind, n.children = n.childrenBefore (loopOpening n) ++ (loopBodyPlace n ++ behind) ∧
      (n.kind ≠ "do_while_statement" → behind = []) := by
  unfold loopOpening loopBodyPlace
  split
  case isTrue hdo =>
    refine ⟨(n.childrenFrom "do").dropWhile fun c => !c.isToken "while", ?_, (absurd hdo ·)⟩
    rw [List.takeWhile_append_dropWhile, childrenBefore_append_childrenFrom]
  case isFalse =>
    refine ⟨[], ?_, fun _ => rfl⟩
    rw [List.append_nil, childrenBefore_append_childrenFrom]

theorem loopBody?_eq (h : LoopInPlace n) :
    loopBody? n = (loopBodyPlace n).find? isContent := by
  obtain ⟨hone, hbraces, hfront, hcontent⟩ := h
  obtain ⟨body, hbody⟩ := List.length_eq_one_iff.1 hone
  obtain ⟨hmem, hnamed⟩ : body ∈ loopBodyPlace n ∧ body.isContent = true :=
    List.mem_filter.1 (hbody ▸ List.mem_singleton_self body)
  obtain ⟨behind, hchildren, hbehind⟩ := exists_behind_loopBodyPlace n
  have hunique : ∀ c ∈ loopBodyPlace n, c.kind = "block" → c = body := fun c hc hkind =>
    List.mem_singleton.1 (hbody ▸ List.mem_filter.2 ⟨hc, hcontent c hc hkind⟩)
  have hnone : (n.childrenBefore (loopOpening n)).find? (·.kind == "block") = none :=
    List.find?_eq_none.2 fun c hc => by simpa using hfront c hc
  have hblock : n.childOfKind? "block" =
      ((loopBodyPlace n).find? (·.kind == "block")).or (behind.find? (·.kind == "block")) := by
    rw [childOfKind?, hchildren, List.find?_append, List.find?_append, hnone, Option.none_or]
  rw [loopBody?, hblock, ← List.head?_filter (p := isContent), hbody]
  by_cases hkind : body.kind = "block"
  · have hsome : ((loopBodyPlace n).find? (·.kind == "block")).isSome = true :=
      List.find?_isSome.2 ⟨body, hmem, beq_iff_eq.2 hkind⟩
    obtain ⟨c, hc⟩ := Option.isSome_iff_exists.1 hsome
    have hcbody := hunique c (List.mem_of_find?_eq_some hc)
      (beq_iff_eq.1 (List.find?_some (p := fun c : Node => c.kind == "block") hc))
    rw [hc, hcbody]
    rfl
  · -- A body without braces stands last, for only a `do` goes on behind its body.
    have hplace : (loopBodyPlace n).find? (·.kind == "block") = none :=
      List.find?_eq_none.2 fun c hc hc' =>
        hkind (hunique c hc (beq_iff_eq.1 hc') ▸ beq_iff_eq.1 hc')
    have hlast : behind = [] := hbehind fun hdo => hkind (hbraces hdo body hmem hnamed)
    rw [hplace, hlast, List.find?_nil, Option.none_or, Option.none_or, namedChildren,
      hchildren, hlast, List.append_nil, List.filter_append, hbody, List.getLast?_append]
    rfl

theorem countedBranches_eq_writtenBranches (h : InPlace n) :
    countedBranches n = writtenBranches n := by
  obtain ⟨hif, hwhen, hloop⟩ := h
  unfold countedBranches writtenBranches
  split
  case isTrue hkind => exact drop_namedChildren (hif hkind)
  split
  case isTrue hkind =>
    exact List.filterMap_congr fun entry hentry => getLast?_namedChildren (hwhen hkind entry hentry)
  split
  case isTrue hkind => rw [loopBody?_eq (hloop hkind)]
  case isFalse => rfl

/-- What branches there are matters below a statement only. -/
theorem Meets.of_eq {first second : Node → List Node}
    (hunder : ∀ n, ∀ branch ∈ first n, branch.Under n) (h : ∀ m ∈ n.preorder, first m = second m)
    (hmeets : emitters.Meets first n) : emitters.Meets second n := by
  obtain ⟨m, call, hreach, hcall, hemits⟩ := hmeets
  refine ⟨m, call, ?_, hcall, hemits⟩
  clear hcall
  induction hreach with
  | refl => exact .refl
  | tail hreach hstep ih =>
    refine ih.tail ?_
    rw [Inside, ← h _ (mem_preorder_of_reflTransGen hunder hreach)]
    exact hstep

theorem meets_iff_of_inPlace (h : ∀ m ∈ n.preorder, InPlace m) :
    emitters.Meets countedBranches n ↔ emitters.Meets writtenBranches n := by
  constructor
  · exact Meets.of_eq (fun _ _ => under_of_mem_countedBranches)
      fun m hm => countedBranches_eq_writtenBranches (h m hm)
  · exact Meets.of_eq (fun _ _ => under_of_mem_writtenBranches)
      fun m hm => (countedBranches_eq_writtenBranches (h m hm)).symm

/-! ### More names that emit -/

theorem isKnown_iff {name : String} : emitters.isKnown name = true ↔ name ∉ emitters.denied ∧
    (known.contains name = true ∨ isNumberedSpacer name = true ∨ name ∈ emitters.extra) := by
  simp [isKnown, or_assoc]

theorem emits_iff : emitters.emits call = true ↔ ∃ name, call.name? = some name ∧
    call.receiver? = none ∧ name ∉ emitters.denied ∧ (emitters.isKnown name = true ∨
      name.toList.head?.any Text.isUpper = true ∧ call.arguments.any passesModifier = true) := by
  unfold emits
  cases call.name? with
  | none => simp
  | some name => simp [and_left_comm, and_assoc]

theorem emits_mono (hextra : emitters.extra ⊆ other.extra)
    (hdenied : other.denied ⊆ emitters.denied) (h : emitters.emits call = true) :
    other.emits call = true := by
  obtain ⟨name, hname, hreceiver, hallowed, hwhy⟩ := emits_iff.1 h
  refine emits_iff.2 ⟨name, hname, hreceiver, fun hmem => hallowed (hdenied hmem),
    hwhy.imp_left fun hknown => ?_⟩
  obtain ⟨-, hwhy⟩ := isKnown_iff.1 hknown
  exact isKnown_iff.2 ⟨fun hmem => hallowed (hdenied hmem),
    hwhy.imp_right (Or.imp_right (hextra ·))⟩

theorem statementCount_mono
    (hemits : ∀ call, emitters.emits call = true → other.emits call = true) :
    emitters.statementCount n ≤ other.statementCount n := by
  induction hsize : n.size using Nat.strongRecOn generalizing n with
  | ind size ih =>
    have hbranch : ∀ branch ∈ countedBranches n,
        emitters.branchCount branch ≤ other.branchCount branch := by
      intro branch hbranch
      rw [branchCount_eq, branchCount_eq, total_eq_sum, total_eq_sum]
      refine List.sum_le_sum fun m hm => ih m.size ?_ rfl
      exact hsize ▸ size_lt_of_under
        ((inside_iff.2 ⟨branch, hbranch, hm⟩).under fun _ => under_of_mem_countedBranches)
    rw [statementCount_eq, statementCount_eq]
    split
    · refine ite_le_ite (fun hany => ?_) 1
      obtain ⟨call, hcall, hemit⟩ := (Option.any_eq_true _ _).1 hany
      exact (Option.any_eq_true _ _).2 ⟨call, hcall, hemits call hemit⟩
    split
    · refine ite_le_ite (fun hany => ?_) 2
      obtain ⟨branch, hmem, hpos⟩ := List.any_eq_true.1 hany
      have hpos' := Nat.lt_of_lt_of_le (of_decide_eq_true hpos) (hbranch branch hmem)
      exact List.any_eq_true.2 ⟨branch, hmem, decide_eq_true hpos'⟩
    · refine largest_le_iff.2 fun a ha => ?_
      obtain ⟨branch, hmem, rfl⟩ := List.mem_map.1 ha
      exact Nat.le_trans (hbranch branch hmem) (le_largest (List.mem_map_of_mem hmem))

theorem directCount_mono (hextra : emitters.extra ⊆ other.extra)
    (hdenied : other.denied ⊆ emitters.denied) : emitters.directCount f ≤ other.directCount f := by
  rw [directCount_eq, directCount_eq, total_eq_sum, total_eq_sum]
  exact List.sum_le_sum fun n _ => statementCount_mono fun _ => emits_mono hextra hdenied

/-- A direct count is positive exactly if a call that emits stands in the branches that counting
looks into, and these are the branches as they are written where every body is found. A function
that counts has a call that emits in its body. Counts grow with the names that are added to the
known ones, and fall with the names that never emit. -/
theorem directCount_reads_branches (emitters : ContentEmitters) (f : FunctionDecl) :
    (0 < emitters.directCount f ↔ ∃ n ∈ f.bodyStatements, emitters.Meets countedBranches n) ∧
    ((∀ n ∈ f.bodyStatements, ∀ m ∈ n.preorder, InPlace m) →
      (0 < emitters.directCount f ↔ ∃ n ∈ f.bodyStatements, emitters.Meets writtenBranches n)) ∧
    (0 < emitters.directCount f →
      ∃ body call, f.body? = some body ∧ call ∈ Call.allIn body ∧ emitters.emits call = true) ∧
    ∀ other : ContentEmitters, emitters.extra ⊆ other.extra → other.denied ⊆ emitters.denied →
      emitters.directCount f ≤ other.directCount f := by
  refine ⟨directCount_pos_iff, fun hplace => ?_, exists_call_of_directCount_pos,
    fun other => directCount_mono⟩
  rw [directCount_pos_iff]
  constructor
  · rintro ⟨n, hn, hmeets⟩
    exact ⟨n, hn, (meets_iff_of_inPlace (hplace n hn)).1 hmeets⟩
  · rintro ⟨n, hn, hmeets⟩
    exact ⟨n, hn, (meets_iff_of_inPlace (hplace n hn)).2 hmeets⟩

end

/-- A call in the body of a `do` in a `when` in an `if` in the body of a `while`. -/
def nestFile : String :=
  "fun F() \x7b while (a) if (b) when \x7b else -> do \x7b E() \x7d while (c) \x7d \x7d"

def nestParser : Parser := fun text =>
  if text = nestFile then
    let named (kind : String) (start stop : Nat) (ts : List ParseTree) : ParseTree :=
      .node ⟨kind, true, false, start, stop⟩ ts
    let token (kind : String) (start : Nat) : ParseTree :=
      .node ⟨kind, false, false, start, start + kind.length⟩ []
    let letter (start : Nat) : ParseTree := named "identifier" start (start + 1) []
    let call := named "call_expression" 47 50
      [letter 47, named "value_arguments" 48 50 [token "(" 48, token ")" 49]]
    let last := named "do_while_statement" 42 62
      [token "do" 42, named "block" 45 52 [token "\x7b" 45, call, token "\x7d" 51],
        token "while" 53, token "(" 59, letter 60, token ")" 61]
    let choice := named "when_expression" 27 64 [token "when" 27, token "\x7b" 32,
      named "when_entry" 34 62 [token "else" 34, token "->" 39, last], token "\x7d" 63]
    let condition := named "if_expression" 20 64
      [token "if" 20, token "(" 23, letter 24, token ")" 25, choice]
    let loop := named "while_statement" 10 64
      [token "while" 10, token "(" 16, letter 17, token ")" 18, condition]
    let block := named "block" 8 66 [token "\x7b" 8, loop, token "\x7d" 65]
    let function := named "function_declaration" 0 66
      [token "fun" 0, letter 4,
        named "function_value_parameters" 5 7 [token "(" 5, token ")" 6],
        named "function_body" 8 66 [block]]
    some ⟨named "source_file" 0 66 [function], false⟩
  else none

def nestTree : SyntaxTree := (SyntaxTree.read? nestParser nestFile).get (by decide +kernel)

def nestFunction : FunctionDecl :=
  ⟨nestTree.rootNode.preorder.get ⟨1, by decide +kernel⟩⟩

theorem directCount_reads_branches_nest :
    nestFunction.node.kind = "function_declaration" ∧
    0 < ContentEmitters.directCount ⟨["E"], ["A"]⟩ nestFunction ∧
    (∃ n ∈ nestFunction.bodyStatements, Meets ⟨["E"], ["A"]⟩ writtenBranches n) ∧
    (∃ body call, nestFunction.body? = some body ∧ call ∈ Call.allIn body ∧
      emits ⟨["E"], ["A"]⟩ call = true) ∧
    ContentEmitters.directCount ⟨["E"], ["A"]⟩ nestFunction ≤
      ContentEmitters.directCount ⟨["D", "E"], []⟩ nestFunction := by
  obtain ⟨-, hwritten, hcalls, hmono⟩ := directCount_reads_branches ⟨["E"], ["A"]⟩ nestFunction
  have hplace : ∀ n ∈ nestFunction.bodyStatements, ∀ m ∈ n.preorder, InPlace m := by
    decide +kernel
  have hdown : ∃ loop ∈ nestFunction.bodyStatements,
      ∃ condition ∈ (countedBranches loop).flatMap branchStatements,
      ∃ choice ∈ (countedBranches condition).flatMap branchStatements,
      ∃ last ∈ (countedBranches choice).flatMap branchStatements,
      ∃ n ∈ (countedBranches last).flatMap branchStatements,
        (Call.ofNode? n).any (emits ⟨["E"], ["A"]⟩) = true := by decide +kernel
  obtain ⟨loop, hloop, condition, h₁, choice, h₂, last, h₃, n, h₄, hemits⟩ := hdown
  obtain ⟨call, hcall, hemits⟩ := (Option.any_eq_true _ _).1 hemits
  have hreach : Relation.ReflTransGen (Inside countedBranches) loop n :=
    .head h₁ <| .head h₂ <| .head h₃ <| .single h₄
  have hpos : 0 < ContentEmitters.directCount ⟨["E"], ["A"]⟩ nestFunction :=
    directCount_pos_iff.2 ⟨loop, hloop, n, call, hreach, hcall, hemits⟩
  exact ⟨by decide +kernel, hpos, (hwritten hplace).1 hpos, hcalls hpos,
    hmono _ (by decide) (by decide)⟩

end ContentEmitters

end ComposeCheck
