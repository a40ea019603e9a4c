import ComposeCheck.Proofs.Family
import ComposeCheck.Proofs.Passes
import ComposeCheck.Proofs.Reading
import Mathlib.Data.List.Perm.Subperm

/-!
# Counts settle

If a pass still changes a count after `k` passes, a chain of `k + 1` calls starts at that component:
a pass tells two maps apart only through a callee on which they differ. Where no component calls
itself, however indirectly, a chain meets each component once, so the counts settle before the last
pass that is allowed and there is one map that a pass leaves as it is. The order in which the
components are listed never shows in the counts.
-/

namespace ComposeCheck

/-- A statement of one component calls another one by its name: not on a receiver, and not a name
that is known to emit. -/
def ContentEmitters.Calls (emitters : ContentEmitters) (components : List FunctionDecl)
    (f g : FunctionDecl) : Prop :=
  f ∈ components ∧ g ∈ components ∧ ∃ call ∈ f.statements.filterMap Call.ofNode?, ∃ name,
    call.receiver? = none ∧ call.name? = some name ∧ emitters.isKnown name = false ∧
      g.name? = some name

/-- No component calls itself, however indirectly. -/
def ContentEmitters.Acyclic (emitters : ContentEmitters) (components : List FunctionDecl) : Prop :=
  ∀ f, ¬Relation.TransGen (emitters.Calls components) f f

/-- No component calls itself if calls only lead down the file. -/
theorem ContentEmitters.acyclic_of_id_lt {emitters : ContentEmitters}
    {components : List FunctionDecl}
    (h : ∀ f g, emitters.Calls components f g → f.node.id < g.node.id) :
    emitters.Acyclic components := by
  intro f hf
  have hlt {g : FunctionDecl} (hg : Relation.TransGen (emitters.Calls components) f g) :
      f.node.id < g.node.id := by
    induction hg with
    | single hcall => exact h _ _ hcall
    | tail _ hcall ih => exact Nat.lt_trans ih (h _ _ hcall)
  exact Nat.lt_irrefl _ (hlt hf)

/-- A function's number tells it from the others. -/
def Identified (components : List FunctionDecl) : Prop :=
  ∀ f ∈ components, ∀ g ∈ components, f.node.id = g.node.id → f = g

theorem FunctionDecl.mem_preorder_of_mem_allIn {scope : Node} {f : FunctionDecl}
    (h : f ∈ FunctionDecl.allIn scope) : f.node ∈ scope.preorder := by
  obtain ⟨n, hn, hf⟩ := List.mem_filterMap.1 h
  unfold ofNode? at hf
  split at hf <;> cases hf
  exact Node.mem_preorder_of_mem_descendants hn

theorem SyntaxTree.identified_of_mem {tree : SyntaxTree} {components : List FunctionDecl}
    (hn : tree.root.NumberedFrom 0) (hin : ∀ f ∈ components, f.node ∈ tree.rootNode.preorder) :
    Identified components := by
  rintro ⟨n⟩ hf ⟨m⟩ hg hid
  exact congrArg FunctionDecl.mk (node_eq_of_id_eq hn (hin _ hf) (hin _ hg) hid)

namespace EmissionCounter

open ContentEmitters

section
variable {emitters : ContentEmitters} {components : List FunctionDecl} {f g : FunctionDecl}
  {current other : EmissionMap}

/-! ### Chains of calls -/

/-- A chain of calls is no longer than the list of components if none of them calls itself. -/
theorem length_le_of_isChain (hacyclic : emitters.Acyclic components) {chain : List FunctionDecl}
    (hchain : chain.IsChain (emitters.Calls components)) (hin : ∀ f ∈ chain, f ∈ components) :
    chain.length ≤ components.length := by
  have hpairwise : chain.Pairwise (Relation.TransGen (emitters.Calls components)) :=
    List.isChain_iff_pairwise.1 (hchain.imp fun _ _ h => .single h)
  have hnodup : chain.Nodup := by
    refine hpairwise.imp fun {f g} hfg heq => ?_
    subst heq
    exact hacyclic f hfg
  exact (List.subperm_of_subset hnodup hin).length_le

theorem component?_ofComponents (hid : Identified components) (hf : f ∈ components) :
    (ofComponents emitters components).component? f =
      some (f, (f.block?.map emitters.blockCount).getD 0) := by
  unfold component? ofComponents
  rw [List.find?_map]
  have hsome : (components.find? fun g => f.node.id == g.node.id).isSome :=
    List.find?_isSome.2 ⟨f, hf, beq_self_eq_true _⟩
  obtain ⟨g, hg⟩ := Option.isSome_iff_exists.1 hsome
  have hsame : f.node.id = g.node.id := by simpa using List.find?_some hg
  obtain rfl := hid f hf g (List.mem_of_find?_eq_some hg) hsame
  exact congrArg (Option.map _) hg

theorem get_refine_of_mem (hid : Identified components) (hf : f ∈ components) :
    ((ofComponents emitters components).refine current).get f =
      (ofComponents emitters components).weight current
        (f, (f.block?.map emitters.blockCount).getD 0) := by
  rw [get_refine, component?_ofComponents hid hf]
  rfl

theorem exists_callee_of_get_refine_ne (hid : Identified components) (hf : f ∈ components)
    (h : ((ofComponents emitters components).refine current).get f ≠
      ((ofComponents emitters components).refine other).get f) :
    ∃ g, emitters.Calls components f g ∧ current.get g ≠ other.get g := by
  rw [get_refine_of_mem hid hf, get_refine_of_mem hid hf] at h
  obtain ⟨call, hcall, name, hr, hn, hknown, callee, hcallee, hname, hne⟩ :=
    exists_callee_of_weight_ne h
  obtain ⟨g, hg, rfl⟩ := List.mem_map.1 hcallee
  exact ⟨g, ⟨hf, hg, call, hcall, name, hr, hn, hknown, hname⟩, hne⟩

/-- Maps on which components differ after some passes lead to a chain of as many calls. -/
theorem exists_chain_of_get_iterate_ne (hid : Identified components) (k : Nat)
    (hf : f ∈ components)
    (h : ((ofComponents emitters components).refine^[k] current).get f ≠
      ((ofComponents emitters components).refine^[k] other).get f) :
    ∃ chain, chain.length = k ∧ (f :: chain).IsChain (emitters.Calls components) ∧
      ∀ g ∈ f :: chain, g ∈ components := by
  induction k generalizing f with
  | zero => exact ⟨[], rfl, .singleton f, by simpa using hf⟩
  | succ k ih =>
    -- The last pass differs at `f`, so the maps before it differ at a callee.
    rw [Function.iterate_succ_apply', Function.iterate_succ_apply'] at h
    obtain ⟨g, hcall, hne⟩ := exists_callee_of_get_refine_ne hid hf h
    obtain ⟨chain, hlength, hchain, hin⟩ := ih hcall.2.1 hne
    refine ⟨g :: chain, by rw [List.length_cons, hlength], .cons_cons hcall hchain, ?_⟩
    exact List.forall_mem_cons.2 ⟨hf, hin⟩

/-- After as many passes as there are components it does not matter where counting started. -/
theorem get_iterate_eq (hid : Identified components) (hacyclic : emitters.Acyclic components)
    {k : Nat} (hk : components.length ≤ k) (hf : f ∈ components) :
    ((ofComponents emitters components).refine^[k] current).get f =
      ((ofComponents emitters components).refine^[k] other).get f := by
  by_contra hne
  -- The chain starts at a component and has `k` calls, so it meets `k + 1` components.
  obtain ⟨chain, hlength, hchain, hin⟩ := exists_chain_of_get_iterate_ne hid k hf hne
  have hle := length_le_of_isChain hacyclic hchain hin
  rw [List.length_cons] at hle
  omega

/-! ### Maps that are equal -/

/-- Maps that counting makes are equal if they agree on the components. -/
theorem refine_eq_refine (hid : Identified components)
    (h : ∀ f ∈ components, ((ofComponents emitters components).refine current).get f =
      ((ofComponents emitters components).refine other).get f) :
    (ofComponents emitters components).refine current =
      (ofComponents emitters components).refine other := by
  unfold refine
  congr 1
  refine List.map_congr_left fun component hc => ?_
  obtain ⟨f, hf, rfl⟩ := List.mem_map.1 hc
  have hget := h f hf
  rw [get_refine_of_mem hid hf, get_refine_of_mem hid hf] at hget
  exact congrArg (f.node.id, ·) hget

/-- A map that a pass leaves as it is on the components is left so by any number of passes. -/
theorem get_iterate_of_fixed
    (h : ∀ f ∈ components, ((ofComponents emitters components).refine current).get f =
      current.get f) (hid : Identified components) (k : Nat) (hf : f ∈ components) :
    ((ofComponents emitters components).refine^[k] current).get f = current.get f := by
  induction k generalizing f with
  | zero => rfl
  | succ k ih =>
    rw [Function.iterate_succ_apply', ← h f hf]
    by_contra hne
    obtain ⟨g, hcall, hdiffers⟩ := exists_callee_of_get_refine_ne hid hf hne
    exact hdiffers (ih hcall.2.1)

/-- After one pass less than there are components the counts stay as they are. -/
theorem refine_iterate_eq (hid : Identified components) (hacyclic : emitters.Acyclic components)
    {k : Nat} (hk : components.length = k + 1) :
    let counter := ofComponents emitters components
    counter.refine (counter.refine^[k] counter.seed) = counter.refine^[k] counter.seed := by
  intro counter
  -- The seed is a pass itself, which saves one of the passes that `get_iterate_eq` asks for.
  have hseed : counter.refine^[k] counter.seed = counter.refine (counter.refine^[k] .none) := by
    rw [seed_eq_refine, ← Function.iterate_succ_apply, Function.iterate_succ_apply']
  have hagree : ∀ f ∈ components, (counter.refine (counter.refine^[k] counter.seed)).get f =
      (counter.refine (counter.refine^[k] .none)).get f := by
    intro f hf
    rw [← Function.iterate_succ_apply' counter.refine,
      ← Function.iterate_succ_apply' counter.refine]
    exact get_iterate_eq hid hacyclic (Nat.le_of_eq hk) hf
  have hsettled := refine_eq_refine hid hagree
  rwa [← hseed] at hsettled

/-! ### The order of the components -/

variable {reordered : List FunctionDecl}

theorem component?_of_perm (hid : Identified components) (hperm : reordered.Perm components) :
    (ofComponents emitters reordered).component? f =
      (ofComponents emitters components).component? f := by
  have hid' : Identified reordered := fun g hg h hh =>
    hid g (hperm.subset hg) h (hperm.subset hh)
  by_cases hex : ∃ g ∈ components, f.node.id = g.node.id
  · obtain ⟨g, hg, hsame⟩ := hex
    unfold component?
    rw [hsame]
    exact (component?_ofComponents hid' (hperm.symm.subset hg)).trans
      (component?_ofComponents hid hg).symm
  · have hnone {list : List FunctionDecl} (hsub : ∀ g ∈ list, g ∈ components) :
        (ofComponents emitters list).component? f = none := by
      refine List.find?_eq_none.2 fun component hc hsame => ?_
      obtain ⟨g, hg, rfl⟩ := List.mem_map.1 hc
      exact hex ⟨g, hsub g hg, beq_iff_eq.1 hsame⟩
    rw [hnone fun g hg => hperm.subset hg, hnone fun g hg => hg]

theorem calleeCount_of_perm (hperm : reordered.Perm components)
    (h : ∀ g, current.get g = other.get g) (call : Call) :
    (ofComponents emitters reordered).calleeCount current call =
      (ofComponents emitters components).calleeCount other call := by
  rcases calleeCount_cases call with hzero | ⟨name, -, -, hcount⟩
  · rw [hzero, hzero]
  have hget : current.get = other.get := funext h
  rw [hcount, hcount, hget]
  exact largest_eq_of_perm (((hperm.map _).filter _).map _)

theorem get_refine_of_perm (hid : Identified components) (hperm : reordered.Perm components)
    (h : ∀ g, current.get g = other.get g) (f : FunctionDecl) :
    ((ofComponents emitters reordered).refine current).get f =
      ((ofComponents emitters components).refine other).get f := by
  have hweight : (ofComponents emitters reordered).weight current =
      (ofComponents emitters components).weight other := by
    funext component
    refine congrArg (component.2 + total ·) (List.map_congr_left fun call _ => ?_)
    unfold indirectCount
    rw [calleeCount_of_perm hperm h]
    rfl
  rw [get_refine, get_refine, component?_of_perm hid hperm, hweight]

/-- A pass leaves a map that a pass has made as it is if it does so on the components. -/
theorem refine_eq_self_iff (hid : Identified components)
    (hpass : ∃ prior, current = (ofComponents emitters components).refine prior) :
    (ofComponents emitters components).refine current = current ↔
      ∀ f ∈ components,
        ((ofComponents emitters components).refine current).get f = current.get f := by
  obtain ⟨prior, rfl⟩ := hpass
  constructor
  · intro h f _
    rw [h]
  · exact refine_eq_refine hid

theorem get_refineUpTo_of_perm (hid : Identified components) (hperm : reordered.Perm components)
    (passes : Nat) (hcurrent : ∃ prior, current = (ofComponents emitters reordered).refine prior)
    (hother : ∃ prior, other = (ofComponents emitters components).refine prior)
    (h : ∀ g, current.get g = other.get g) (f : FunctionDecl) :
    ((ofComponents emitters reordered).refineUpTo passes current).get f =
      ((ofComponents emitters components).refineUpTo passes other).get f := by
  have hid' : Identified reordered := fun g hg h hh =>
    hid g (hperm.subset hg) h (hperm.subset hh)
  -- Both maps are passes, so the test sees no more of them than the counts of the components.
  induction passes generalizing current other with
  | zero => exact h f
  | succ passes ih =>
    have hpass : ∀ g, ((ofComponents emitters reordered).refine current).get g =
        ((ofComponents emitters components).refine other).get g := get_refine_of_perm hid hperm h
    have htest : (ofComponents emitters reordered).refine current = current ↔
        (ofComponents emitters components).refine other = other := by
      rw [refine_eq_self_iff hid' hcurrent, refine_eq_self_iff hid hother]
      simp only [hpass, h, hperm.mem_iff]
    unfold refineUpTo
    by_cases hstable : (ofComponents emitters reordered).refine current = current
    · rw [if_pos (EmissionMap.beq_iff.2 hstable), if_pos (EmissionMap.beq_iff.2 (htest.1 hstable))]
      exact h f
    · rw [if_neg (mt EmissionMap.beq_iff.1 hstable),
        if_neg (mt EmissionMap.beq_iff.1 (mt htest.2 hstable))]
      exact ih ⟨current, rfl⟩ ⟨other, rfl⟩ hpass

end

/-- Counting a file's components. If none of them calls itself, the loop ends before its last turn,
at the first map that a pass leaves as it is; that map is the only one, and further passes keep it.
In any case the order in which the components are listed does not show in the counts. -/
theorem counts_settle {parser : Parser} {text : String} {tree : SyntaxTree}
    (hread : SyntaxTree.read? parser text = some tree) (emitters : ContentEmitters)
    {components : List FunctionDecl} (hin : ∀ f ∈ components, f.node ∈ tree.rootNode.preorder) :
    let counter := ofComponents emitters components
    (components ≠ [] → emitters.Acyclic components →
      (∃ k < components.length, counter.resolve = counter.refine^[k] counter.seed ∧
        (counter.refine (counter.refine^[k] counter.seed) == counter.refine^[k] counter.seed) = true ∧
        ∀ j < k, (counter.refine (counter.refine^[j] counter.seed) ==
          counter.refine^[j] counter.seed) = false) ∧
      counter.refine counter.resolve = counter.resolve ∧
      (∀ other : EmissionMap,
        (∀ f ∈ components, (counter.refine other).get f = other.get f) →
          ∀ f ∈ components, other.get f = counter.resolve.get f) ∧
      ∀ passes, counter.refine^[passes] counter.resolve = counter.resolve) ∧
    ∀ reordered, reordered.Perm components → ∀ f,
      (ofComponents emitters reordered).resolve.get f = counter.resolve.get f := by
  intro counter
  have hid := SyntaxTree.identified_of_mem (SyntaxTree.numberedFrom_of_read? hread) hin
  constructor
  · intro hne hacyclic
    obtain ⟨n, hn⟩ := Nat.exists_eq_succ_of_ne_zero (mt List.length_eq_zero_iff.1 hne)
    have hlength : counter.components.length = components.length := List.length_map _
    have hsettled : counter.refine (counter.refine^[n] counter.seed) =
        counter.refine^[n] counter.seed := refine_iterate_eq hid hacyclic hn
    rcases refineUpTo_cases counter counter.components.length counter.seed with
      ⟨k, hk, heq, hstable, hearlier⟩ | ⟨-, hnever⟩
    case inr => exact absurd hsettled (hnever n (by omega))
    have hfixed : counter.refine counter.resolve = counter.resolve := by
      unfold resolve
      rw [heq, hstable]
    refine ⟨⟨k, hlength ▸ hk, heq, EmissionMap.beq_iff.2 hstable, fun j hj => ?_⟩, hfixed,
      fun other hother f hf => ?_, fun passes => Function.iterate_fixed hfixed passes⟩
    · exact Bool.eq_false_iff.2 fun h => hearlier j hj (EmissionMap.beq_iff.1 h)
    · rw [← get_iterate_of_fixed hother hid components.length hf,
        get_iterate_eq hid hacyclic (Nat.le_refl _) hf, Function.iterate_fixed hfixed]
  · intro reordered hperm f
    have hlength : (ofComponents emitters reordered).components.length =
        counter.components.length := by
      simp only [counter, ofComponents, List.length_map, hperm.length_eq]
    unfold resolve
    rw [hlength]
    refine get_refineUpTo_of_perm hid hperm _ ⟨_, seed_eq_refine _⟩ ⟨_, seed_eq_refine _⟩ ?_ f
    rw [seed_eq_refine, seed_eq_refine]
    exact get_refine_of_perm hid hperm fun _ => rfl

/-- Where all statements are calls, the direct counts are how many of them emit. -/
theorem ofComponents_of_calls {emitters : ContentEmitters} {components : List FunctionDecl}
    (h : ∀ f ∈ components, ∀ n ∈ f.statements, n.kind = "call_expression") :
    ofComponents emitters components = ⟨emitters, components.map fun f =>
      (f, total (f.statements.map fun n =>
        if (Call.ofNode? n).any emitters.emits then 1 else 0))⟩ := by
  unfold ofComponents
  congr 1
  refine List.map_congr_left fun f hf => ?_
  have hcalls := h f hf
  unfold FunctionDecl.statements at hcalls ⊢
  cases hblock : f.block? with
  | none => rfl
  | some block =>
    rw [hblock] at hcalls
    refine congrArg (fun counts => (f, total counts)) (List.map_congr_left fun n hn => ?_)
    rw [statementCount, if_pos (hcalls n hn)]

end EmissionCounter

/-! ### A page with two titles -/

/-- A composable with a one-letter name whose statements call by one-letter names. -/
def sketchText (name : String) (calls : List String) : String :=
  "@Composable fun " ++ name ++ "() \x7b " ++ "; ".intercalate (calls.map (· ++ "()")) ++ " \x7d\n"

/-- The tree of such a composable, by where it starts and how many calls it makes. -/
def sketchTree (start calls : Nat) : ParseTree :=
  let named (kind : String) (i j : Nat) (ts : List ParseTree) : ParseTree :=
    .node ⟨kind, true, false, start + i, start + j⟩ ts
  let token (kind : String) (i j : Nat) : ParseTree :=
    .node ⟨kind, false, false, start + i, start + j⟩ []
  let name (i : Nat) : ParseTree := named "identifier" i (i + 1) []
  let call (i : Nat) : ParseTree :=
    named "call_expression" i (i + 3) [name i, named "value_arguments" (i + 1) (i + 3) []]
  let stop := 22 + 5 * calls
  let block := named "block" 20 stop
    ([token "\x7b" 20 21] ++ (List.range calls).map (fun i => call (22 + 5 * i)) ++
      [token "\x7d" (stop - 1) stop])
  named "function_declaration" 0 stop
    [named "modifiers" 0 11 [named "annotation" 0 11
        [token "@" 0 1, named "user_type" 1 11 [named "identifier" 1 11 []]]],
      token "fun" 12 15, name 16, named "function_value_parameters" 17 19 [],
      named "function_body" 20 stop [block]]

/-- The composables of a file, in the order of the walk. -/
def sketchComponents (tree : SyntaxTree) : List FunctionDecl :=
  (FunctionDecl.allIn tree.rootNode).filter (·.isComposable)

/-- A page calls a title twice, and a title emits once. -/
def pageFile : String := sketchText "P" ["T", "T"] ++ sketchText "T" ["E"]

def pageParser : Parser := fun text =>
  if text = pageFile then
    some ⟨.node ⟨"source_file", true, false, 0, 61⟩ [sketchTree 0 2, sketchTree 33 1], false⟩
  else none

def pageTree : SyntaxTree := (SyntaxTree.read? pageParser pageFile).get (by decide +kernel)

def pageCounter : EmissionCounter := .ofComponents ⟨["E"], []⟩ (sketchComponents pageTree)

theorem counts_settle_page :
    SyntaxTree.read? pageParser pageFile = some pageTree ∧
    (∀ f ∈ sketchComponents pageTree, f.node ∈ pageTree.rootNode.preorder) ∧
    sketchComponents pageTree ≠ [] ∧
    ContentEmitters.Acyclic ⟨["E"], []⟩ (sketchComponents pageTree) ∧
    pageCounter.seed.counts = [(1, 0), (20, 1)] ∧
    pageCounter.resolve.counts = [(1, 2), (20, 1)] ∧
    pageCounter.refine pageCounter.resolve = pageCounter.resolve ∧
    ∀ f, (EmissionCounter.ofComponents ⟨["E"], []⟩
      (sketchComponents pageTree).reverse).resolve.get f = pageCounter.resolve.get f := by
  have hread : SyntaxTree.read? pageParser pageFile = some pageTree := (Option.some_get _).symm
  have hin : ∀ f ∈ sketchComponents pageTree, f.node ∈ pageTree.rootNode.preorder :=
    fun f hf => FunctionDecl.mem_preorder_of_mem_allIn (List.mem_filter.1 hf).1
  have hne : sketchComponents pageTree ≠ [] := by decide +kernel
  have hdown : ∀ f ∈ sketchComponents pageTree, ∀ g ∈ sketchComponents pageTree,
      ∀ call ∈ f.statements.filterMap Call.ofNode?, call.name? = g.name? →
        f.node.id < g.node.id := by decide +kernel
  have hacyclic : ContentEmitters.Acyclic ⟨["E"], []⟩ (sketchComponents pageTree) := by
    refine ContentEmitters.acyclic_of_id_lt fun f g h => ?_
    obtain ⟨hf, hg, call, hcall, name, -, hname, -, hcallee⟩ := h
    exact hdown f hf g hg call hcall (hname.trans hcallee.symm)
  have hcounter : pageCounter = _ :=
    EmissionCounter.ofComponents_of_calls (by decide +kernel)
  have hsettled := EmissionCounter.counts_settle hread ⟨["E"], []⟩ hin
  refine ⟨hread, hin, hne, hacyclic, ?_, ?_, (hsettled.1 hne hacyclic).2.1,
    hsettled.2 _ (List.reverse_perm _)⟩
  · rw [hcounter]
    decide +kernel
  · rw [hcounter]
    decide +kernel

end ComposeCheck
