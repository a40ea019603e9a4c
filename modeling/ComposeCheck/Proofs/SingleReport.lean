import ComposeCheck.Proofs.Plans
import ComposeCheck.Proofs.Settling
import ComposeCheck.Rules.MultipleContentEmitters

/-!
# Every component is reported once

`multipleContentEmitters` goes over the components twice: first it reports those that emit more than
once by themselves, then those that do so only with the components they call. No component is
reported by both walks. Counts never fall from one pass to the next, so a component of the first
kind also counts more than one in the end, and the two walks together report each component with
such a count once.
-/

namespace ComposeCheck

open EmissionCounter

theorem FunctionDecl.map_node_allIn (scope : Node) :
    (FunctionDecl.allIn scope).map node = scope.descendantsOfKind "function_declaration" := by
  unfold allIn Node.descendantsOfKind
  rw [List.map_filterMap, ← List.filterMap_eq_filter]
  congr 1
  funext n
  by_cases h : n.kind = "function_declaration"
  · simp [ofNode?, h]
  · simp [ofNode?, h, Option.guard]

theorem SyntaxTree.nodup_componentsIn {tree : SyntaxTree} (hn : tree.root.NumberedFrom 0) :
    ((componentsIn tree.rootNode).map (·.node.id)).Nodup := by
  have hdescendants : (tree.rootNode.descendants.map Node.id).Nodup := by
    have hperm := tree.rootNode.descendants_perm.map Node.id
    exact (hperm.nodup_iff.2 (nodup_preorder hn)).of_cons
  have hall : ((FunctionDecl.allIn tree.rootNode).map (·.node.id)).Nodup := by
    have hkind := congrArg (List.map Node.id) (FunctionDecl.map_node_allIn tree.rootNode)
    rw [List.map_map] at hkind
    exact hkind ▸ hdescendants.sublist (List.filter_sublist.map _)
  exact ((List.mergeSort_perm _ _).map _).nodup_iff.2 (hall.sublist (List.filter_sublist.map _))

/-- What an early test picks and then what only a later test picks is what either of them picks. -/
theorem filter_append_filter_perm {α : Type} (early late : α → Bool) (xs : List α) :
    (xs.filter early ++ xs.filter fun x => !early x && late x).Perm
      (xs.filter fun x => early x || late x) := by
  have hearly : xs.filter early = (xs.filter fun x => early x || late x).filter early := by
    rw [List.filter_filter]
    refine List.filter_congr fun x _ => ?_
    cases early x <;> rfl
  have hlate : (xs.filter fun x => !early x && late x) =
      (xs.filter fun x => early x || late x).filter fun x => !early x := by
    rw [List.filter_filter]
    refine List.filter_congr fun x _ => ?_
    cases early x <;> rfl
  rw [hearly, hlate]
  exact List.filter_append_perm early _

namespace Rules

section
variable (occasion : Occasion) (backend : Backend) (memo : Memo)

/-- The findings are the components that have no receiver and count more than one by themselves or
in the end. -/
theorem findings_multipleContentEmitters (root : Node) :
    let counter := ofComponents (ContentEmitters.read backend memo).1 (componentsIn root)
    let report := (multipleContentEmitters.report (.file root) occasion backend memo).1
    report.findings.Perm (((componentsIn root).filter fun f =>
      !f.hasReceiver && (counter.seed.get f > 1 || counter.resolve.get f > 1)).map
        fun f => ⟨f.node, multipleEmittersMessage, none⟩) := by
  intro counter report
  have hperm := filter_append_filter_perm (fun f => decide (counter.seed.get f > 1))
    (fun f => decide (counter.resolve.get f > 1))
    ((componentsIn root).filter fun f => !f.hasReceiver)
  simp only [← decide_not, Nat.not_lt] at hperm
  have hcounted : ((componentsIn root).filter fun f => !f.hasReceiver).filter
      (fun f => counter.seed.get f > 1 || counter.resolve.get f > 1) =
        (componentsIn root).filter fun f =>
          !f.hasReceiver && (counter.seed.get f > 1 || counter.resolve.get f > 1) := by
    simp only [List.filter_filter, Bool.and_comm]
  exact (hcounted ▸ hperm).map _

/-- Counts never fall from one pass to the next, so in the end a component counts at least what it
counts by itself. At the root of a file each component that has no receiver and counts more than one
in the end has one finding, and there are no others. -/
theorem emitters_reported_once {parser : Parser} {text : String} {tree : SyntaxTree}
    (hread : SyntaxTree.read? parser text = some tree) :
    let components := componentsIn tree.rootNode
    let counter := ofComponents (ContentEmitters.read backend memo).1 components
    let report := (multipleContentEmitters.report (.file tree.rootNode) occasion backend memo).1
    (∀ k f, (counter.refine^[k] counter.seed).get f ≤
      (counter.refine^[k + 1] counter.seed).get f) ∧
    (∀ f, counter.seed.get f ≤ counter.resolve.get f) ∧
    report.findings.Perm
      ((components.filter fun f => !f.hasReceiver && counter.resolve.get f > 1).map
        fun f => ⟨f.node, multipleEmittersMessage, none⟩) ∧
    (report.findings.map (·.node.id)).Nodup := by
  intro components counter report
  have hperm : report.findings.Perm ((components.filter fun f =>
      !f.hasReceiver && counter.resolve.get f > 1).map
        fun f => ⟨f.node, multipleEmittersMessage, none⟩) := by
    refine (findings_multipleContentEmitters occasion backend memo tree.rootNode).trans (.of_eq ?_)
    congr 1
    refine List.filter_congr fun f _ => congrArg (!f.hasReceiver && ·) ?_
    -- A component that counts more than one by itself still does so in the end.
    have hle : counter.seed.get f ≤ counter.resolve.get f := seed_le_resolve f
    show (decide (counter.seed.get f > 1) || decide (counter.resolve.get f > 1)) = _
    rw [← Bool.decide_or, decide_eq_decide]
    omega
  have hnodup := SyntaxTree.nodup_componentsIn (SyntaxTree.numberedFrom_of_read? hread)
  refine ⟨get_iterate_le, seed_le_resolve, hperm, (hperm.map _).nodup_iff.2 ?_⟩
  rw [List.map_map]
  exact hnodup.sublist (List.filter_sublist.map _)

end

/-- Two composables that call each other, the first of which also emits once, and one that emits
twice. -/
def circleFile : String :=
  sketchText "P" ["E", "Q"] ++ sketchText "Q" ["P"] ++ sketchText "R" ["E", "E"]

def circleParser : Parser := fun text =>
  if text = circleFile then
    some ⟨.node ⟨"source_file", true, false, 0, 94⟩
      [sketchTree 0 2, sketchTree 33 1, sketchTree 61 2], false⟩
  else none

def circleTree : SyntaxTree := (SyntaxTree.read? circleParser circleFile).get (by decide +kernel)

def circleBackend : Backend := fun name => if name = "contentEmitters" then some "E" else none

theorem emitters_reported_once_circle :
    SyntaxTree.read? circleParser circleFile = some circleTree ∧
    componentsIn circleTree.rootNode = sketchComponents circleTree ∧
    let counter := ofComponents ⟨["E"], []⟩ (sketchComponents circleTree)
    counter.seed.counts = [(1, 1), (20, 0), (36, 2)] ∧
    counter.resolve.counts = [(1, 2), (20, 2), (36, 2)] ∧
    ((multipleContentEmitters.report (.file circleTree.rootNode) .plain
      circleBackend .empty).1.findings.map (·.node.id)).Perm [1, 20, 36] := by
  have hread : SyntaxTree.read? circleParser circleFile = some circleTree :=
    (Option.some_get _).symm
  have hsorted : componentsIn circleTree.rootNode = sketchComponents circleTree :=
    List.mergeSort_of_pairwise (by decide +kernel)
  have hemitters : (ContentEmitters.read circleBackend .empty).1 = ⟨["E"], []⟩ := by rfl
  have hcounter : ofComponents ⟨["E"], []⟩ (sketchComponents circleTree) = _ :=
    ofComponents_of_calls (by decide +kernel)
  have hreported :=
    (emitters_reported_once .plain circleBackend .empty hread).2.2.1.map (·.node.id)
  rw [hsorted, hemitters, hcounter, List.map_map] at hreported
  refine ⟨hread, hsorted, ?_, ?_, hreported.trans (.of_eq ?_)⟩
  · rw [hcounter]
    decide +kernel
  · rw [hcounter]
    decide +kernel
  · decide +kernel

end Rules

end ComposeCheck
