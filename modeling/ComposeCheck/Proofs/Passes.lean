import ComposeCheck.Emission
import Mathlib.Algebra.Order.BigOperators.Group.List
import Mathlib.Algebra.Order.Ring.Nat
import Mathlib.Logic.Function.Iterate

/-!
# Passes over emission counts

A pass gives each component its direct count and what its statements' calls add by the counts so
far (`EmissionCounter.weight`). The first counts are what a pass makes of no counts at all
(`seed_eq_refine`), so every map that counting meets is a pass over an earlier one. A pass tells two
maps apart only where it calls a component on which they differ (`exists_callee_of_weight_ne`), and
it never lets a count fall, for larger counts before a pass mean larger counts after it
(`get_refine_mono`).
-/

namespace ComposeCheck

namespace ContentEmitters

variable {counts counts' : List Nat} {a b : Nat}

theorem largest_le_iff : largest counts ≤ b ↔ ∀ a ∈ counts, a ≤ b := by
  suffices h : ∀ start, counts.foldl max start ≤ b ↔ start ≤ b ∧ ∀ a ∈ counts, a ≤ b by
    simpa [largest] using h 0
  intro start
  induction counts generalizing start with
  | nil => simp
  | cons c counts ih => simp [ih, and_assoc]

theorem le_largest (h : a ∈ counts) : a ≤ largest counts :=
  largest_le_iff.1 (Nat.le_refl _) a h

theorem largest_eq_of_perm (h : counts.Perm counts') : largest counts = largest counts' := by
  apply Nat.le_antisymm
  · exact largest_le_iff.2 fun a ha => le_largest (h.subset ha)
  · exact largest_le_iff.2 fun a ha => le_largest (h.symm.subset ha)

theorem total_eq_sum (counts : List Nat) : total counts = counts.sum := rfl

end ContentEmitters

namespace EmissionMap

/-- No function has a count. -/
def none : EmissionMap := ⟨[]⟩

theorem beq_iff {a b : EmissionMap} : (a == b) = true ↔ a = b := by
  obtain ⟨a⟩ := a
  obtain ⟨b⟩ := b
  rw [EmissionMap.mk.injEq]
  exact beq_iff_eq (a := a)

end EmissionMap

theorem lookup_map {α β : Type} (xs : List α) (key : α → Nat) (value : α → β) (i : Nat) :
    (xs.map fun x => (key x, value x)).lookup i = (xs.find? fun x => i == key x).map value := by
  induction xs with
  | nil => rfl
  | cons x xs ih =>
    rw [List.map_cons, List.lookup_cons, List.find?_cons]
    cases i == key x
    · exact ih
    · rfl

namespace EmissionCounter

open ContentEmitters

/-- What a component counts by the counts so far. -/
def weight (counter : EmissionCounter) (current : EmissionMap) (component : FunctionDecl × Nat) :
    Nat :=
  component.2 + total ((component.1.statements.filterMap Call.ofNode?).map
    (counter.indirectCount current))

/-- The component that is counted under a function's number. -/
def component? (counter : EmissionCounter) (f : FunctionDecl) : Option (FunctionDecl × Nat) :=
  counter.components.find? fun component => f.node.id == component.1.node.id

section
variable {counter : EmissionCounter} {current other : EmissionMap} {f : FunctionDecl}
  {component : FunctionDecl × Nat} {call : Call}

theorem get_refine : (counter.refine current).get f =
    ((counter.component? f).map (counter.weight current)).getD 0 :=
  congrArg (·.getD 0)
    (lookup_map counter.components (·.1.node.id) (counter.weight current) f.node.id)

/-- A call on a receiver, or one without a name, has no callee in the file; any other call may mean
each component of its name. -/
theorem calleeCount_cases (call : Call) :
    (∀ (counter : EmissionCounter) current, counter.calleeCount current call = 0) ∨
    ∃ name, call.receiver? = none ∧ call.name? = some name ∧
      ∀ (counter : EmissionCounter) current, counter.calleeCount current call = largest
        ((counter.components.filter (·.1.name? == some name)).map (current.get ·.1)) := by
  unfold calleeCount
  cases call.receiver? with
  | some receiver => exact .inl fun _ _ => rfl
  | none =>
    cases call.name? with
    | none => exact .inl fun _ _ => rfl
    | some name => exact .inr ⟨name, rfl, rfl, fun _ _ => rfl⟩

theorem calleeCount_none : counter.calleeCount .none call = 0 := by
  rcases calleeCount_cases call with hzero | ⟨name, -, -, hcount⟩
  · exact hzero counter .none
  · rw [hcount]
    refine Nat.le_zero.1 (largest_le_iff.2 fun a ha => ?_)
    obtain ⟨component, -, rfl⟩ := List.mem_map.1 ha
    exact Nat.le_refl 0

theorem indirectCount_none : counter.indirectCount .none call = 0 := by
  unfold indirectCount
  rw [calleeCount_none]
  split
  · rfl
  · split <;> rfl

/-- Before the first pass there are the direct counts, as if every callee counted nothing. -/
theorem seed_eq_refine (counter : EmissionCounter) : counter.seed = counter.refine .none := by
  unfold seed refine
  congr 1
  refine List.map_congr_left fun component _ => ?_
  have hzero : ((component.1.statements.filterMap Call.ofNode?).map
      (counter.indirectCount .none)).sum = 0 := by
    refine List.sum_eq_zero fun a ha => ?_
    obtain ⟨call, -, rfl⟩ := List.mem_map.1 ha
    exact indirectCount_none
  simp only [total_eq_sum, hzero, Nat.add_zero]

/-! ### Larger counts -/

theorem calleeCount_mono (h : ∀ g, current.get g ≤ other.get g) :
    counter.calleeCount current call ≤ counter.calleeCount other call := by
  rcases calleeCount_cases call with hzero | ⟨name, -, -, hcount⟩
  · rw [hzero, hzero]
  · rw [hcount, hcount]
    refine largest_le_iff.2 fun a ha => ?_
    obtain ⟨component, hc, rfl⟩ := List.mem_map.1 ha
    exact Nat.le_trans (h component.1) (le_largest (List.mem_map_of_mem hc))

theorem indirectCount_mono (h : ∀ g, current.get g ≤ other.get g) :
    counter.indirectCount current call ≤ counter.indirectCount other call := by
  have hcallee : counter.calleeCount current call ≤ counter.calleeCount other call :=
    calleeCount_mono h
  unfold indirectCount
  split
  · exact Nat.le_refl 0
  · split
    · omega
    · exact hcallee

theorem weight_mono (h : ∀ g, current.get g ≤ other.get g) :
    counter.weight current component ≤ counter.weight other component := by
  refine Nat.add_le_add_left ?_ _
  rw [total_eq_sum, total_eq_sum]
  exact List.sum_le_sum fun call _ => indirectCount_mono h

theorem get_refine_mono (h : ∀ g, current.get g ≤ other.get g) :
    (counter.refine current).get f ≤ (counter.refine other).get f := by
  rw [get_refine, get_refine]
  cases counter.component? f with
  | none => exact Nat.le_refl 0
  | some component => exact weight_mono h

/-- Counts never fall from one pass to the next. -/
theorem get_iterate_le (k : Nat) (f : FunctionDecl) :
    (counter.refine^[k] counter.seed).get f ≤
      (counter.refine^[k + 1] counter.seed).get f := by
  induction k generalizing f with
  | zero =>
    -- The seed is the pass over no counts, and no counts are below any.
    rw [Function.iterate_one, Function.iterate_zero_apply]
    conv => lhs; rw [seed_eq_refine]
    exact get_refine_mono fun _ => Nat.zero_le _
  | succ k ih =>
    rw [Function.iterate_succ_apply', Function.iterate_succ_apply']
    exact get_refine_mono ih

theorem seed_le_iterate (k : Nat) (f : FunctionDecl) :
    counter.seed.get f ≤ (counter.refine^[k] counter.seed).get f := by
  induction k with
  | zero => exact Nat.le_refl _
  | succ k ih => exact Nat.le_trans ih (get_iterate_le k f)

/-! ### Maps that a pass tells apart -/

/-- A pass that counts a component differently by two maps meets a call of a component on which the
maps differ. -/
theorem exists_callee_of_weight_ne
    (h : counter.weight current component ≠ counter.weight other component) :
    ∃ call ∈ component.1.statements.filterMap Call.ofNode?, ∃ name, call.receiver? = none ∧
      call.name? = some name ∧ counter.emitters.isKnown name = false ∧
      ∃ callee ∈ counter.components, callee.1.name? = some name ∧
        current.get callee.1 ≠ other.get callee.1 := by
  by_contra hnone
  refine h (congrArg (component.2 + total ·) (List.map_congr_left fun call hcall => ?_))
  unfold indirectCount
  split
  · rfl
  case isFalse hknown =>
  suffices hcallee : counter.calleeCount current call = counter.calleeCount other call by
    rw [hcallee]
  rcases calleeCount_cases call with hzero | ⟨name, hr, hn, hcount⟩
  · rw [hzero, hzero]
  rw [hn, Option.any_some, Bool.not_eq_true] at hknown
  rw [hcount, hcount]
  congr 1
  refine List.map_congr_left fun callee hcallee => ?_
  obtain ⟨hmem, hname⟩ := List.mem_filter.1 hcallee
  by_contra hne
  exact hnone ⟨call, hcall, name, hr, hn, hknown, callee, hmem, beq_iff_eq.1 hname, hne⟩

/-! ### The loop -/

/-- The loop ends before its last turn at the first map that a pass leaves as it is, or else after
all its turns. -/
theorem refineUpTo_cases (counter : EmissionCounter) (passes : Nat) (current : EmissionMap) :
    (∃ k < passes, counter.refineUpTo passes current = counter.refine^[k] current ∧
      counter.refine (counter.refine^[k] current) = counter.refine^[k] current ∧
      ∀ j < k, counter.refine (counter.refine^[j] current) ≠ counter.refine^[j] current) ∨
    (counter.refineUpTo passes current = counter.refine^[passes] current ∧
      ∀ j < passes, counter.refine (counter.refine^[j] current) ≠ counter.refine^[j] current) := by
  induction passes generalizing current with
  | zero => exact .inr ⟨rfl, fun j hj => absurd hj (Nat.not_lt_zero j)⟩
  | succ passes ih =>
    unfold refineUpTo
    split
    case isTrue h =>
      exact .inl ⟨0, Nat.succ_pos _, rfl, EmissionMap.beq_iff.1 h,
        fun j hj => absurd hj (Nat.not_lt_zero j)⟩
    case isFalse h =>
    have hne : counter.refine current ≠ current := fun heq => h (EmissionMap.beq_iff.2 heq)
    have hearlier {n : Nat} (hj : ∀ j < n, counter.refine
        (counter.refine^[j] (counter.refine current)) ≠ counter.refine^[j] (counter.refine current)) :
        ∀ j < n + 1, counter.refine (counter.refine^[j] current) ≠ counter.refine^[j] current := by
      intro j hlt
      cases j with
      | zero => exact hne
      | succ j =>
        rw [Function.iterate_succ_apply]
        exact hj j (Nat.lt_of_succ_lt_succ hlt)
    rcases ih (counter.refine current) with ⟨k, hk, heq, hstable, hj⟩ | ⟨heq, hj⟩
    · exact .inl ⟨k + 1, Nat.succ_lt_succ hk, heq, hstable, hearlier hj⟩
    · exact .inr ⟨heq, hearlier hj⟩

/-- The map that counting returns is that of some pass, at most the last one. -/
theorem exists_resolve_eq_iterate (counter : EmissionCounter) :
    ∃ k ≤ counter.components.length, counter.resolve = counter.refine^[k] counter.seed := by
  rcases refineUpTo_cases counter counter.components.length counter.seed with
    ⟨k, hk, h, -⟩ | ⟨h, -⟩
  · exact ⟨k, Nat.le_of_lt hk, h⟩
  · exact ⟨_, Nat.le_refl _, h⟩

theorem seed_le_resolve (f : FunctionDecl) : counter.seed.get f ≤ counter.resolve.get f := by
  obtain ⟨k, -, hresolve⟩ := exists_resolve_eq_iterate counter
  rw [hresolve]
  exact seed_le_iterate k f

end

end EmissionCounter

end ComposeCheck
