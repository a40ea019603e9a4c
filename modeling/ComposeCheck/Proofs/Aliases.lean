import ComposeCheck.Proofs.Handing
import Mathlib.Data.List.Perm.Subperm
import Mathlib.Data.Nat.Find
import Mathlib.Order.Bounds.Basic

/-!
# Aliases of a modifier

A local leads from the name at which its initializer starts to its own name (`aliasSteps`). The
names found in a scope are those that such steps reach from the first one, and so the least set that
holds the first name and with a name every name that it leads to. Passes over the locals find the
same names in any order of the locals (`aliasPass`); each pass but the last brings in a name, and
names come from locals, so there is at most one pass more than there are locals.
-/

namespace ComposeCheck

/-- Where each local leads from and to: the name at which its initializer starts, and its own. -/
def aliasSteps (scope : Node) : List (String × String) :=
  ((namedValues scope).filter fun entry => entry.2.chainRoot.kind == "identifier").map
    fun entry => (entry.2.chainRoot.text, entry.1)

/-- A property below the scope whose initializer starts at one of the names has such a name. -/
def AliasClosed (scope : Node) (names : Set String) : Prop :=
  ∀ p ∈ Property.allIn scope, ∀ derived value, p.name? = some derived →
    p.initializer? = some value → value.chainRoot.kind = "identifier" →
      value.chainRoot.text ∈ names → derived ∈ names

def takeAlias (names : List String) (entry : String × Node) : List String :=
  if !names.contains entry.1 && entry.2.startsAtAny names then names ++ [entry.1] else names

/-- A pass over the locals in their order. A name counts from the local on that brings it in. -/
def aliasPass (locals : List (String × Node)) (names : List String) : List String :=
  locals.foldl takeAlias names

/-- A round of the search: the locals that start at a name found before give their names at once,
and the others are left for the next round. -/
def growth (state : List String × List (String × Node)) : List String × List (String × Node) :=
  (state.1 ++ (derivedFrom state.1 state.2).map (·.1), notDerivedFrom state.1 state.2)

section
variable {scope outer : Node} {initial a b : String} {names : List String}
  {locals : List (String × Node)} {entry : String × Node}

/-! ### Steps from name to name -/

theorem mem_aliasSteps_iff : (a, b) ∈ aliasSteps scope ↔ ∃ value,
    (b, value) ∈ namedValues scope ∧ value.chainRoot.kind = "identifier" ∧
      value.chainRoot.text = a := by
  simp only [aliasSteps, List.mem_map, List.mem_filter, beq_iff_eq, Prod.mk.injEq, Prod.exists]
  constructor
  · rintro ⟨derived, value, ⟨hmem, hkind⟩, htext, rfl⟩
    exact ⟨value, hmem, hkind, htext⟩
  · rintro ⟨value, hmem, hkind, htext⟩
    exact ⟨b, value, ⟨hmem, hkind⟩, htext, rfl⟩

theorem namedAfter_iff_reflTransGen : NamedAfter scope initial a ↔
    Relation.ReflTransGen (fun a b => (a, b) ∈ aliasSteps scope) initial a := by
  constructor
  · intro h
    induction h with
    | self => exact .refl
    | ofValue hmem hkind _ ih => exact ih.tail (mem_aliasSteps_iff.2 ⟨_, hmem, hkind, rfl⟩)
  · intro h
    induction h with
    | refl => exact .self
    | tail _ hstep ih =>
      obtain ⟨value, hmem, hkind, rfl⟩ := mem_aliasSteps_iff.1 hstep
      exact .ofValue hmem hkind ih

theorem mem_modifierNames_iff_reflTransGen : a ∈ modifierNames scope initial ↔
    Relation.ReflTransGen (fun a b => (a, b) ∈ aliasSteps scope) initial a :=
  mem_modifierNames_iff.trans namedAfter_iff_reflTransGen

theorem isLeast_modifierNames (scope : Node) (initial : String) :
    IsLeast {names : Set String | initial ∈ names ∧ AliasClosed scope names}
      {n | n ∈ modifierNames scope initial} := by
  refine ⟨⟨mem_modifierNames_iff.2 .self, ?_⟩, ?_⟩
  · intro p hp derived value hname hvalue hkind hmem
    exact mem_modifierNames_iff.2 (.ofValue (mem_namedValues_iff.2 ⟨p, hp, hname, hvalue⟩) hkind
      (mem_modifierNames_iff.1 hmem))
  · rintro names ⟨hinitial, hclosed⟩ n hn
    induction mem_modifierNames_iff.1 hn with
    | self => exact hinitial
    | ofValue hmem hkind h ih =>
      obtain ⟨p, hp, hname, hvalue⟩ := mem_namedValues_iff.1 hmem
      exact hclosed p hp _ _ hname hvalue hkind (ih (mem_modifierNames_iff.2 h))

/-! ### Wider scopes -/

theorem Node.descendants_subset (h : scope.Under outer) :
    scope.descendants ⊆ outer.descendants :=
  fun _ hn => mem_descendants_iff.2 ((mem_descendants_iff.1 hn).trans h)

theorem namedValues_subset (h : scope.Under outer) : namedValues scope ⊆ namedValues outer := by
  rintro ⟨name, value⟩ hmem
  obtain ⟨p, hp, hnamed⟩ := mem_namedValues_iff.1 hmem
  obtain ⟨hnode, hkind⟩ := Property.mem_allIn_iff.1 hp
  have hp : p ∈ Property.allIn outer :=
    Property.mem_allIn_iff.2 ⟨Node.descendants_subset h hnode, hkind⟩
  exact mem_namedValues_iff.2 ⟨p, hp, hnamed⟩

theorem modifierNames_subset (h : scope.Under outer) :
    modifierNames scope initial ⊆ modifierNames outer initial := by
  intro n hn
  rw [mem_modifierNames_iff] at hn ⊢
  induction hn with
  | self => exact .self
  | ofValue hmem hkind _ ih => exact .ofValue (namedValues_subset h hmem) hkind ih

/-! ### Rounds of the search -/

theorem growth_eq_self (h : locals.length ≤ (notDerivedFrom names locals).length) :
    growth (names, locals) = (names, locals) := by
  have hnone := List.length_filter_eq_length_iff.1 (Nat.le_antisymm (List.length_filter_le _ _) h)
  have hderived : derivedFrom names locals = [] := by
    refine List.filter_eq_nil_iff.2 fun entry hentry => ?_
    simpa using hnone entry hentry
  have hrest : notDerivedFrom names locals = locals := List.filter_eq_self.2 hnone
  rw [growth, hderived, hrest, List.map_nil, List.append_nil]

/-- The search ends with the first round that would find nothing, and each round before it uses up
a local. -/
theorem exists_growAliases_eq (names : List String) (locals : List (String × Node)) :
    ∃ rounds ≤ locals.length, growAliases names locals = (growth^[rounds] (names, locals)).1 ∧
      growth (growth^[rounds] (names, locals)) = growth^[rounds] (names, locals) := by
  fun_induction growAliases names locals with
  | case1 names locals hlt ih =>
    obtain ⟨rounds, hle, heq, hstable⟩ := ih
    exact ⟨rounds + 1, Nat.lt_of_le_of_lt hle hlt, heq, hstable⟩
  | case2 names locals hlt =>
    exact ⟨0, Nat.zero_le _, rfl, growth_eq_self (Nat.not_lt.1 hlt)⟩

/-! ### Passes -/

theorem prefix_takeAlias : names <+: takeAlias names entry := by
  unfold takeAlias
  split
  · exact List.prefix_append names _
  · exact List.prefix_rfl

theorem prefix_aliasPass : names <+: aliasPass locals names := by
  induction locals generalizing names with
  | nil => exact List.prefix_rfl
  | cons entry locals ih => exact prefix_takeAlias.trans ih

/-- What every local keeps when it is taken in, a pass keeps. -/
theorem aliasPass_induct {P : List String → Prop} (h : P names)
    (hstep : ∀ names, ∀ entry ∈ locals, P names → P (takeAlias names entry)) :
    P (aliasPass locals names) := by
  induction locals generalizing names with
  | nil => exact h
  | cons entry locals ih =>
    exact ih (hstep names entry List.mem_cons_self h)
      fun names e he => hstep names e (List.mem_cons_of_mem entry he)

theorem nodup_aliasPass (h : names.Nodup) : (aliasPass locals names).Nodup := by
  refine aliasPass_induct h fun names entry _ h => ?_
  unfold takeAlias
  split
  case isTrue hnew =>
    simp only [Bool.and_eq_true, Bool.not_eq_true', List.contains_eq_mem,
      decide_eq_false_iff_not] at hnew
    exact List.nodup_append_comm.1 (List.nodup_cons.2 ⟨hnew.1, h⟩)
  case isFalse => exact h

theorem aliasPass_subset {all : List String} (h : names ⊆ all)
    (hlocals : ∀ entry ∈ locals, entry.1 ∈ all) : aliasPass locals names ⊆ all := by
  refine aliasPass_induct (P := (· ⊆ all)) h fun names entry hentry h => ?_
  unfold takeAlias
  split
  · exact List.append_subset.2 ⟨h, by simpa using hlocals entry hentry⟩
  · exact h

theorem namedAfter_of_mem_aliasPass (hlocals : ∀ entry ∈ locals, entry ∈ namedValues scope)
    (h : ∀ a ∈ names, NamedAfter scope initial a) :
    ∀ a ∈ aliasPass locals names, NamedAfter scope initial a := by
  refine aliasPass_induct (P := fun names => ∀ a ∈ names, NamedAfter scope initial a) h
    fun names entry hentry h => ?_
  unfold takeAlias
  split
  case isTrue hnew =>
    obtain ⟨hkind, htext⟩ := Node.startsAtAny_iff.1 (Bool.and_eq_true_iff.1 hnew).2
    intro a ha
    rcases List.mem_append.1 ha with ha | ha
    · exact h a ha
    · rw [List.mem_singleton.1 ha]
      exact .ofValue (hlocals entry hentry) hkind (h _ htext)
  case isFalse => exact h

/-- After a pass that brings in nothing no local is left that would. -/
theorem mem_of_aliasPass_eq (h : aliasPass locals names = names) (hentry : entry ∈ locals)
    (hstarts : entry.2.startsAtAny names = true) : entry.1 ∈ names := by
  induction locals with
  | nil => cases hentry
  | cons e locals ih =>
    have hfirst : takeAlias names e = names := by
      have hback : takeAlias names e <+: names := by
        conv => rhs; rw [← h]
        exact prefix_aliasPass
      exact (prefix_takeAlias.eq_of_length_le hback.length_le).symm
    rcases List.mem_cons.1 hentry with rfl | hentry
    · unfold takeAlias at hfirst
      split at hfirst
      · simp at hfirst
      case isFalse hold => simpa [hstarts] using hold
    · exact ih (by rwa [aliasPass, List.foldl_cons, hfirst] at h) hentry

end

/-! ### How many passes there are -/

/-- A list that only grows, and never beyond a bound, stops growing. -/
theorem exists_last_growth {α : Type} {f : List α → List α} {start : List α} {bound : Nat}
    (hgrow : ∀ xs, xs <+: f xs) (hbound : ∀ k, (f^[k] start).length ≤ start.length + bound) :
    ∃ k ≤ bound, (∀ i < k, f^[i + 1] start ≠ f^[i] start) ∧ f^[k + 1] start = f^[k] start := by
  have hlength (k : Nat) (hk : ∀ i < k, f^[i + 1] start ≠ f^[i] start) :
      start.length + k ≤ (f^[k] start).length := by
    induction k with
    | zero => exact Nat.le_refl _
    | succ k ih =>
      have hle := ih fun i hi => hk i (Nat.lt_succ_of_lt hi)
      have hne := hk k (Nat.lt_succ_self k)
      rw [Function.iterate_succ_apply'] at hne ⊢
      have hlt : (f^[k] start).length < (f (f^[k] start)).length :=
        Nat.lt_of_not_le fun h => hne ((hgrow _).eq_of_length_le h).symm
      omega
  have hex : ∃ k, f^[k + 1] start = f^[k] start := by
    by_contra hnone
    have hall := hlength (bound + 1) fun i _ heq => hnone ⟨i, heq⟩
    have hmost := hbound (bound + 1)
    omega
  classical
  have hearlier : ∀ i < Nat.find hex, f^[i + 1] start ≠ f^[i] start :=
    fun i hi => Nat.find_min hex hi
  refine ⟨Nat.find hex, ?_, hearlier, Nat.find_spec hex⟩
  have hall := hlength (Nat.find hex) hearlier
  have hmost := hbound (Nat.find hex)
  omega

section
variable {scope : Node} {initial : String} {locals : List (String × Node)}

theorem nodup_iterate_aliasPass (k : Nat) : ((aliasPass locals)^[k] [initial]).Nodup := by
  induction k with
  | zero => exact List.nodup_singleton initial
  | succ k ih =>
    rw [Function.iterate_succ_apply']
    exact nodup_aliasPass ih

theorem iterate_aliasPass_subset (k : Nat) :
    (aliasPass locals)^[k] [initial] ⊆ initial :: locals.map (·.1) := by
  induction k with
  | zero => simp
  | succ k ih =>
    rw [Function.iterate_succ_apply']
    exact aliasPass_subset ih fun entry hentry =>
      List.mem_cons_of_mem _ (List.mem_map_of_mem hentry)

theorem length_iterate_aliasPass_le (k : Nat) :
    ((aliasPass locals)^[k] [initial]).length ≤ [initial].length + locals.length := by
  have hle : ((aliasPass locals)^[k] [initial]).length ≤ (initial :: locals.map (·.1)).length :=
    (List.subperm_of_subset (nodup_iterate_aliasPass k) (iterate_aliasPass_subset k)).length_le
  simpa [Nat.add_comm] using hle

theorem namedAfter_of_mem_iterate (hlocals : ∀ entry ∈ locals, entry ∈ namedValues scope)
    (k : Nat) : ∀ a ∈ (aliasPass locals)^[k] [initial], NamedAfter scope initial a := by
  induction k with
  | zero =>
    intro a ha
    rw [List.mem_singleton.1 ha]
    exact .self
  | succ k ih =>
    rw [Function.iterate_succ_apply']
    exact namedAfter_of_mem_aliasPass hlocals ih

theorem exists_new_alias {k : Nat}
    (h : (aliasPass locals)^[k + 1] [initial] ≠ (aliasPass locals)^[k] [initial]) :
    ∃ n ∈ (aliasPass locals)^[k + 1] [initial], n ∉ (aliasPass locals)^[k] [initial] := by
  have hnodup : ((aliasPass locals)^[k + 1] [initial]).Nodup := nodup_iterate_aliasPass (k + 1)
  rw [Function.iterate_succ_apply'] at h hnodup ⊢
  obtain ⟨more, hmore⟩ : (aliasPass locals)^[k] [initial] <+:
      aliasPass locals ((aliasPass locals)^[k] [initial]) := prefix_aliasPass
  rw [← hmore] at h hnodup ⊢
  cases more with
  | nil => exact absurd (List.append_nil _) h
  | cons n more =>
    refine ⟨n, List.mem_append_right _ List.mem_cons_self, fun hn => ?_⟩
    exact (List.nodup_append.1 hnodup).2.2 n hn n List.mem_cons_self rfl

/-- When passes bring in nothing more, they have found what the scope has. -/
theorem mem_iterate_aliasPass_iff (hperm : locals.Perm (namedValues scope)) {k : Nat}
    (hstable : (aliasPass locals)^[k + 1] [initial] = (aliasPass locals)^[k] [initial])
    (n : String) :
    n ∈ (aliasPass locals)^[k] [initial] ↔ n ∈ modifierNames scope initial := by
  rw [mem_modifierNames_iff]
  constructor
  · exact namedAfter_of_mem_iterate (fun entry hentry => hperm.subset hentry) k n
  · intro h
    have hinitial : initial ∈ (aliasPass locals)^[k] [initial] := by
      clear hstable
      induction k with
      | zero => exact List.mem_cons_self
      | succ k ih =>
        rw [Function.iterate_succ_apply']
        exact prefix_aliasPass.subset ih
    rw [Function.iterate_succ_apply'] at hstable
    induction h with
    | self => exact hinitial
    | ofValue hmem hkind _ ih =>
      exact mem_of_aliasPass_eq hstable (hperm.symm.subset hmem)
        (Node.startsAtAny_iff.2 ⟨hkind, ih⟩)

end

/-- The aliases of a name are the least set that holds it and is closed under what locals add, and
so the names that are reached from it; the order of the locals does not matter, and a wider scope
has no fewer. The search makes no more rounds than there are properties. Passes over the locals, in
any order, end with the aliases: each pass but the last brings in a new one, and there is at most
one pass more than there are properties. -/
theorem modifierNames_least_closed (scope : Node) (initial : String) :
    IsLeast {names : Set String | initial ∈ names ∧ AliasClosed scope names}
      {n | n ∈ modifierNames scope initial} ∧
    (∀ n, n ∈ modifierNames scope initial ↔
      Relation.ReflTransGen (fun a b => (a, b) ∈ aliasSteps scope) initial n) ∧
    (∀ other, (aliasSteps other).Perm (aliasSteps scope) →
      ∀ n, n ∈ modifierNames other initial ↔ n ∈ modifierNames scope initial) ∧
    (∀ outer, scope.Under outer → modifierNames scope initial ⊆ modifierNames outer initial) ∧
    (∃ rounds ≤ (Property.allIn scope).length, ∀ more,
      modifierNames scope initial =
        (growth^[rounds + more] ([initial], namedValues scope)).1.eraseDups) ∧
    ∀ locals, locals.Perm (namedValues scope) →
      ∃ passes ≤ (Property.allIn scope).length,
        (∀ i < passes, ∃ n ∈ (aliasPass locals)^[i + 1] [initial],
          n ∉ (aliasPass locals)^[i] [initial]) ∧
        (aliasPass locals)^[passes + 1] [initial] = (aliasPass locals)^[passes] [initial] ∧
        ∀ n, n ∈ (aliasPass locals)^[passes] [initial] ↔ n ∈ modifierNames scope initial := by
  refine ⟨isLeast_modifierNames scope initial, fun n => mem_modifierNames_iff_reflTransGen,
    fun other hperm n => ?_, fun outer h => modifierNames_subset h, ?_, fun locals hperm => ?_⟩
  · simp only [mem_modifierNames_iff_reflTransGen, hperm.mem_iff]
  · obtain ⟨rounds, hle, heq, hstable⟩ := exists_growAliases_eq [initial] (namedValues scope)
    refine ⟨rounds, Nat.le_trans hle (List.length_filterMap_le _ _), fun more => ?_⟩
    rw [Nat.add_comm, Function.iterate_add_apply, Function.iterate_fixed hstable, ← heq]
    rfl
  · obtain ⟨passes, hle, hgrowth, hstable⟩ :=
      exists_last_growth (fun _ => prefix_aliasPass) fun k => length_iterate_aliasPass_le k
    have hlocals : locals.length ≤ (Property.allIn scope).length :=
      hperm.length_eq ▸ List.length_filterMap_le _ _
    exact ⟨passes, Nat.le_trans hle hlocals, fun i hi => exists_new_alias (hgrowth i hi), hstable,
      mem_iterate_aliasPass_iff hperm hstable⟩

/-- A function whose locals come from its parameter against their order, and in a ring. -/
def ringFile : String := "fun f(a: A) \x7b val c = b; val b = a.x(); val a = c \x7d"

def ringParser : Parser := fun text =>
  if text = ringFile then
    let named (kind : String) (start stop : Nat) (ts : List ParseTree) : ParseTree :=
      .node ⟨kind, true, false, start, stop⟩ ts
    let token (kind : String) (start stop : Nat) : ParseTree :=
      .node ⟨kind, false, false, start, stop⟩ []
    let letter (start : Nat) : ParseTree := named "identifier" start (start + 1) []
    let derived (start stop : Nat) (value : ParseTree) : ParseTree :=
      named "property_declaration" start stop [token "val" start (start + 3),
        named "variable_declaration" (start + 4) (start + 5) [letter (start + 4)],
        token "=" (start + 6) (start + 7), value]
    let chain := named "call_expression" 33 38
      [named "navigation_expression" 33 36 [letter 33, token "." 34 35, letter 35],
        named "value_arguments" 36 38 [token "(" 36 37, token ")" 37 38]]
    let parameters := named "function_value_parameters" 5 11 [token "(" 5 6,
      named "parameter" 6 10 [letter 6, token ":" 7 8, named "user_type" 9 10 [letter 9]],
      token ")" 10 11]
    let block := named "block" 12 51 [token "\x7b" 12 13, derived 14 23 (letter 22),
      derived 25 38 chain, derived 40 49 (letter 48), token "\x7d" 50 51]
    let function := named "function_declaration" 0 51
      [token "fun" 0 3, letter 4, parameters, named "function_body" 12 51 [block]]
    some ⟨named "source_file" 0 51 [function], false⟩
  else none

def ringTree : SyntaxTree := (SyntaxTree.read? ringParser ringFile).get (by decide +kernel)

def ringFunction : FunctionDecl :=
  ⟨ringTree.rootNode.preorder.get ⟨1, by decide +kernel⟩⟩

def ringBody : Node := ringFunction.body?.get (by decide +kernel)

/-- In the order of the file a pass leaves a name to the next one, in the other order none. -/
theorem modifierNames_least_closed_ring :
    aliasSteps ringBody = [("b", "c"), ("a", "b"), ("c", "a")] ∧
    modifierNames ringBody "a" = ["a", "b", "c"] ∧
    modifierNames ringBody "a" ⊆ modifierNames ringFunction.node "a" ∧
    aliasPass (namedValues ringBody) ["a"] = ["a", "b"] ∧
    aliasPass (namedValues ringBody).reverse ["a"] = ["a", "b", "c"] ∧
    ∃ passes ≤ 3, (∀ i < passes, ∃ n ∈ (aliasPass (namedValues ringBody))^[i + 1] ["a"],
        n ∉ (aliasPass (namedValues ringBody))^[i] ["a"]) ∧
      ∀ n, n ∈ (aliasPass (namedValues ringBody))^[passes] ["a"] ↔
        n ∈ modifierNames ringBody "a" := by
  have hbody : ringFunction.body? = some ringBody := (Option.some_get _).symm
  have hunder : ringBody.Under ringFunction.node := .single (Node.of_childOfKind? hbody).1
  obtain ⟨-, -, -, hwider, -, hpasses⟩ := modifierNames_least_closed ringBody "a"
  have hlength : (Property.allIn ringBody).length = 3 := by decide +kernel
  obtain ⟨passes, hle, hnew, -, hfound⟩ := hpasses _ (.refl _)
  exact ⟨by decide +kernel, by decide +kernel, hwider _ hunder, by decide +kernel,
    by decide +kernel, passes, hlength ▸ hle, hnew, hfound⟩

end ComposeCheck
