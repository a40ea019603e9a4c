import ComposeCheck.Kotlin.LambdaTypes
import ComposeCheck.Proofs.Lines
import Mathlib.Algebra.GroupWithZero.Nat
import Mathlib.Data.List.Pairwise
import Mathlib.Logic.Relation

/-!
# Types that are derived to be lambdas

Resolving a type goes into wrappers and from aliases to their targets. It follows no alias twice,
so it ends after as many steps as there are nodes in the types on the way (`resolveIn_eq`). That
cuts no derivation off: an alias resolves to what its target resolves to (`resolve_of_name`), with
nothing said of the aliases that were followed before. So the types of lambdas are those that are
derived in finitely many steps (`Derived`), and a way that runs into a circle ends at none.
-/

namespace ComposeCheck

theorem mem_of_lookup_eq_some {α : Type} {entries : List (String × α)} {key : String} {value : α}
    (h : entries.lookup key = some value) : (key, value) ∈ entries := by
  obtain ⟨before, after, rfl, -⟩ := List.lookup_eq_some_iff.1 h
  exact List.mem_append_right _ List.mem_cons_self

/-- Where one key stands for one value only, a lookup finds what is listed. -/
theorem lookup_eq_some_iff_mem {α : Type} {entries : List (String × α)} {key : String} {value : α}
    (h : ∀ a b, (key, a) ∈ entries → (key, b) ∈ entries → a = b) :
    entries.lookup key = some value ↔ (key, value) ∈ entries := by
  refine ⟨mem_of_lookup_eq_some, fun hvalue => ?_⟩
  obtain ⟨found, hfound⟩ := Option.isSome_iff_exists.1
    (List.lookup_isSome_iff.2 ⟨_, hvalue, beq_self_eq_true key⟩)
  rw [hfound, h _ _ (mem_of_lookup_eq_some hfound) hvalue]

namespace LambdaTypes

section
variable {types : LambdaTypes} {aliases : List (String × Node)} {type inner target : Node}
  {name other : String} {b : Bool}

/-! ### Resolving by the kind of a type -/

/-- What a name says by itself: an option lists it, or an interface of the file has it. -/
def named? (types : LambdaTypes) (name : String) : Option Bool :=
  if types.composables.contains name then some true
  else if types.lambdas.contains name then some false
  else types.funInterfaces.lookup name

theorem kind_ne_of_isTypeWrapper (h : type.isTypeWrapper = true) :
    type.kind ≠ "function_type" ∧ type.kind ≠ "user_type" := by
  rw [Node.isTypeWrapper, Bool.or_eq_true, beq_iff_eq, beq_iff_eq] at h
  rcases h with h | h <;> rw [h] <;> decide

theorem resolveWith_of_function (h : type.kind = "function_type") :
    types.resolveWith aliases type = some (isMarkedFunction type) := by
  rw [resolveWith, if_pos h]

theorem resolveWith_of_wrapper (h : type.isTypeWrapper = true) : types.resolveWith aliases type =
    (type.wrappedType?.bind (types.resolveWith aliases)).map (· || isMarked type) := by
  rw [resolveWith, if_neg (kind_ne_of_isTypeWrapper h).1, if_pos h]
  split
  case h_1 inner heq => rw [heq, Option.bind_some]
  case h_2 heq => rw [heq]; rfl

theorem resolveWith_of_name (h : type.kind = "user_type") : types.resolveWith aliases type =
    type.simpleTypeName?.bind fun name => (types.named? name).or
      ((aliases.lookup name).bind (types.resolveWith (others name aliases))) := by
  have hwrapper : ¬type.isTypeWrapper = true := fun hw => (kind_ne_of_isTypeWrapper hw).2 h
  rw [resolveWith, if_neg (by rw [h]; decide), if_neg hwrapper, if_pos h]
  split
  case h_1 heq => rw [heq]; rfl
  case h_2 name heq =>
    rw [heq, Option.bind_some, named?]
    split
    · rfl
    split
    · rfl
    split
    case h_1 composable hlookup => rw [hlookup]; rfl
    case h_2 hlookup =>
      rw [hlookup, Option.none_or]
      split
      case h_1 target htarget => rw [htarget, Option.bind_some]
      case h_2 htarget => rw [htarget]; rfl

theorem resolveWith_of_other (h₁ : type.kind ≠ "function_type") (h₂ : type.isTypeWrapper = false)
    (h₃ : type.kind ≠ "user_type") : types.resolveWith aliases type = none := by
  rw [resolveWith, if_neg h₁, if_neg (by rw [h₂]; decide), if_neg h₃]

/-- Induction along the way of resolving: into wrappers, and from a name to the target of its alias,
which is left with the other aliases. -/
theorem resolve_induct {motive : List (String × Node) → Node → Prop}
    (function : ∀ aliases type, type.kind = "function_type" → motive aliases type)
    (wrapper : ∀ aliases type, type.isTypeWrapper = true →
      (∀ inner, type.wrappedType? = some inner → motive aliases inner) → motive aliases type)
    (name : ∀ aliases type, type.kind = "user_type" →
      (∀ name target, aliases.lookup name = some target → motive (others name aliases) target) →
      motive aliases type)
    (other : ∀ aliases type, type.kind ≠ "function_type" → type.isTypeWrapper = false →
      type.kind ≠ "user_type" → motive aliases type)
    (aliases : List (String × Node)) (type : Node) : motive aliases type := by
  by_cases h₁ : type.kind = "function_type"
  · exact function aliases type h₁
  by_cases h₂ : type.isTypeWrapper = true
  · exact wrapper aliases type h₂ fun inner _ =>
      resolve_induct function wrapper name other aliases inner
  by_cases h₃ : type.kind = "user_type"
  · exact name aliases type h₃ fun key target _ =>
      resolve_induct function wrapper name other (others key aliases) target
  · exact other aliases type h₁ (Bool.eq_false_iff.2 h₂) h₃
termination_by (aliases.length, type.size)
decreasing_by
  · exact Prod.Lex.right _ (Node.size_lt_of_wrappedType? ‹_›)
  · exact Prod.Lex.left _ _ (length_others_lt ‹_›)

/-! ### Aliases that are left out -/

theorem lookup_others : (others name aliases).lookup other =
    if other = name then none else aliases.lookup other := by
  unfold others
  induction aliases with
  | nil => simp
  | cons entry aliases ih =>
    obtain ⟨key, value⟩ := entry
    rw [List.filter_cons, List.lookup_cons]
    grind

theorem others_comm : others name (others other aliases) = others other (others name aliases) := by
  unfold others
  rw [List.filter_filter, List.filter_filter]
  exact List.filter_congr fun _ _ => Bool.and_comm _ _

/-- With one more alias left a type is still resolved in the same way. -/
theorem resolveWith_of_others (h : types.resolveWith (others name aliases) type = some b) :
    types.resolveWith aliases type = some b := by
  induction aliases, type using resolve_induct generalizing b with
  | function aliases type hkind => rwa [resolveWith_of_function hkind] at h ⊢
  | wrapper aliases type hkind ih =>
    rw [resolveWith_of_wrapper hkind] at h ⊢
    obtain ⟨c, hc, rfl⟩ := Option.map_eq_some_iff.1 h
    obtain ⟨inner, hinner, hc⟩ := Option.bind_eq_some_iff.1 hc
    rw [hinner, Option.bind_some, ih inner hinner hc, Option.map_some]
  | name aliases type hkind ih =>
    rw [resolveWith_of_name hkind] at h ⊢
    obtain ⟨key, hkey, h⟩ := Option.bind_eq_some_iff.1 h
    rw [hkey, Option.bind_some]
    rcases Option.or_eq_some_iff.1 h with h | ⟨hnone, h⟩
    · rw [h, Option.some_or]
    obtain ⟨target, htarget, h⟩ := Option.bind_eq_some_iff.1 h
    rw [lookup_others] at htarget
    split at htarget
    · cases htarget
    rw [others_comm] at h
    rw [hnone, Option.none_or, htarget, Option.bind_some, ih key target htarget h]
  | other aliases type h₁ h₂ h₃ => rwa [resolveWith_of_other h₁ h₂ h₃] at h ⊢

/-- An alias can be left out on the way to a lambda: either it is not needed, or the way leads on
from its target, and there it is not needed. -/
theorem isSome_resolveWith_others (h : (types.resolveWith aliases type).isSome = true)
    (htarget : aliases.lookup name = some target) :
    (types.resolveWith (others name aliases) type).isSome = true ∨
      (types.resolveWith (others name aliases) target).isSome = true := by
  induction aliases, type using resolve_induct with
  | function aliases type hkind => exact .inl (by rw [resolveWith_of_function hkind]; rfl)
  | wrapper aliases type hkind ih =>
    rw [resolveWith_of_wrapper hkind, Option.isSome_map] at h ⊢
    cases hinner : type.wrappedType? with
    | none => rw [hinner] at h; cases h
    | some inner =>
      rw [hinner, Option.bind_some] at h
      exact ih inner hinner h htarget
  | name aliases type hkind ih =>
    rw [resolveWith_of_name hkind] at h ⊢
    cases hkey : type.simpleTypeName? with
    | none => rw [hkey] at h; cases h
    | some key =>
      rw [hkey, Option.bind_some, Option.isSome_or, Bool.or_eq_true] at h
      rw [Option.bind_some, Option.isSome_or, Bool.or_eq_true, or_assoc]
      refine h.imp_right fun h => ?_
      cases hnext : aliases.lookup key with
      | none => rw [hnext] at h; cases h
      | some next =>
        rw [hnext, Option.bind_some] at h
        rw [lookup_others]
        by_cases heq : key = name
        · subst heq
          obtain rfl := Option.some.inj (hnext.symm.trans htarget)
          exact .inr h
        rw [if_neg heq, hnext, Option.bind_some]
        have hrest : (others key aliases).lookup name = some target := by
          rw [lookup_others, if_neg (Ne.symm heq), htarget]
        rcases ih key next hnext h hrest with h | h
        · exact .inl (others_comm ▸ h)
        · obtain ⟨b, hb⟩ := Option.isSome_iff_exists.1 h
          rw [others_comm] at hb
          exact .inr (Option.isSome_iff_exists.2 ⟨b, resolveWith_of_others hb⟩)
  | other aliases type h₁ h₂ h₃ => rw [resolveWith_of_other h₁ h₂ h₃] at h; cases h

/-- The target of an alias resolves to the same whether or not the alias may be followed again. -/
theorem resolveWith_others (htarget : aliases.lookup name = some target) :
    types.resolveWith (others name aliases) target = types.resolveWith aliases target := by
  cases h : types.resolveWith aliases target with
  | none =>
    rw [Option.eq_none_iff_forall_ne_some]
    intro b hb
    exact absurd (h.symm.trans (resolveWith_of_others hb)) (Option.some_ne_none b).symm
  | some b =>
    have hsome := isSome_resolveWith_others (Option.isSome_iff_exists.2 ⟨b, h⟩) htarget
    obtain ⟨c, hc⟩ := Option.isSome_iff_exists.1 (hsome.elim id id)
    rw [hc, ← resolveWith_of_others hc, h]

/-! ### One step of resolving -/

theorem resolve_of_function (h : type.kind = "function_type") :
    types.resolve type = some (isMarkedFunction type) := resolveWith_of_function h

theorem resolve_of_wrapper (h : type.isTypeWrapper = true) :
    types.resolve type = (type.wrappedType?.bind types.resolve).map (· || isMarked type) :=
  resolveWith_of_wrapper h

/-- A name resolves to what it says by itself, or else to what the target of its alias resolves
to. -/
theorem resolve_of_name (h : type.kind = "user_type") :
    types.resolve type = type.simpleTypeName?.bind fun name =>
      (types.named? name).or ((types.aliases.lookup name).bind types.resolve) := by
  rw [resolve, resolveWith_of_name h]
  refine Option.bind_congr fun name _ => congrArg _ (Option.bind_congr fun target htarget => ?_)
  exact resolveWith_others htarget

theorem resolve_of_other (h₁ : type.kind ≠ "function_type") (h₂ : type.isTypeWrapper = false)
    (h₃ : type.kind ≠ "user_type") : types.resolve type = none := resolveWith_of_other h₁ h₂ h₃

/-- A function type is a lambda, also through nullability and parentheses. -/
theorem isLambda_of_isFunctionType {type : Node} (h : Parameter.isFunctionType type = true) :
    types.isLambda type = true := by
  rw [Parameter.isFunctionType] at h
  split at h
  case isTrue hkind => rw [isLambda, resolve_of_function hkind]; rfl
  split at h
  case isTrue hkind =>
    split at h
    case h_1 inner hinner =>
      rw [isLambda, resolve_of_wrapper hkind, hinner, Option.isSome_map]
      exact isLambda_of_isFunctionType h
    case h_2 => cases h
  case isFalse => cases h
termination_by type.size
decreasing_by exact Node.size_lt_of_wrappedType? ‹_›

/-! ### The way of a type -/

/-- The type that decides about a type: the one inside a wrapper, or the target of an alias. -/
def next? (types : LambdaTypes) (type : Node) : Option Node :=
  if type.isTypeWrapper then type.wrappedType?
  else if type.kind = "user_type" then
    type.simpleTypeName?.bind fun name =>
      if (types.named? name).isSome then none else types.aliases.lookup name
  else none

/-- One type leaves the decision to another. -/
def Leads (types : LambdaTypes) (type next : Node) : Prop := types.next? type = some next

theorem next?_of_function (h : type.kind = "function_type") : types.next? type = none := by
  have hwrapper : ¬type.isTypeWrapper = true := fun hw => (kind_ne_of_isTypeWrapper hw).1 h
  rw [next?, if_neg hwrapper, if_neg (by rw [h]; decide)]

theorem next?_of_wrapper (h : type.isTypeWrapper = true) :
    types.next? type = type.wrappedType? := if_pos h

theorem next?_of_name (h : type.kind = "user_type") : types.next? type =
    type.simpleTypeName?.bind fun name =>
      if (types.named? name).isSome then none else types.aliases.lookup name := by
  have hwrapper : ¬type.isTypeWrapper = true := fun hw => (kind_ne_of_isTypeWrapper hw).2 h
  rw [next?, if_neg hwrapper, if_pos h]

theorem next?_of_other (h₂ : type.isTypeWrapper = false) (h₃ : type.kind ≠ "user_type") :
    types.next? type = none := by
  rw [next?, if_neg (by rw [h₂]; decide), if_neg h₃]

theorem isLambda_of_leads (h : types.Leads type inner) :
    types.isLambda type = types.isLambda inner := by
  rw [Leads] at h
  by_cases hwrapper : type.isTypeWrapper = true
  · rw [next?_of_wrapper hwrapper] at h
    rw [isLambda, resolve_of_wrapper hwrapper, h, Option.isSome_map]
    rfl
  by_cases hname : type.kind = "user_type"
  · rw [next?_of_name hname] at h
    obtain ⟨name, hname', h⟩ := Option.bind_eq_some_iff.1 h
    split at h
    · cases h
    case isFalse hnamed =>
      rw [Option.not_isSome_iff_eq_none] at hnamed
      rw [isLambda, resolve_of_name hname, hname', Option.bind_some, hnamed, h]
      rfl
  · rw [next?_of_other (Bool.eq_false_iff.2 hwrapper) hname] at h
    cases h

theorem isLambda_of_reflTransGen (h : Relation.ReflTransGen types.Leads type inner) :
    types.isLambda type = types.isLambda inner := by
  induction h with
  | refl => rfl
  | tail _ hstep ih => exact ih.trans (isLambda_of_leads hstep)

/-- The way of a lambda ends at a type that decides by itself. -/
theorem exists_end_of_resolveWith (h : (types.resolveWith aliases type).isSome = true)
    (hsub : ∀ name target, aliases.lookup name = some target →
      types.aliases.lookup name = some target) :
    ∃ last, Relation.ReflTransGen types.Leads type last ∧ types.next? last = none := by
  induction aliases, type using resolve_induct with
  | function aliases type hkind => exact ⟨type, .refl, next?_of_function hkind⟩
  | wrapper aliases type hkind ih =>
    rw [resolveWith_of_wrapper hkind, Option.isSome_map] at h
    cases hinner : type.wrappedType? with
    | none => rw [hinner] at h; cases h
    | some inner =>
      rw [hinner, Option.bind_some] at h
      obtain ⟨last, hlast, hend⟩ := ih inner hinner h hsub
      exact ⟨last, .head ((next?_of_wrapper hkind).trans hinner) hlast, hend⟩
  | name aliases type hkind ih =>
    rw [resolveWith_of_name hkind] at h
    cases hkey : type.simpleTypeName? with
    | none => rw [hkey] at h; cases h
    | some key =>
      rw [hkey, Option.bind_some] at h
      have hnext : types.next? type = if (types.named? key).isSome then none
          else types.aliases.lookup key := by
        rw [next?_of_name hkind, hkey, Option.bind_some]
      by_cases hnamed : (types.named? key).isSome = true
      · exact ⟨type, .refl, hnext.trans (if_pos hnamed)⟩
      rw [if_neg hnamed] at hnext
      rw [Option.not_isSome_iff_eq_none.1 hnamed, Option.none_or] at h
      cases htarget : aliases.lookup key with
      | none => rw [htarget] at h; cases h
      | some target =>
        rw [htarget, Option.bind_some] at h
        obtain ⟨last, hlast, hend⟩ := ih key target htarget h fun name target hlookup => by
          rw [lookup_others] at hlookup
          split at hlookup
          · cases hlookup
          · exact hsub name target hlookup
        exact ⟨last, .head (hnext.trans (hsub key target htarget)) hlast, hend⟩
  | other aliases type h₁ h₂ h₃ => exact ⟨type, .refl, next?_of_other h₂ h₃⟩

/-- Whatever can be reached from a type on a circle leads back to it. -/
theorem transGen_of_circle (hcircle : Relation.TransGen types.Leads type type)
    (h : Relation.ReflTransGen types.Leads type inner) :
    Relation.TransGen types.Leads inner type := by
  induction h with
  | refl => exact hcircle
  | @tail b c _ hstep ih =>
    obtain ⟨d, hd, hback⟩ := Relation.TransGen.head'_iff.1 ih
    obtain rfl := Option.some.inj (hstep.symm.trans hd)
    exact hcircle.trans_right hback

/-- A way that runs into a circle is not that of a lambda. -/
theorem isLambda_eq_false_of_circle (h : Relation.ReflTransGen types.Leads type inner)
    (hcircle : Relation.TransGen types.Leads inner inner) : types.isLambda type = false := by
  rw [isLambda_of_reflTransGen h, Bool.eq_false_iff]
  intro hlambda
  obtain ⟨last, hlast, hend⟩ := exists_end_of_resolveWith hlambda fun _ _ hlookup => hlookup
  obtain ⟨next, hnext, -⟩ := Relation.TransGen.head'_iff.1 (transGen_of_circle hcircle hlast)
  exact absurd (hend.symm.trans hnext) (Option.some_ne_none next).symm

/-! ### Resolving step by step -/

/-- Resolving a type as a program does that remembers the names it has followed and knows of no
reason to stop; `none` if it has not come to an end after so many steps. -/
def resolveIn (types : LambdaTypes) : Nat → List String → Node → Option (Option Bool)
  | 0, _, _ => none
  | steps + 1, followed, type =>
    if type.kind = "function_type" then some (some (isMarkedFunction type))
    else if type.isTypeWrapper then
      match type.wrappedType? with
      | none => some none
      | some inner => (resolveIn types steps followed inner).map fun answer =>
          answer.map (· || isMarked type)
    else if type.kind = "user_type" then
      match type.simpleTypeName? with
      | none => some none
      | some name =>
        match types.named? name with
        | some composable => some (some composable)
        | none =>
          match types.aliases.lookup name with
          | none => some none
          | some target =>
            if followed.contains name then some none
            else resolveIn types steps (name :: followed) target
    else some none

/-- The aliases that have not been followed yet. -/
def unfollowed (types : LambdaTypes) (followed : List String) : List (String × Node) :=
  types.aliases.filter fun entry => !followed.contains entry.1

/-- How many nodes there are in a type and in the targets of the aliases that are left. -/
def reach (aliases : List (String × Node)) (type : Node) : Nat :=
  type.size + (aliases.map fun entry => entry.2.size).sum

theorem unfollowed_nil : types.unfollowed [] = types.aliases :=
  List.filter_eq_self.2 fun _ _ => rfl

theorem lookup_unfollowed {followed : List String} : (types.unfollowed followed).lookup name =
    if followed.contains name then none else types.aliases.lookup name := by
  unfold unfollowed
  induction types.aliases with
  | nil => simp
  | cons entry aliases ih =>
    obtain ⟨key, value⟩ := entry
    rw [List.filter_cons, List.lookup_cons]
    grind

theorem others_unfollowed {followed : List String} :
    others name (types.unfollowed followed) = types.unfollowed (name :: followed) := by
  unfold others unfollowed
  rw [List.filter_filter]
  refine List.filter_congr fun entry _ => ?_
  rw [List.contains_cons, Bool.not_or]
  rfl

theorem sum_others_le (name : String) (aliases : List (String × Node)) :
    ((others name aliases).map fun entry => entry.2.size).sum ≤
      (aliases.map fun entry => entry.2.size).sum := by
  induction aliases with
  | nil => exact Nat.le_refl _
  | cons entry aliases ih =>
    rw [others, List.filter_cons]
    split
    · exact Nat.add_le_add_left ih _
    · exact Nat.le_trans ih (Nat.le_add_left _ _)

theorem size_add_sum_others_le (h : aliases.lookup name = some target) :
    target.size + ((others name aliases).map fun entry => entry.2.size).sum ≤
      (aliases.map fun entry => entry.2.size).sum := by
  obtain ⟨before, after, rfl, -⟩ := List.lookup_eq_some_iff.1 h
  have hbefore := sum_others_le name before
  have hafter := sum_others_le name after
  have hself : others name (before ++ (name, target) :: after) =
      others name before ++ others name after := by
    simp [others]
  rw [hself, List.map_append, List.sum_append, List.map_append, List.sum_append, List.map_cons,
    List.sum_cons]
  dsimp only
  omega

/-- Resolving step by step ends as soon as every node within reach had its step, and then with the
answer of the recursion over the aliases that are left. -/
theorem resolveIn_eq {steps : Nat} {followed : List String}
    (h : reach (types.unfollowed followed) type ≤ steps) :
    types.resolveIn steps followed type =
      some (types.resolveWith (types.unfollowed followed) type) := by
  induction steps generalizing followed type with
  | zero => exact absurd h (by have := type.tree.size_pos; rw [reach, Node.size]; omega)
  | succ steps ih =>
    rw [resolveIn]
    split
    case isTrue hkind => rw [resolveWith_of_function hkind]
    split
    case isTrue hkind =>
      rw [resolveWith_of_wrapper hkind]
      cases hinner : type.wrappedType? with
      | none => rfl
      | some inner =>
        have hlt := Node.size_lt_of_wrappedType? hinner
        have hreach : reach (types.unfollowed followed) inner ≤ steps := by
          rw [reach] at h ⊢
          omega
        simp only [ih hreach, Option.map_some, Option.bind_some]
    split
    case isTrue hkind =>
      rw [resolveWith_of_name hkind]
      cases hkey : type.simpleTypeName? with
      | none => rfl
      | some key =>
        dsimp only
        rw [Option.bind_some, lookup_unfollowed, others_unfollowed]
        cases hnamed : types.named? key with
        | some composable => rfl
        | none =>
          rw [Option.none_or]
          cases htarget : types.aliases.lookup key with
          | none => rw [ite_self]; rfl
          | some next =>
            dsimp only
            by_cases hfollowed : followed.contains key = true
            · rw [if_pos hfollowed, if_pos hfollowed]
              rfl
            · rw [if_neg hfollowed, if_neg hfollowed, Option.bind_some]
              refine ih ?_
              have hleft : (types.unfollowed followed).lookup key = some next := by
                rw [lookup_unfollowed, if_neg hfollowed, htarget]
              have hsum := size_add_sum_others_le hleft
              have hpos := type.tree.size_pos
              rw [others_unfollowed] at hsum
              rw [reach, Node.size] at h
              rw [reach]
              omega
    case isFalse h₁ h₂ h₃ => rw [resolveWith_of_other h₁ (Bool.eq_false_iff.2 h₂) h₃]

theorem resolve_of_resolveIn {steps : Nat} {answer : Option Bool}
    (hreach : reach types.aliases type ≤ steps)
    (h : types.resolveIn steps [] type = some answer) : types.resolve type = answer := by
  rw [resolveIn_eq (by rwa [unfollowed_nil]), unfollowed_nil] at h
  exact Option.some.inj h

end

/-! ### Derivations from a file -/

section
variable {root type declaration target : Node} {lambdas composables listed : List String}
  {name : String}

/-- The name that a type alias declares. -/
def aliasName? (declaration : Node) : Option String :=
  (declaration.childOfKind? "identifier").map Node.text

/-- The type that a type alias stands for. -/
def aliasTarget? (declaration : Node) : Option Node :=
  (declaration.children.find? (Node.isToken "=")).bind Node.nextNamed?

/-- The name that a `fun interface` declares. -/
def interfaceName? (declaration : Node) : Option String :=
  if declaration.hasToken "fun" && declaration.hasToken "interface" then
    (declaration.childOfKind? "identifier").map Node.text
  else none

theorem mem_aliasesIn_iff : (name, target) ∈ aliasesIn root ↔
    ∃ declaration ∈ root.descendantsOfKind "type_alias",
      aliasName? declaration = some name ∧ aliasTarget? declaration = some target := by
  simp only [aliasesIn, List.mem_reverse, List.mem_filterMap]
  refine exists_congr fun declaration => and_congr_right fun _ => ?_
  simp [aliasName?, aliasTarget?, Option.bind_eq_some_iff]
  grind

/-- Where no two aliases have the same name, each one is found by its name. -/
theorem lookup_aliasesIn
    (hdistinct : ((root.descendantsOfKind "type_alias").filterMap aliasName?).Nodup)
    (h : declaration ∈ root.descendantsOfKind "type_alias")
    (hname : aliasName? declaration = some name)
    (htarget : aliasTarget? declaration = some target) :
    (aliasesIn root).lookup name = some target := by
  rw [List.Nodup, List.pairwise_filterMap] at hdistinct
  have hsymm : Std.Symm fun a b : Node => ∀ x, aliasName? a = some x →
      ∀ y, aliasName? b = some y → x ≠ y := ⟨fun _ _ hab y hy x hx => (hab x hx y hy).symm⟩
  refine (lookup_eq_some_iff_mem fun a b ha hb => ?_).2
    (mem_aliasesIn_iff.2 ⟨declaration, h, hname, htarget⟩)
  obtain ⟨first, hfirst, hnamed, hstands⟩ := mem_aliasesIn_iff.1 ha
  obtain ⟨second, hsecond, hnamed', hstands'⟩ := mem_aliasesIn_iff.1 hb
  have hsame : first = second := Classical.not_not.1 fun hne =>
    hdistinct.forall hfirst hsecond hne name hnamed name hnamed' rfl
  exact Option.some.inj (hstands.symm.trans (hsame ▸ hstands'))

theorem map_fst_funInterfacesIn : (funInterfacesIn root).map Prod.fst =
    ((root.descendantsOfKind "class_declaration").filterMap interfaceName?).reverse := by
  rw [funInterfacesIn, List.map_reverse, List.map_filterMap]
  congr 2
  funext declaration
  rw [interfaceName?]
  cases declaration.hasToken "fun" && declaration.hasToken "interface" with
  | false => rfl
  | true => cases declaration.childOfKind? "identifier" <;> rfl

theorem isSome_lookup_funInterfacesIn : ((funInterfacesIn root).lookup name).isSome = true ↔
    ∃ declaration ∈ root.descendantsOfKind "class_declaration",
      interfaceName? declaration = some name := by
  rw [← List.mem_filterMap, ← List.mem_reverse, ← map_fst_funInterfacesIn, List.lookup_isSome_iff,
    List.mem_map]
  exact exists_congr fun entry => and_congr_right fun _ => beq_iff_eq.trans eq_comm

/-- The types that are derived to be lambdas in a file, with the names that the options list. -/
inductive Derived (root : Node) (listed : List String) : Node → Prop
  | ofFunction {type : Node} (h : type.kind = "function_type") : Derived root listed type
  | ofWrapper {type inner : Node} (h : type.isTypeWrapper = true)
      (hinner : type.wrappedType? = some inner) (hlambda : Derived root listed inner) :
      Derived root listed type
  | ofOption {type : Node} {name : String} (h : type.kind = "user_type")
      (hname : type.simpleTypeName? = some name) (hlisted : name ∈ listed) :
      Derived root listed type
  | ofInterface {type declaration : Node} {name : String} (h : type.kind = "user_type")
      (hname : type.simpleTypeName? = some name)
      (hdeclaration : declaration ∈ root.descendantsOfKind "class_declaration")
      (hinterface : interfaceName? declaration = some name) : Derived root listed type
  | ofAlias {type declaration target : Node} {name : String} (h : type.kind = "user_type")
      (hname : type.simpleTypeName? = some name)
      (hdeclaration : declaration ∈ root.descendantsOfKind "type_alias")
      (hdeclared : aliasName? declaration = some name)
      (htarget : aliasTarget? declaration = some target) (hlambda : Derived root listed target) :
      Derived root listed type

theorem isSome_named?_collect :
    ((collect root lambdas composables).named? name).isSome = true ↔
      name ∈ lambdas ++ composables ∨ ∃ declaration ∈ root.descendantsOfKind "class_declaration",
        interfaceName? declaration = some name := by
  rw [named?, List.mem_append, ← isSome_lookup_funInterfacesIn]
  dsimp only [collect]
  by_cases hcomposable : name ∈ composables
  · simp [hcomposable]
  by_cases hlambda : name ∈ lambdas
  · simp [hcomposable, hlambda]
  · simp [hcomposable, hlambda]

theorem derived_of_isSome_resolveWith {aliases : List (String × Node)}
    (h : ((collect root lambdas composables).resolveWith aliases type).isSome = true)
    (hsub : ∀ name target, aliases.lookup name = some target →
      (aliasesIn root).lookup name = some target) :
    Derived root (lambdas ++ composables) type := by
  induction aliases, type using resolve_induct with
  | function aliases type hkind => exact .ofFunction hkind
  | wrapper aliases type hkind ih =>
    rw [resolveWith_of_wrapper hkind, Option.isSome_map] at h
    cases hinner : type.wrappedType? with
    | none => rw [hinner] at h; cases h
    | some inner =>
      rw [hinner, Option.bind_some] at h
      exact .ofWrapper hkind hinner (ih inner hinner h hsub)
  | name aliases type hkind ih =>
    rw [resolveWith_of_name hkind] at h
    cases hname : type.simpleTypeName? with
    | none => rw [hname] at h; cases h
    | some name =>
      rw [hname, Option.bind_some, Option.isSome_or, Bool.or_eq_true, isSome_named?_collect] at h
      rcases h with (hlisted | ⟨declaration, hdeclaration, hinterface⟩) | h
      · exact .ofOption hkind hname hlisted
      · exact .ofInterface hkind hname hdeclaration hinterface
      cases htarget : aliases.lookup name with
      | none => rw [htarget] at h; cases h
      | some target =>
        rw [htarget, Option.bind_some] at h
        obtain ⟨declaration, hdeclaration, hdeclared, hstands⟩ :=
          mem_aliasesIn_iff.1 (mem_of_lookup_eq_some (hsub name target htarget))
        refine .ofAlias hkind hname hdeclaration hdeclared hstands (ih name target htarget h ?_)
        intro other next hlookup
        rw [lookup_others] at hlookup
        split at hlookup
        · cases hlookup
        · exact hsub other next hlookup
  | other aliases type h₁ h₂ h₃ => rw [resolveWith_of_other h₁ h₂ h₃] at h; cases h

theorem Derived.isLambda
    (hdistinct : ((root.descendantsOfKind "type_alias").filterMap aliasName?).Nodup)
    (h : Derived root (lambdas ++ composables) type) :
    (collect root lambdas composables).isLambda type = true := by
  unfold LambdaTypes.isLambda
  induction h with
  | ofFunction hkind => rw [resolve_of_function hkind]; rfl
  | ofWrapper hkind hinner _ ih =>
    rwa [resolve_of_wrapper hkind, hinner, Option.bind_some, Option.isSome_map]
  | ofOption hkind hname hlisted =>
    rw [resolve_of_name hkind, hname, Option.bind_some, Option.isSome_or,
      isSome_named?_collect.2 (.inl hlisted), Bool.true_or]
  | ofInterface hkind hname hdeclaration hinterface =>
    rw [resolve_of_name hkind, hname, Option.bind_some, Option.isSome_or,
      isSome_named?_collect.2 (.inr ⟨_, hdeclaration, hinterface⟩), Bool.true_or]
  | ofAlias hkind hname hdeclaration hdeclared htarget _ ih =>
    have hlookup := lookup_aliasesIn hdistinct hdeclaration hdeclared htarget
    rw [resolve_of_name hkind, hname, Option.bind_some, Option.isSome_or,
      show (collect root lambdas composables).aliases = aliasesIn root from rfl, hlookup,
      Option.bind_some, ih, Bool.or_true]

/-- The name of a type is its last segment. -/
theorem simpleTypeName?_of_getLast? {last : Node} (h : type.kind = "user_type")
    (hlast : (type.childrenOfKind "identifier").getLast? = some last)
    (hdot : '.' ∉ last.text.toList) : type.simpleTypeName? = some last.text := by
  obtain ⟨init, hinit⟩ := List.getLast?_eq_some_iff.1 hlast
  have hne : (type.childrenOfKind "identifier").map Node.text ≠ [] := by
    rw [hinit]
    simp
  have hpieces : Text.splitWhere (· == '.') last.text.toList = [last.text.toList] :=
    Text.splitWhere_of_forall_not fun c hc => beq_false_of_ne fun heq => hdot (heq ▸ hc)
  rw [Node.simpleTypeName?, if_pos h, Node.userTypeName?, if_pos ⟨h, hne⟩, Option.bind_some,
    Text.pieces, hinit, List.map_append, List.map_singleton]
  cases init with
  | nil =>
    rw [List.map_nil, List.nil_append, String.intercalate_singleton, hpieces, List.map_singleton,
      String.ofList_toList]
    rfl
  | cons first init =>
    rw [String.intercalate_append_of_ne_nil (by simp) (by simp), String.intercalate_singleton,
      String.toList_append, String.toList_append, List.append_assoc]
    rw [show ".".toList ++ last.text.toList = '.' :: last.text.toList from rfl,
      Text.splitWhere_append_separator rfl, hpieces, List.map_append, List.map_singleton,
      String.ofList_toList, List.getLast?_concat]

/-- Resolving a type comes to an end on every way, circles of aliases included, and the types of
lambdas are those that are derived to be: no derivation is cut off, and nothing on the way into a
circle is a lambda. What has the syntax of a function type is one. -/
theorem isLambda_iff_derived (root : Node) (lambdas composables : List String)
    (hdistinct : ((root.descendantsOfKind "type_alias").filterMap aliasName?).Nodup) :
    let types := collect root lambdas composables
    (∀ type steps, reach types.aliases type ≤ steps →
      types.resolveIn steps [] type = some (types.resolve type)) ∧
    (∀ type, types.isLambda type = true ↔ Derived root (lambdas ++ composables) type) ∧
    (∀ type inner, Relation.ReflTransGen types.Leads type inner →
      Relation.TransGen types.Leads inner inner → types.isLambda type = false) ∧
    (∀ p : Parameter, p.isFunctionTyped = true →
      ∃ type, p.type? = some type ∧ types.isLambda type = true) ∧
    ∀ type last : Node, type.kind = "user_type" →
      (type.childrenOfKind "identifier").getLast? = some last → '.' ∉ last.text.toList →
      type.simpleTypeName? = some last.text := by
  intro types
  refine ⟨fun type steps hsteps => ?_, fun type => ⟨fun h => ?_, fun h => h.isLambda hdistinct⟩,
    fun type inner => isLambda_eq_false_of_circle, fun p h => ?_,
    fun type last => simpleTypeName?_of_getLast?⟩
  · rw [resolveIn_eq (by rwa [unfollowed_nil]), unfollowed_nil, resolve]
  · exact derived_of_isSome_resolveWith h fun _ _ hlookup => hlookup
  · rw [Parameter.isFunctionTyped, Option.any_eq_true] at h
    obtain ⟨type, htype, h⟩ := h
    exact ⟨type, htype, isLambda_of_isFunctionType h⟩

end

section
open ParseTree

/-- Two aliases in a circle, and one that leads to a function type through another. -/
def circlingFile : String := "typealias Loop = Back\ntypealias Back = Loop?\n" ++
  "typealias Slot = Plain?\ntypealias Plain = () -> Unit\n\n" ++
  "fun A(a: () -> Unit, b: Slot, c: Loop) \x7b\x7d\n"

def circlingRoot : ParseTree :=
  let nullable (start stop : Nat) : ParseTree :=
    named "nullable_type" start stop [typeName start (stop - 1), token "?" (stop - 1) stop]
  let declared (start stop : Nat) (target : ParseTree) : ParseTree :=
    named "type_alias" start target.label.stop [token "typealias" start (start + 9),
      name (start + 10) stop, token "=" (stop + 1) (stop + 2), target]
  let parameters := named "function_value_parameters" 104 137 [token "(" 104 105,
    letterParameter 105 (plainFunction 108), token "," 118 119,
    letterParameter 120 (typeName 123 127), token "," 127 128,
    letterParameter 129 (typeName 132 136), token ")" 136 137]
  named "source_file" 0 141 [declared 0 14 (typeName 17 21), declared 22 36 (nullable 39 44),
    declared 45 59 (nullable 62 68), declared 69 84 (plainFunction 87),
    named "function_declaration" 99 140 [token "fun" 99 102, name 103 104, parameters,
      named "function_body" 138 140 [named "block" 138 140
        [token "\x7b" 138 139, token "\x7d" 139 140]]]]

def circlingTree : SyntaxTree :=
  ⟨.ofText circlingFile, SyntaxTree.number (.ofText circlingFile) 0 circlingRoot, false⟩

def circlingTypes : LambdaTypes := collect circlingTree.rootNode [] []

def circlingList : Node :=
  (circlingTree.rootNode.descendantOfKind? "function_value_parameters").getD circlingTree.rootNode

/-- The function type and the type that leads to one are lambdas; the type that leads into the
circle is not, and resolving it ends all the same. -/
theorem isLambda_iff_derived_circling :
    ((circlingTree.rootNode.descendantsOfKind "type_alias").filterMap aliasName?).Nodup ∧
    ∃ a b c, Parameter.allIn circlingList = [a, b, c] ∧
      (a.isFunctionTyped = true ∧ ∃ type, a.type? = some type ∧
        circlingTypes.isLambda type = true) ∧
      (∃ type, b.type? = some type ∧ Derived circlingTree.rootNode [] type) ∧
      ∃ type loop, c.type? = some type ∧ circlingTypes.Leads type loop ∧
        Relation.TransGen circlingTypes.Leads loop loop ∧
        circlingTypes.resolveIn 30 [] type = some none := by
  have hdistinct :
      ((circlingTree.rootNode.descendantsOfKind "type_alias").filterMap aliasName?).Nodup := by
    decide +kernel
  obtain ⟨hends, hderived, hcircle, hfunction, -⟩ :=
    isLambda_iff_derived circlingTree.rootNode [] [] hdistinct
  have hparameters : (Parameter.allIn circlingList).map (fun p => (p.isFunctionTyped,
      p.type?.map fun type => (type.kind, type.simpleTypeName?))) =
      [(true, some ("function_type", none)), (false, some ("user_type", some "Slot")),
        (false, some ("user_type", some "Loop"))] := by
    decide +kernel
  have hresolved : (Parameter.allIn circlingList).map (fun p =>
      p.type?.map fun type => ((circlingTypes.resolveIn 30 [] type).map Option.isSome,
        decide (reach circlingTypes.aliases type ≤ 30))) =
      [some (some true, true), some (some true, true), some (some false, true)] := by
    decide +kernel
  obtain ⟨a, _, hlist, ha, hrest⟩ := List.map_eq_cons_iff.1 hparameters
  obtain ⟨b, _, rfl, hb, hrest⟩ := List.map_eq_cons_iff.1 hrest
  obtain ⟨c, _, rfl, hc, hrest⟩ := List.map_eq_cons_iff.1 hrest
  obtain rfl := List.map_eq_nil_iff.1 hrest
  rw [hlist] at hresolved
  simp only [Prod.mk.injEq, Option.map_eq_some_iff, List.map_cons, List.map_nil, List.cons.injEq,
    decide_eq_true_eq, and_true] at ha hb hc hresolved
  obtain ⟨-, slot, hslot, -⟩ := hb
  obtain ⟨-, type, htype, hkind, hname⟩ := hc
  obtain ⟨-, ⟨_, hslot', ⟨answer, hanswer, hlambda⟩, hreachSlot⟩, _, htype', -, hreach⟩ := hresolved
  obtain rfl := Option.some.inj (hslot.symm.trans hslot')
  obtain rfl := Option.some.inj (htype.symm.trans htype')
  have hslotLambda : circlingTypes.isLambda slot = true := by
    rwa [isLambda, resolve_of_resolveIn hreachSlot hanswer]
  have hleads {n : Node} {name : String} (hkind : n.kind = "user_type")
      (hname : n.simpleTypeName? = some name) (hnamed : circlingTypes.named? name = none) :
      circlingTypes.next? n = circlingTypes.aliases.lookup name := by
    rw [next?_of_name hkind, hname, Option.bind_some, hnamed]
    rfl
  have haliases : ((circlingTypes.aliases.lookup "Loop").map fun n => (n.kind, n.simpleTypeName?)) =
        some ("user_type", some "Back") ∧
      ((circlingTypes.aliases.lookup "Back").map fun n => (n.isTypeWrapper,
        n.wrappedType?.map fun m => (m.kind, m.simpleTypeName?))) =
          some (true, some ("user_type", some "Loop")) := by
    decide +kernel
  simp only [Prod.mk.injEq, Option.map_eq_some_iff] at haliases
  obtain ⟨⟨loop, hloop, hloopKind, hloopName⟩, back, hback, hwrapper, inner, hinner, hinnerKind,
    hinnerName⟩ := haliases
  have hstart : circlingTypes.Leads type loop :=
    (hleads hkind hname (by decide +kernel)).trans hloop
  have hround : Relation.TransGen circlingTypes.Leads loop loop :=
    .head ((hleads hloopKind hloopName (by decide +kernel)).trans hback)
      (.head ((next?_of_wrapper hwrapper).trans hinner)
        (.single ((hleads hinnerKind hinnerName (by decide +kernel)).trans hloop)))
  have htypeEnd : circlingTypes.resolveIn 30 [] type = some (circlingTypes.resolve type) :=
    hends type 30 hreach
  have hnone : circlingTypes.resolve type = none := Option.not_isSome_iff_eq_none.1
    (Bool.eq_false_iff.1 (hcircle type loop (.single hstart) hround))
  exact ⟨hdistinct, a, b, c, hlist, ⟨ha.1, hfunction a ha.1⟩,
    ⟨slot, hslot, (hderived slot).1 hslotLambda⟩, type, loop, htype, hstart, hround,
    htypeEnd.trans (congrArg some hnone)⟩

end

end LambdaTypes

end ComposeCheck
