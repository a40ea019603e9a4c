import ComposeCheck.Emission
import ComposeCheck.Kotlin.LambdaTypes
import ComposeCheck.Kotlin.ModifierUsage
import ComposeCheck.NamePattern.Listed

/-!
# Kept answers

All rules ask through one memo, which keeps the first answer for a type and a name, default
included. This goes unnoticed because no two rules ask for the same option with different defaults
(`Options.standard`): a kept answer is the one that a fresh question would get (`Memo.Faithful`), so
what is learnt depends on the place where options are written and on nothing that was asked before
(`OptionM.Steady`).
-/

namespace ComposeCheck

/-- The default with which rules ask for the option of a type and a name. -/
def Options.standard : (kind : OptionKind) → String → kind.Value
  | .int, _ => 0
  | .text, _ => "only_public"
  | .flag, _ => true
  | .list, name => if name = "allowedStateHolderNames" then [".*ViewModel", ".*Presenter"] else []
  | .set, _ => []

/-- What a rule learns of an option if no answer has been kept. -/
def Options.fresh (backend : Backend) (kind : OptionKind) (name : String) : kind.Value :=
  ((backend name).bind kind.read).getD (standard kind name)

/-- Every kept answer is the one that a fresh question would get. -/
def Memo.Faithful (memo : Memo) (backend : Backend) : Prop :=
  ∀ answer ∈ memo.answers, answer.value = Options.fresh backend answer.kind answer.name

namespace Memo

variable {memo : Memo} {backend : Backend} {kind : OptionKind} {name : String} {value : kind.Value}

theorem faithful_empty : empty.Faithful backend := fun _ h => absurd h List.not_mem_nil

theorem Faithful.of_find? (h : memo.Faithful backend) (hfind : memo.find? kind name = some value) :
    value = Options.fresh backend kind name := by
  obtain ⟨answer, hmem, hanswer⟩ := List.exists_of_findSome?_eq_some hfind
  split at hanswer
  case isFalse => cases hanswer
  case isTrue hkey =>
    obtain ⟨rfl, rfl⟩ := hkey
    cases hanswer
    exact h answer hmem

theorem Faithful.keep (h : memo.Faithful backend) :
    (memo.keep kind name (Options.fresh backend kind name)).Faithful backend :=
  List.forall_mem_cons.2 ⟨rfl, h⟩

end Memo

namespace OptionM

/-- Whatever faithful answers are kept, a computation gives the value that it gives without them,
and the answers stay faithful. -/
def Steady {α : Type} (m : OptionM α) : Prop :=
  ∀ backend memo, memo.Faithful backend →
    (m backend memo).1 = (m backend .empty).1 ∧ (m backend memo).2.Faithful backend

section
variable {α β : Type} {m : OptionM α} {f : α → OptionM β}

theorem bind_eq (m : OptionM α) (f : α → OptionM β) (backend : Backend) (memo : Memo) :
    (m >>= f) backend memo = f (m backend memo).1 backend (m backend memo).2 := rfl

theorem steady_pure (a : α) : Steady (pure a) := fun _ _ hmemo => ⟨rfl, hmemo⟩

theorem Steady.bind (hm : Steady m) (hf : ∀ a, Steady (f a)) : Steady (m >>= f) := by
  intro backend memo hmemo
  obtain ⟨hvalue, hfaithful⟩ := hm backend memo hmemo
  obtain ⟨-, hempty⟩ := hm backend .empty Memo.faithful_empty
  obtain ⟨hresult, hfinal⟩ := hf (m backend memo).1 backend _ hfaithful
  obtain ⟨hfresh, -⟩ := hf (m backend .empty).1 backend _ hempty
  refine ⟨?_, hfinal⟩
  -- The second part may find other answers kept, but both memos are faithful.
  calc (f (m backend memo).1 backend (m backend memo).2).1
    _ = (f (m backend memo).1 backend .empty).1 := hresult
    _ = (f (m backend .empty).1 backend .empty).1 := by rw [hvalue]
    _ = (f (m backend .empty).1 backend (m backend .empty).2).1 := hfresh.symm

end

/-! ### Options -/

theorem get_eq (kind : OptionKind) (name : String) (default : kind.Value) (backend : Backend)
    (memo : Memo) : Options.get kind name default backend memo =
      match memo.find? kind name with
      | some value => (value, memo)
      | none =>
        let value := ((backend name).bind kind.read).getD default
        (value, memo.keep kind name value) := by
  change (match memo.find? kind name with
    | some value => (pure value : OptionM kind.Value)
    | none => _) backend memo = _
  cases memo.find? kind name <;> rfl

theorem steady_get {kind : OptionKind} {name : String} {default : kind.Value}
    (h : default = Options.standard kind name) :
    Steady (Options.get kind name default) := by
  subst h
  have hvalue {backend : Backend} {memo : Memo} (hmemo : memo.Faithful backend) :
      (Options.get kind name (Options.standard kind name) backend memo).1 =
        Options.fresh backend kind name ∧
      (Options.get kind name (Options.standard kind name) backend memo).2.Faithful backend := by
    rw [get_eq]
    cases hfind : memo.find? kind name with
    | none => exact ⟨rfl, hmemo.keep⟩
    | some value => exact ⟨hmemo.of_find? hfind, hmemo⟩
  intro backend memo hmemo
  exact ⟨(hvalue hmemo).1.trans (hvalue Memo.faithful_empty).1.symm, (hvalue hmemo).2⟩

theorem steady_set (name : String) : Steady (Options.set name []) := steady_get rfl

theorem steady_readOption {name : String} {default : List String}
    (h : default = Options.standard .list name) :
    Steady (Pattern.readOption name default) :=
  (steady_get h).bind fun _ => steady_pure _

theorem steady_emitters : Steady ContentEmitters.read :=
  (steady_set _).bind fun _ => (steady_set _).bind fun _ => steady_pure _

theorem steady_modifierTypes : Steady ModifierTypes.read :=
  (steady_set _).bind fun _ => steady_pure _

theorem steady_lambdaTypes (root : Node) : Steady (LambdaTypes.read root) :=
  (steady_set _).bind fun _ => (steady_set _).bind fun _ => steady_pure _

theorem steady_modifierUsages (f : FunctionDecl) : Steady f.modifierUsages := by
  refine steady_modifierTypes.bind fun types => ?_
  split <;> exact steady_pure _

end OptionM

end ComposeCheck
