import ComposeCheck.Project
import Mathlib.Data.List.Lex
import Mathlib.Order.Lattice

/-!
# The order of a report

Paths are ordered by their components, and violations by file, line and column (`comesBefore`); both
orders are total, and only equal components and equal places are tied. A stable sort keeps tied
entries as they stand, and taking some entries out before or after it is the same
(`filter_mergeSort`).
-/

namespace ComposeCheck

/-! ### Stable sorting -/

section
variable {α : Type} {le : α → α → Bool} {l : List α}

theorem takeWhile_append_of_neg {q : α → Bool} {xs ys : List α} (hxs : ∀ x ∈ xs, q x = true)
    (hys : ∀ y ∈ ys, q y = false) : (xs ++ ys).takeWhile q = xs := by
  rw [List.takeWhile_append_of_pos hxs]
  cases ys with
  | nil => exact List.append_nil xs
  | cons y ys => simp [hys y List.mem_cons_self]

/-- Entries that are taken out of a sorted list leave the others as they would be sorted alone. -/
theorem filter_mergeSort (trans : ∀ a b c, le a b = true → le b c = true → le a c = true)
    (total : ∀ a b, (le a b || le b a) = true) (p : α → Bool) (l : List α) :
    (l.mergeSort le).filter p = (l.filter p).mergeSort le := by
  have hafter {a : α} {l before after : List α} (h : (a :: l).mergeSort le = before ++ a :: after) :
      ∀ b ∈ after, (!le a b) = false := fun b hb => by
    have hpairwise := List.pairwise_mergeSort trans total (a :: l)
    rw [h] at hpairwise
    have hle := (List.pairwise_cons.1 (List.pairwise_append.1 hpairwise).2.1).1 b hb
    rw [hle, Bool.not_true]
  induction l with
  | nil => simp
  | cons a l ih =>
    obtain ⟨before, after, hcons, hsorted, hbefore⟩ := List.mergeSort_cons trans total a l
    rw [hsorted, List.filter_append] at ih
    rw [hcons, List.filter_append]
    by_cases hp : p a = true
    · -- Both lists are cut where the new entry goes: behind those that it does not stand before.
      obtain ⟨before', after', hcons', hsorted', hbefore'⟩ :=
        List.mergeSort_cons trans total a (l.filter p)
      rw [hsorted'] at ih
      have hcut := takeWhile_append_of_neg hbefore' (hafter hcons')
      rw [← ih, takeWhile_append_of_neg (fun b hb => hbefore b (List.mem_filter.1 hb).1)
        fun b hb => hafter hcons b (List.mem_filter.1 hb).1] at hcut
      rw [hcut] at ih
      rw [List.filter_cons_of_pos hp, List.filter_cons_of_pos hp, hcons', hcut,
        List.append_cancel_left ih]
    · rw [List.filter_cons_of_neg hp, List.filter_cons_of_neg hp, ih]

/-- A sorted list keeps the order of tied entries. -/
theorem pairwise_mergeSort_tied (trans : ∀ a b c, le a b = true → le b c = true → le a c = true)
    (total : ∀ a b, (le a b || le b a) = true) {R : α → α → Prop}
    (h : l.Pairwise fun a b => le a b = true → le b a = true → R a b) :
    (l.mergeSort le).Pairwise fun a b => le a b = true ∧ (le b a = true → R a b) := by
  rw [List.pairwise_iff_forall_sublist] at h ⊢
  intro a b hab
  have hle : le a b = true :=
    List.pairwise_iff_forall_sublist.1 (List.pairwise_mergeSort trans total l) hab
  refine ⟨hle, fun hge => h ?_ hle hge⟩
  let tied : α → Bool := fun x => le a x && le x a
  have htied : (l.filter tied).Pairwise fun x y => le x y = true := by
    refine (List.pairwise_of_forall fun _ _ => trivial).imp_of_mem fun hx hy _ => ?_
    have hx := (Bool.and_eq_true_iff.1 (List.mem_filter.1 hx).2).2
    have hy := (Bool.and_eq_true_iff.1 (List.mem_filter.1 hy).2).1
    exact trans _ _ _ hx hy
  have hboth : [a, b].filter tied = [a, b] := by
    have hself : le a a = true := by simpa using total a a
    simp [tied, hself, hle, hge]
  have hsub := hab.filter tied
  rw [hboth, filter_mergeSort trans total, List.mergeSort_of_pairwise htied] at hsub
  exact hsub.trans List.filter_sublist

end

namespace FilePath

section
variable {α : Type} [LinearOrder α]

theorem nil_le_list (as : List α) : [] ≤ as := by
  cases as with
  | nil => exact le_rfl
  | cons a as => exact (List.nil_lt_cons a as).le

theorem not_cons_le_nil (a : α) (as : List α) : ¬a :: as ≤ [] :=
  not_le_of_gt (List.nil_lt_cons a as)

theorem cons_le_cons_iff {a b : α} {as bs : List α} :
    a :: as ≤ b :: bs ↔ a < b ∨ a = b ∧ as ≤ bs := by
  rw [le_iff_lt_or_eq, List.cons_lt_cons_iff, List.cons.injEq, le_iff_lt_or_eq, and_or_left,
    or_assoc]

end

section
variable {a b c : String}

/-- Names are compared by the numbers of their characters. -/
def nameKey (name : List Char) : List Nat := name.map Char.toNat

theorem nameLe_iff {as bs : List Char} : nameLe as bs = true ↔ nameKey as ≤ nameKey bs := by
  induction as generalizing bs with
  | nil => simp [nameLe, nameKey, nil_le_list]
  | cons c as ih =>
    cases bs with
    | nil => simp [nameLe, nameKey, not_cons_le_nil]
    | cons d bs =>
      rw [nameLe, nameKey, nameKey, List.map_cons, List.map_cons, cons_le_cons_iff,
        Char.toNat_inj]
      split
      case isTrue heq => simpa [heq, nameKey] using ih
      case isFalse hne =>
        have hlt : c < d ↔ c.toNat < d.toNat := Char.lt_def.trans UInt32.lt_iff_toNat_lt
        simp [hne, hlt]

/-- What components are compared by. -/
def Component.key (component : Component) : List Nat := component.rank :: nameKey component.text

theorem Component.key_injective : Function.Injective Component.key := by
  intro a b h
  obtain ⟨hrank, hname⟩ := List.cons.inj h
  have htext : a.text = b.text := List.map_injective_iff.2 (fun _ _ => Char.toNat_inj.1) hname
  cases a <;> cases b <;> simp_all [rank, text]

theorem componentsLe_iff {as bs : List Component} :
    componentsLe as bs = true ↔ as.map Component.key ≤ bs.map Component.key := by
  induction as generalizing bs with
  | nil => simp [componentsLe, nil_le_list]
  | cons a as ih =>
    cases bs with
    | nil => simp [componentsLe, not_cons_le_nil]
    | cons b bs =>
      rw [componentsLe, List.map_cons, List.map_cons, cons_le_cons_iff,
        Component.key_injective.eq_iff]
      split
      case isTrue heq => simp [heq, ih]
      case isFalse hne =>
        rw [Component.key, Component.key, List.cons_lt_cons_iff]
        split
        case isTrue hrank =>
          have hkey : nameKey a.text ≠ nameKey b.text := fun hkey =>
            hne (Component.key_injective (by rw [Component.key, Component.key, hrank, hkey]))
          simp [hne, hrank, nameLe_iff, le_iff_lt_or_eq, hkey]
        case isFalse hrank => simp [hne, hrank]

theorem le_iff : le a b = true ↔
    (components a.toList).map Component.key ≤ (components b.toList).map Component.key :=
  componentsLe_iff

theorem le_of_le_of_le (h : le a b = true) (h' : le b c = true) : le a c = true :=
  le_iff.2 (le_trans (le_iff.1 h) (le_iff.1 h'))

theorem le_or_le (a b : String) : (le a b || le b a) = true := by
  rw [Bool.or_eq_true, le_iff, le_iff]
  exact le_total _ _

theorem components_eq_of_le (h : le a b = true) (h' : le b a = true) :
    components a.toList = components b.toList :=
  List.map_injective_iff.2 Component.key_injective (le_antisymm (le_iff.1 h) (le_iff.1 h'))

end

end FilePath

/-! ### Places of violations -/

namespace Project

open FilePath

section
variable {u v w : Violation}

theorem comesBefore_iff : comesBefore v w = true ↔ le v.location.file w.location.file = true ∧
    (le w.location.file v.location.file = true → v.location.line < w.location.line ∨
      v.location.line = w.location.line ∧ v.location.column ≤ w.location.column) := by
  simp only [comesBefore, Bool.and_eq_true]
  split
  case isTrue h => simp [h]
  case isFalse h =>
    refine ⟨fun hle => ⟨hle, fun hge => absurd ⟨hle, hge⟩ h⟩, And.left⟩

theorem comesBefore_trans (huv : comesBefore u v = true) (hvw : comesBefore v w = true) :
    comesBefore u w = true := by
  rw [comesBefore_iff] at *
  refine ⟨le_of_le_of_le huv.1 hvw.1, fun hwu => ?_⟩
  have h₁ := huv.2 (le_of_le_of_le hvw.1 hwu)
  have h₂ := hvw.2 (le_of_le_of_le hwu huv.1)
  omega

theorem comesBefore_total (v w : Violation) : (comesBefore v w || comesBefore w v) = true := by
  rw [Bool.or_eq_true, comesBefore_iff, comesBefore_iff]
  have htotal := Bool.or_eq_true_iff.1 (le_or_le v.location.file w.location.file)
  by_cases hvw : le v.location.file w.location.file = true
  · by_cases hwv : le w.location.file v.location.file = true
    · simp only [hvw, hwv, true_and, true_implies]
      omega
    · exact .inl ⟨hvw, fun h => absurd h hwv⟩
  · exact .inr ⟨htotal.resolve_left hvw, fun h => absurd h hvw⟩

/-- Violations are tied if they are at one place of one file. -/
theorem of_tied (h : comesBefore v w = true) (h' : comesBefore w v = true) :
    components v.location.file.toList = components w.location.file.toList ∧
      v.location.line = w.location.line ∧ v.location.column = w.location.column := by
  rw [comesBefore_iff] at h h'
  have h₁ := h.2 h'.1
  have h₂ := h'.2 h.1
  exact ⟨components_eq_of_le h.1 h'.1, by omega, by omega⟩

end

end Project

end ComposeCheck
