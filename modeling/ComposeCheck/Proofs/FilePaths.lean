import ComposeCheck.FilePath
import ComposeCheck.Proofs.Directives
import Mathlib.Data.List.Basic

/-!
# Paths as lists of pieces

A path is a list of pieces with slashes between them, and reading a path takes it apart into its
pieces again: `components` keeps those that say something, behind a mark for a slash or a dot at the
start (`components_intercalate`). So a path below a directory has the directory's components and
then the names that lead from there (`components_join`), and it is reported by these names
(`relativeTo_join`). Paths are ordered by their components (`le_trans`, `le_total`).
-/

namespace ComposeCheck

/-- What an entry of a directory may be called. -/
def IsName (name : String) : Prop := '/' ∉ name.toList ∧ name ≠ "" ∧ name ≠ "." ∧ name ≠ ".."

instance (name : String) : Decidable (IsName name) := inferInstanceAs (Decidable (_ ∧ _))

namespace FilePath

open Text

/-- Pieces without slashes, with slashes between them. -/
abbrev joined (pieces : List (List Char)) : List Char := ['/'].intercalate pieces

/-- Whether a piece says nothing. -/
def isVoid (piece : List Char) : Bool := (ofPiece? piece).isNone

section
variable {piece : List Char} {pieces front names : List (List Char)} {component : Component}
  {fuel : Nat}

/-! ### Reading pieces -/

theorem joined_cons_cons (piece next : List Char) (pieces : List (List Char)) :
    joined (piece :: next :: pieces) = piece ++ '/' :: joined (next :: pieces) := by
  simp [joined, List.intercalate]

theorem joined_singleton (piece : List Char) : joined [piece] = piece := by
  simp [joined, List.intercalate]

theorem exists_joined_cons (piece : List Char) (pieces : List (List Char)) :
    ∃ rest, joined (piece :: pieces) = piece ++ rest := by
  cases pieces with
  | nil => exact ⟨[], by rw [joined_singleton, List.append_nil]⟩
  | cons next pieces => exact ⟨_, joined_cons_cons _ _ _⟩

theorem splitPiece_of_not_mem (h : '/' ∉ piece) : splitPiece piece = (piece, []) := by
  have hall : ∀ c ∈ piece, (c != '/') = true := fun c hc => by
    rw [bne_iff_ne]
    rintro rfl
    exact h hc
  rw [splitPiece, List.takeWhile_eq_self_iff.2 hall, List.dropWhile_eq_nil_iff.2 hall,
    List.drop_nil]

theorem splitPiece_append (h : '/' ∉ piece) (rest : List Char) :
    splitPiece (piece ++ '/' :: rest) = (piece, rest) := by
  have hall : ∀ c ∈ piece, (c != '/') = true := fun c hc => by
    rw [bne_iff_ne]
    rintro rfl
    exact h hc
  rw [splitPiece, List.takeWhile_append_of_pos hall, List.dropWhile_append_of_pos hall]
  simp

theorem splitPiece_joined (h : '/' ∉ piece) (pieces : List (List Char)) :
    splitPiece (joined (piece :: pieces)) = (piece, joined pieces) := by
  cases pieces with
  | nil => rw [joined_singleton, splitPiece_of_not_mem h]; rfl
  | cons next pieces => rw [joined_cons_cons, splitPiece_append h]

theorem joined_eq_nil_of_cons (h : joined (piece :: pieces) = []) : piece = [] ∧ pieces = [] := by
  cases pieces with
  | nil => exact ⟨joined_singleton piece ▸ h, rfl⟩
  | cons next pieces =>
    rw [joined_cons_cons] at h
    simp at h

theorem length_joined_lt (h : joined (piece :: pieces) ≠ []) :
    (joined pieces).length < (joined (piece :: pieces)).length := by
  cases pieces with
  | nil => exact List.length_pos_iff.2 h
  | cons next pieces =>
    rw [joined_cons_cons, List.length_append, List.length_cons]
    omega

theorem length_joined_le (piece : List Char) (pieces : List (List Char)) :
    (joined pieces).length ≤ (joined (piece :: pieces)).length := by
  by_cases h : joined (piece :: pieces) = []
  · rw [(joined_eq_nil_of_cons h).2]
    exact Nat.zero_le _
  · exact Nat.le_of_lt (length_joined_lt h)

theorem trimFront_joined (h : ∀ p ∈ pieces, '/' ∉ p) (hfuel : (joined pieces).length < fuel) :
    trimFront fuel (joined pieces) = joined (pieces.dropWhile isVoid) := by
  induction pieces generalizing fuel with
  | nil =>
    cases fuel with
    | zero => cases hfuel
    | succ fuel => rfl
  | cons piece pieces ih =>
    cases fuel with
    | zero => cases hfuel
    | succ fuel =>
      unfold trimFront
      split
      case h_1 hempty =>
        obtain ⟨rfl, rfl⟩ := joined_eq_nil_of_cons hempty
        rfl
      case h_2 hpath =>
        rw [splitPiece_joined (h piece List.mem_cons_self), List.dropWhile_cons, isVoid,
          ← Option.not_isSome]
        cases hpiece : (ofPiece? piece).isSome with
        | true => rfl
        | false =>
          have hlt := length_joined_lt (hpath ▸ List.cons_ne_nil _ _)
          exact ih (fun p hp => h p (List.mem_cons_of_mem _ hp)) (by omega)

theorem next?_joined (h : ∀ p ∈ pieces, '/' ∉ p) :
    next? false (joined pieces) = (pieces.dropWhile isVoid).head?.bind fun piece =>
      (ofPiece? piece).map fun component =>
        (component, joined (pieces.dropWhile isVoid).tail) := by
  unfold next?
  rw [if_neg Bool.false_ne_true]
  dsimp only
  rw [trimFront_joined h (Nat.lt_succ_self _)]
  cases hdrop : pieces.dropWhile isVoid with
  | nil => rfl
  | cons piece rest =>
    have hpiece : '/' ∉ piece :=
      h piece ((List.dropWhile_sublist _).mem (hdrop ▸ List.mem_cons_self))
    have hvoid : isVoid piece = false := by
      have := List.head?_dropWhile_not isVoid pieces
      rw [hdrop] at this
      simpa using this
    split
    case h_1 hempty =>
      obtain ⟨rfl, -⟩ := joined_eq_nil_of_cons hempty
      cases hvoid
    case h_2 hpath => rw [← hpath, splitPiece_joined hpiece, List.head?_cons, Option.bind_some,
      List.tail_cons]

theorem next?_joined_of_void (h : ∀ p ∈ piece :: pieces, '/' ∉ p) (hvoid : isVoid piece = true) :
    next? false (joined (piece :: pieces)) = next? false (joined pieces) := by
  rw [next?_joined h, next?_joined fun p hp => h p (List.mem_cons_of_mem _ hp),
    List.dropWhile_cons_of_pos hvoid]

theorem next?_joined_of_some (h : ∀ p ∈ piece :: pieces, '/' ∉ p)
    (hpiece : ofPiece? piece = some component) :
    next? false (joined (piece :: pieces)) = some (component, joined pieces) := by
  have hvoid : ¬isVoid piece = true := by simp [isVoid, hpiece]
  rw [next?_joined h, List.dropWhile_cons_of_neg hvoid]
  simp [hpiece]

theorem go_joined (h : ∀ p ∈ pieces, '/' ∉ p) (hfuel : (joined pieces).length < fuel) :
    components.go fuel false (joined pieces) = pieces.filterMap ofPiece? := by
  induction pieces generalizing fuel with
  | nil =>
    cases fuel with
    | zero => cases hfuel
    | succ fuel => rfl
  | cons piece pieces ih =>
    cases fuel with
    | zero => cases hfuel
    | succ fuel =>
      have htail : ∀ p ∈ pieces, '/' ∉ p := fun p hp => h p (List.mem_cons_of_mem _ hp)
      cases hpiece : ofPiece? piece with
      | none =>
        have hsame := next?_joined_of_void h (by simp [isVoid, hpiece])
        have hskip : components.go (fuel + 1) false (joined (piece :: pieces)) =
            components.go (fuel + 1) false (joined pieces) := by
          rw [components.go, hsame, components.go]
        rw [hskip, List.filterMap_cons_none hpiece]
        exact ih htail (Nat.lt_of_le_of_lt (length_joined_le piece pieces) hfuel)
      | some component =>
        have hne : joined (piece :: pieces) ≠ [] := fun hempty => by
          obtain ⟨rfl, -⟩ := joined_eq_nil_of_cons hempty
          cases hpiece
        have hlt := length_joined_lt hne
        rw [components.go, next?_joined_of_some h hpiece, List.filterMap_cons_some hpiece]
        exact congrArg _ (ih htail (by omega))

/-! ### The start of a path -/

/-- What a slash or a dot at the very start of a path stands for. -/
def mark : List (List Char) → List Component
  | [] :: _ :: _ => [.root]
  | ['.'] :: _ => [.here]
  | _ => []

/-- What follows the mark at the start. -/
def behindMark : List (List Char) → List (List Char)
  | [] :: next :: pieces => next :: pieces
  | ['.'] :: pieces => [] :: pieces
  | pieces => pieces

theorem next?_true_of_mark {others : List Component} (h : mark pieces = component :: others) :
    next? true (joined pieces) = some (component, joined (behindMark pieces)) := by
  unfold mark at h
  split at h
  case h_1 next pieces =>
    cases h
    rw [joined_cons_cons]
    rfl
  case h_2 pieces =>
    cases h
    cases pieces with
    | nil => rfl
    | cons next pieces =>
      rw [joined_cons_cons, behindMark, joined_cons_cons]
      rfl
  case h_3 => cases h

theorem start_of_mark_eq_nil (h : ∀ p ∈ pieces, '/' ∉ p) (hmark : mark pieces = []) :
    (∀ rest, joined pieces ≠ '/' :: rest) ∧ joined pieces ≠ ['.'] ∧
      ∀ rest, joined pieces ≠ '.' :: '/' :: rest := by
  rcases pieces with - | ⟨_ | ⟨c, cs⟩, pieces⟩
  · exact ⟨nofun, nofun, nofun⟩
  · cases pieces with
    | nil => exact ⟨nofun, nofun, nofun⟩
    | cons next pieces => cases hmark
  · have hslash : c ≠ '/' ∧ '/' ∉ cs := by
      simpa [eq_comm] using h _ List.mem_cons_self
    have hdot : ¬(c = '.' ∧ cs = []) := by
      rintro ⟨rfl, rfl⟩
      cases hmark
    obtain ⟨rest, hrest⟩ := exists_joined_cons (c :: cs) pieces
    rw [hrest]
    refine ⟨fun _ hpath => hslash.1 (List.cons.inj hpath).1, fun hpath => ?_, fun _ hpath => ?_⟩
    · obtain ⟨rfl, htail⟩ := List.cons.inj hpath
      exact hdot ⟨rfl, (List.append_eq_nil_iff.1 htail).1⟩
    · obtain ⟨rfl, htail⟩ := List.cons.inj hpath
      cases cs with
      | nil => exact hdot ⟨rfl, rfl⟩
      | cons d cs =>
        obtain ⟨rfl, -⟩ := List.cons.inj htail
        exact hslash.2 List.mem_cons_self

theorem next?_true_of_mark_eq_nil (h : ∀ p ∈ pieces, '/' ∉ p) (hmark : mark pieces = []) :
    next? true (joined pieces) = next? false (joined pieces) := by
  obtain ⟨hroot, hdot, hhere⟩ := start_of_mark_eq_nil h hmark
  unfold next?
  rw [if_pos rfl, if_neg Bool.false_ne_true]
  split
  case h_1 heq => exact absurd heq (hroot _)
  case h_2 heq => exact absurd heq hdot
  case h_3 heq => exact absurd heq (hhere _)
  case h_4 => rfl

theorem headLength_of_mark_eq_nil (h : ∀ p ∈ pieces, '/' ∉ p) (hmark : mark pieces = []) :
    headLength (joined pieces) = 0 := by
  obtain ⟨hroot, hdot, hhere⟩ := start_of_mark_eq_nil h hmark
  unfold headLength
  split
  case h_1 heq => exact absurd heq (hroot _)
  case h_2 heq => exact absurd heq hdot
  case h_3 heq => exact absurd heq (hhere _)
  case h_4 => rfl

theorem of_mark {others : List Component} (h : mark pieces = component :: others) :
    others = [] ∧ (behindMark pieces).filterMap ofPiece? = pieces.filterMap ofPiece? ∧
      (joined (behindMark pieces)).length < (joined pieces).length ∧
      ∀ p ∈ behindMark pieces, p = [] ∨ p ∈ pieces := by
  unfold mark at h
  split at h
  case h_1 next pieces =>
    cases h
    refine ⟨rfl, rfl, ?_, fun p hp => .inr (List.mem_cons_of_mem _ hp)⟩
    rw [joined_cons_cons]
    exact Nat.lt_succ_self _
  case h_2 pieces =>
    cases h
    refine ⟨rfl, rfl, ?_, fun p hp => (List.mem_cons.1 hp).imp_right (List.mem_cons_of_mem _)⟩
    cases pieces with
    | nil => exact Nat.zero_lt_one
    | cons next pieces =>
      rw [joined_cons_cons, behindMark, joined_cons_cons]
      exact Nat.lt_succ_self _
  case h_3 => cases h

/-- Reading a path gives its mark and the pieces that say something. -/
theorem components_joined (h : ∀ p ∈ pieces, '/' ∉ p) :
    components (joined pieces) = mark pieces ++ pieces.filterMap ofPiece? := by
  rw [components]
  cases hmark : mark pieces with
  | nil =>
    have hstart : components.go ((joined pieces).length + 1) true (joined pieces) =
        components.go ((joined pieces).length + 1) false (joined pieces) := by
      rw [components.go, next?_true_of_mark_eq_nil h hmark, components.go]
    rw [hstart]
    exact go_joined h (Nat.lt_succ_self _)
  | cons component others =>
    obtain ⟨rfl, hpieces, hlt, hmem⟩ := of_mark hmark
    have hbehind : ∀ p ∈ behindMark pieces, '/' ∉ p := fun p hp =>
      (hmem p hp).elim (· ▸ List.not_mem_nil) (h p)
    rw [components.go, next?_true_of_mark hmark, List.singleton_append, ← hpieces]
    exact congrArg _ (go_joined hbehind hlt)

/-! ### Paths below a directory -/

/-- Pieces that say something. -/
def AreNames (names : List (List Char)) : Prop := ∀ n ∈ names, '/' ∉ n ∧ isVoid n = false

theorem mark_cons (hpiece : piece ≠ []) (pieces : List (List Char)) :
    mark (piece :: pieces) = if piece = ['.'] then [.here] else [] := by
  unfold mark
  split
  case h_1 heq => exact absurd (List.cons.inj heq).1 hpiece
  case h_2 heq => exact (if_pos (List.cons.inj heq).1).symm
  case h_3 hne => exact (if_neg fun hdot => hne pieces (by rw [hdot])).symm

theorem mark_append (hfront : joined front ≠ []) : mark (front ++ pieces) = mark front := by
  rcases front with - | ⟨piece, - | ⟨next, front⟩⟩
  · exact absurd rfl hfront
  · have hpiece : piece ≠ [] := joined_singleton piece ▸ hfront
    rw [List.cons_append, mark_cons hpiece, mark_cons hpiece]
  · by_cases hpiece : piece = []
    · subst hpiece
      rfl
    · rw [List.cons_append, mark_cons hpiece, mark_cons hpiece]

theorem mark_append_congr {others : List (List Char)} (hfront : front ≠ []) (hpieces : pieces ≠ [])
    (hothers : others ≠ []) : mark (front ++ pieces) = mark (front ++ others) := by
  by_cases hempty : joined front = []
  · obtain ⟨piece, front, rfl⟩ := List.exists_cons_of_ne_nil hfront
    obtain ⟨rfl, rfl⟩ := joined_eq_nil_of_cons hempty
    obtain ⟨p, pieces, rfl⟩ := List.exists_cons_of_ne_nil hpieces
    obtain ⟨q, others, rfl⟩ := List.exists_cons_of_ne_nil hothers
    rfl
  · rw [mark_append hempty, mark_append hempty]

theorem mark_names (h : AreNames names) : mark names = [] := by
  cases names with
  | nil => rfl
  | cons n names =>
    have hvoid := (h n List.mem_cons_self).2
    have hempty : n ≠ [] := by
      rintro rfl
      cases hvoid
    refine (mark_cons hempty names).trans (if_neg ?_)
    rintro rfl
    cases hvoid

theorem exists_joined_concat (front : List (List Char)) (last : List Char) : ∃ before,
    joined (front ++ [last]) = before ++ last ∧
      before.reverse.takeWhile (· != '/') = [] := by
  induction front with
  | nil => exact ⟨[], joined_singleton last, rfl⟩
  | cons piece front ih =>
    obtain ⟨before, hjoined, hbefore⟩ := ih
    obtain ⟨next, rest, hrest⟩ : ∃ next rest, front ++ [last] = next :: rest := by
      cases front <;> exact ⟨_, _, rfl⟩
    refine ⟨piece ++ '/' :: before, ?_, ?_⟩
    · rw [List.cons_append, hrest, joined_cons_cons, ← hrest, hjoined, List.append_assoc,
        List.cons_append]
    · rw [List.reverse_append, List.reverse_cons, List.append_assoc, List.singleton_append]
      cases hreverse : before.reverse with
      | nil => rfl
      | cons c cs =>
        rw [hreverse, List.takeWhile_cons] at hbefore
        rw [List.cons_append, List.takeWhile_cons]
        cases hc : c != '/' with
        | true => simp [hc] at hbefore
        | false => rfl

theorem trimBack_joined (h : AreNames names) : trimBack 0 (joined names) = joined names := by
  rcases List.eq_nil_or_concat names with rfl | ⟨front, last, rfl⟩
  · rfl
  · rw [List.concat_eq_append] at h ⊢
    obtain ⟨hslash, hvoid⟩ := h last (List.mem_append_right _ List.mem_cons_self)
    obtain ⟨before, hpath, hbefore⟩ := exists_joined_concat front last
    have hall : ∀ c ∈ last.reverse, (c != '/') = true := fun c hc => by
      rw [bne_iff_ne]
      rintro rfl
      exact hslash (List.mem_reverse.1 hc)
    have hpiece : ((joined (front ++ [last])).reverse.takeWhile (· != '/')).reverse = last := by
      rw [hpath, List.reverse_append, List.takeWhile_append_of_pos hall, hbefore, List.append_nil,
        List.reverse_reverse]
    have hsome : (ofPiece? last).isSome = true := by simpa [isVoid] using hvoid
    rw [trimBack, List.take_zero, List.nil_append, List.drop_zero]
    unfold trimBack.go
    split
    case h_1 hempty => exact (List.reverse_eq_nil_iff.1 hempty).symm
    case h_2 =>
      dsimp only
      rw [hpiece, if_pos hsome, List.reverse_reverse]

theorem below?_go_joined (hfront : ∀ p ∈ front, '/' ∉ p) (h : AreNames names) :
    below?.go false (front.filterMap ofPiece?) (joined (front ++ names)) = some (joined names) := by
  induction front with
  | nil =>
    have hdrop : names.dropWhile isVoid = names := by
      cases names with
      | nil => rfl
      | cons n names =>
        exact List.dropWhile_cons_of_neg (Bool.eq_false_iff.1 (h n List.mem_cons_self).2)
    rw [List.nil_append, List.filterMap_nil, below?.go, if_neg Bool.false_ne_true,
      trimFront_joined (fun n hn => (h n hn).1) (Nat.lt_succ_self _), hdrop, trimBack_joined h]
  | cons piece front ih =>
    have hslash : ∀ p ∈ piece :: (front ++ names), '/' ∉ p := fun p hp => by
      rcases List.mem_append.1 (List.cons_append ▸ hp) with hp | hp
      · exact hfront p hp
      · exact (h p hp).1
    have ih := ih fun p hp => hfront p (List.mem_cons_of_mem _ hp)
    rw [List.cons_append]
    cases hpiece : ofPiece? piece with
    | none =>
      have hvoid : isVoid piece = true := by simp [isVoid, hpiece]
      rw [List.filterMap_cons_none hpiece, ← ih]
      cases front.filterMap ofPiece? with
      | nil =>
        have htail : ∀ p ∈ front ++ names, '/' ∉ p := fun p hp =>
          hslash p (List.mem_cons_of_mem _ hp)
        rw [below?.go, below?.go, if_neg Bool.false_ne_true, if_neg Bool.false_ne_true,
          trimFront_joined hslash (Nat.lt_succ_self _), trimFront_joined htail (Nat.lt_succ_self _),
          List.dropWhile_cons_of_pos hvoid]
      | cons component base =>
        rw [below?.go, next?_joined_of_void hslash hvoid, below?.go]
    | some component =>
      rw [List.filterMap_cons_some hpiece, below?.go, next?_joined_of_some hslash hpiece]
      simpa using ih

theorem below?_go_start (hfront : ∀ p ∈ front, '/' ∉ p) (h : AreNames names) (hne : names ≠ []) :
    below?.go true (mark (front ++ names) ++ front.filterMap ofPiece?) (joined (front ++ names)) =
      some (joined names) := by
  have hslash : ∀ p ∈ front ++ names, '/' ∉ p := fun p hp =>
    (List.mem_append.1 hp).elim (hfront p) fun hp => (h p hp).1
  cases front with
  | nil =>
    have hmark := mark_names h
    rw [List.nil_append] at hslash ⊢
    rw [hmark, List.filterMap_nil, List.append_nil, below?.go, if_pos rfl,
      headLength_of_mark_eq_nil hslash hmark, trimBack_joined h]
  | cons piece front =>
    have htail : ∀ p ∈ front, '/' ∉ p := fun p hp => hfront p (List.mem_cons_of_mem _ hp)
    have hgo := below?_go_joined htail h
    rw [List.cons_append] at hslash ⊢
    by_cases hempty : piece = []
    · subst hempty
      obtain ⟨next, rest, hrest⟩ := List.exists_cons_of_ne_nil (List.append_ne_nil_of_right_ne_nil
        front hne)
      have hmark : mark ([] :: (front ++ names)) = [.root] := by rw [hrest, mark]
      have hbehind : behindMark ([] :: (front ++ names)) = front ++ names := by
        rw [hrest, behindMark]
      rw [hmark, List.singleton_append, below?.go, next?_true_of_mark hmark, hbehind,
        List.filterMap_cons_none rfl]
      simpa using hgo
    by_cases hdot : piece = ['.']
    · subst hdot
      have hmark : mark (['.'] :: (front ++ names)) = [.here] := rfl
      have hgo := below?_go_joined (List.forall_mem_cons.2 ⟨List.not_mem_nil, htail⟩) h
      rw [hmark, List.singleton_append, below?.go, next?_true_of_mark hmark,
        List.filterMap_cons_none rfl]
      rw [List.filterMap_cons_none rfl] at hgo
      simpa [behindMark] using hgo
    · have hmark : mark (piece :: (front ++ names)) = [] := by
        rw [mark_cons hempty, if_neg hdot]
      obtain ⟨component, hpiece⟩ : ∃ component, ofPiece? piece = some component := by
        rw [ofPiece?, if_neg (not_or.2 ⟨hempty, hdot⟩)]
        split <;> exact ⟨_, rfl⟩
      rw [hmark, List.nil_append, List.filterMap_cons_some hpiece, below?.go,
        next?_true_of_mark_eq_nil hslash hmark, next?_joined_of_some hslash hpiece]
      simpa using hgo

theorem exists_joined (path : List Char) :
    ∃ piece pieces, (∀ p ∈ piece :: pieces, '/' ∉ p) ∧ joined (piece :: pieces) = path := by
  induction path with
  | nil => exact ⟨[], [], by simp, joined_singleton []⟩
  | cons c path ih =>
    obtain ⟨piece, pieces, hslash, rfl⟩ := ih
    by_cases hc : c = '/'
    · subst hc
      refine ⟨[], piece :: pieces, fun p hp => ?_, joined_cons_cons _ _ _⟩
      rcases List.mem_cons.1 hp with rfl | hp
      · exact List.not_mem_nil
      · exact hslash p hp
    · obtain ⟨hpiece, hpieces⟩ := List.forall_mem_cons.1 hslash
      refine ⟨c :: piece, pieces, List.forall_mem_cons.2 ⟨?_, hpieces⟩, ?_⟩
      · simpa [eq_comm, hc] using hpiece
      · cases pieces with
        | nil => rw [joined_singleton, joined_singleton]
        | cons next pieces => rw [joined_cons_cons, joined_cons_cons, List.cons_append]

theorem joined_append (hfront : front ≠ []) (hpieces : pieces ≠ []) :
    joined (front ++ pieces) = joined front ++ '/' :: joined pieces := by
  induction front with
  | nil => exact absurd rfl hfront
  | cons piece front ih =>
    cases front with
    | nil =>
      obtain ⟨next, rest, rfl⟩ := List.exists_cons_of_ne_nil hpieces
      rw [List.singleton_append, joined_cons_cons, joined_singleton]
    | cons next front =>
      rw [List.cons_append, List.cons_append, joined_cons_cons, ← List.cons_append,
        ih (List.cons_ne_nil _ _), joined_cons_cons, List.append_assoc, List.cons_append]

end

/-! ### Paths below a root -/

section
variable {root : String} {names : List String}

theorem ofPiece?_toList {name : String} (h : IsName name) :
    ofPiece? name.toList = some (.name name.toList) := by
  obtain ⟨-, hempty, hdot, hdots⟩ := h
  have htext {text : String} (hne : name ≠ text) : name.toList ≠ text.toList :=
    fun heq => hne (String.toList_inj.1 heq)
  have hsays : ¬(name.toList = [] ∨ name.toList = ['.']) := not_or.2 ⟨htext hempty, htext hdot⟩
  have hnot : name.toList ≠ ['.', '.'] := htext hdots
  rw [ofPiece?, if_neg hsays, if_neg hnot]

theorem filterMap_toList (h : ∀ n ∈ names, IsName n) :
    (names.map String.toList).filterMap ofPiece? = names.map fun n => .name n.toList := by
  induction names with
  | nil => rfl
  | cons n names ih =>
    obtain ⟨hn, hnames⟩ := List.forall_mem_cons.1 h
    rw [List.map_cons, List.filterMap_cons_some (ofPiece?_toList hn), ih hnames, List.map_cons]

theorem areNames_toList (h : ∀ n ∈ names, IsName n) : AreNames (names.map String.toList) := by
  intro piece hpiece
  obtain ⟨n, hn, rfl⟩ := List.mem_map.1 hpiece
  exact ⟨(h n hn).1, by simp [isVoid, ofPiece?_toList (h n hn)]⟩

theorem toList_intercalate (names : List String) :
    ("/".intercalate names).toList = joined (names.map String.toList) :=
  String.toList_intercalate

/-- A path below a root is the root's pieces and then the names. -/
theorem exists_join (root : String) (h : ∀ n ∈ names, IsName n) (hne : names ≠ []) :
    ∃ front, (∀ p ∈ front, '/' ∉ p) ∧
      (join root ("/".intercalate names)).toList = joined (front ++ names.map String.toList) ∧
      components root.toList =
        mark (front ++ names.map String.toList) ++ front.filterMap ofPiece? := by
  have hnames := areNames_toList h
  have hmap : names.map String.toList ≠ [] := by simpa using hne
  have hrelative := toList_intercalate names
  have hlead : hasLead "/" ("/".intercalate names) = false := by
    rw [hasLead, hrelative, Option.isSome_eq_false_iff, Option.isNone_iff_eq_none]
    refine Option.eq_none_iff_forall_ne_some.2 fun rest hrest => ?_
    obtain ⟨n, others, rfl⟩ := List.exists_cons_of_ne_nil hne
    obtain ⟨hslash, hvoid⟩ := hnames n.toList List.mem_cons_self
    obtain ⟨more, hmore⟩ := exists_joined_cons n.toList (others.map String.toList)
    have hpath := dropLead_eq_some_iff.1 hrest
    rw [List.map_cons, hmore] at hpath
    cases hn : n.toList with
    | nil =>
      rw [hn] at hvoid
      cases hvoid
    | cons c cs =>
      rw [hn] at hpath hslash
      obtain ⟨rfl, -⟩ := List.cons.inj hpath
      exact hslash List.mem_cons_self
  rw [join, if_neg (Bool.eq_false_iff.1 hlead)]
  split
  case isTrue hempty =>
    subst hempty
    exact ⟨[], by simp, hrelative, by rw [List.nil_append, mark_names hnames]; rfl⟩
  split
  case isTrue htail =>
    obtain ⟨before, hbefore⟩ := Option.isSome_iff_exists.1 htail
    obtain ⟨rest, hrest, rfl⟩ := Option.map_eq_some_iff.1 hbefore
    have hroot : root.toList = rest.reverse ++ ['/'] := by
      rw [← List.reverse_reverse root.toList, dropLead_eq_some_iff.1 hrest, List.reverse_append]
      rfl
    obtain ⟨piece, pieces, hslash, hpath⟩ := exists_joined rest.reverse
    have hjoined : joined ((piece :: pieces) ++ [[]]) = root.toList := by
      rw [joined_append (List.cons_ne_nil _ _) (List.cons_ne_nil _ _), hpath, hroot]
      rfl
    refine ⟨piece :: pieces, hslash, ?_, ?_⟩
    · rw [joined_append (List.cons_ne_nil _ _) hmap, hpath, ← hrelative, String.toList_append,
        hroot, List.append_assoc]
      rfl
    · have hslash' : ∀ p ∈ (piece :: pieces) ++ [[]], '/' ∉ p := fun p hp =>
        (List.mem_append.1 hp).elim (hslash p) fun hp => List.mem_singleton.1 hp ▸ List.not_mem_nil
      rw [← hjoined, components_joined hslash', List.filterMap_append,
        mark_append_congr (List.cons_ne_nil _ _) (List.cons_ne_nil _ _) hmap]
      exact congrArg _ (List.append_nil _)
  case isFalse hroot _ =>
    obtain ⟨piece, pieces, hslash, hpath⟩ := exists_joined root.toList
    have hpathne : joined (piece :: pieces) ≠ [] := by
      rw [hpath]
      exact fun hnil => hroot (String.toList_inj.1 hnil)
    refine ⟨piece :: pieces, hslash, ?_, ?_⟩
    · rw [joined_append (List.cons_ne_nil _ _) hmap, hpath, ← hrelative, String.toList_append,
        String.toList_append, List.append_assoc]
      rfl
    · rw [← hpath, components_joined hslash, mark_append hpathne]

theorem components_intercalate (h : ∀ n ∈ names, IsName n) :
    components ("/".intercalate names).toList = names.map fun n => .name n.toList := by
  have hnames := areNames_toList h
  rw [toList_intercalate, components_joined fun p hp => (hnames p hp).1, mark_names hnames,
    List.nil_append, filterMap_toList h]

/-- The components of a path below a root tell the names that lead to it. -/
theorem eq_of_components_intercalate {others : List String} (h : ∀ n ∈ names, IsName n)
    (hothers : ∀ n ∈ others, IsName n)
    (heq : components ("/".intercalate names).toList =
      components ("/".intercalate others).toList) : names = others := by
  have hinj : Function.Injective fun n : String => Component.name n.toList :=
    fun m n h => String.toList_inj.1 (Component.name.inj h)
  rw [components_intercalate h, components_intercalate hothers] at heq
  exact List.map_injective_iff.2 hinj heq

/-- A path below a root has the root's components, and then the names. -/
theorem components_join (root : String) (h : ∀ n ∈ names, IsName n) (hne : names ≠ []) :
    components (join root ("/".intercalate names)).toList =
      components root.toList ++ names.map fun n => .name n.toList := by
  obtain ⟨front, hfront, hjoin, hroot⟩ := exists_join root h hne
  have hslash : ∀ p ∈ front ++ names.map String.toList, '/' ∉ p := fun p hp =>
    (List.mem_append.1 hp).elim (hfront p) fun hp => (areNames_toList h p hp).1
  rw [hjoin, components_joined hslash, hroot, List.filterMap_append, filterMap_toList h,
    List.append_assoc]

/-- A path below a root is reported by the names that lead to it. -/
theorem relativeTo_join (root : String) (h : ∀ n ∈ names, IsName n) (hne : names ≠ []) :
    relativeTo root (join root ("/".intercalate names)) = "/".intercalate names := by
  obtain ⟨front, hfront, hjoin, hroot⟩ := exists_join root h hne
  have hnames := areNames_toList h
  have hbelow : below?.go true (components root.toList)
      (join root ("/".intercalate names)).toList = some (joined (names.map String.toList)) := by
    rw [hjoin, hroot]
    exact below?_go_start hfront hnames (by simpa using hne)
  have hsome : below? root (join root ("/".intercalate names)) = some ("/".intercalate names) := by
    rw [below?, hbelow, Option.map_some, ← toList_intercalate, String.ofList_toList]
  rw [relativeTo, hsome]
  split
  case h_1 hnone => cases hnone
  case h_2 hempty =>
    have hnil : joined (names.map String.toList) = [] := by
      rw [← toList_intercalate, Option.some.inj hempty]
      rfl
    obtain ⟨n, others, rfl⟩ := List.exists_cons_of_ne_nil hne
    obtain ⟨hn, -⟩ := joined_eq_nil_of_cons hnil
    exact absurd (String.toList_inj.1 hn) (h n List.mem_cons_self).2.1
  case h_3 heq => exact (Option.some.inj heq).symm

theorem hasTail_join (root : String) (h : ∀ n ∈ names, IsName n) (hne : names ≠ []) :
    hasTail "/" (join root ("/".intercalate names)) = false ∧
      hasTail "/." (join root ("/".intercalate names)) = false := by
  obtain ⟨front, -, hjoin, -⟩ := exists_join root h hne
  obtain ⟨others, last, hlast⟩ := (List.eq_nil_or_concat (names.map String.toList)).resolve_left
    (by simpa using hne)
  have hmem : last ∈ names.map String.toList := by simp [hlast]
  obtain ⟨hslash, hvoid⟩ := areNames_toList h last hmem
  obtain ⟨before, hpath, -⟩ := exists_joined_concat (front ++ others) last
  have hend : (join root ("/".intercalate names)).toList.reverse =
      last.reverse ++ before.reverse := by
    rw [hjoin, hlast, List.concat_eq_append, ← List.append_assoc, hpath, List.reverse_append]
  obtain ⟨c, cs, hreverse⟩ : ∃ c cs, last.reverse = c :: cs := by
    refine List.exists_cons_of_ne_nil fun hnil => ?_
    rw [List.reverse_eq_nil_iff.1 hnil] at hvoid
    cases hvoid
  have hc : '/' ≠ c ∧ '/' ∉ cs := by simpa [hreverse] using mt List.mem_reverse.1 hslash
  have htails (tail : String)
      (htail : ∀ rest, c :: cs ++ before.reverse ≠ tail.toList.reverse ++ rest) :
      hasTail tail (join root ("/".intercalate names)) = false := by
    rw [hasTail, dropTail, hend, hreverse, Option.isSome_map, Option.isSome_eq_false_iff,
      Option.isNone_iff_eq_none]
    exact Option.eq_none_iff_forall_ne_some.2 fun rest hrest =>
      htail rest (dropLead_eq_some_iff.1 hrest)
  refine ⟨htails "/" fun rest heq => ?_, htails "/." fun rest heq => ?_⟩
  · exact hc.1 (List.cons.inj heq).1.symm
  · obtain ⟨rfl, htail⟩ := List.cons.inj heq
    cases cs with
    | nil =>
      rw [← List.reverse_reverse last, hreverse] at hvoid
      cases hvoid
    | cons d cs =>
      obtain ⟨rfl, -⟩ := List.cons.inj htail
      exact hc.2 List.mem_cons_self

end

end FilePath

end ComposeCheck
