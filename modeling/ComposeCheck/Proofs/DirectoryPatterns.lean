import ComposeCheck.Proofs.Exclusions
import Mathlib.Data.List.Basic

/-!
# Patterns for what lies in a directory

A pattern such as `**/build/**` stands for paths with `build/` at the start or behind a slash, and
the rest of it without `**` runs through the same paths. So such patterns leave out exactly what has
the directory on its way (`leaveOut_eq_false_iff`).
-/

namespace ComposeCheck

namespace Places

/-- A place is in the set. -/
def Has (places : Places) (i : Nat) : Prop := places[i]? = some true

section
variable {α : Type} {holds : α → Bool} {text : List α} {places others : Places} {before : Bool}
  {i j : Nat}

theorem has_start (h : (start text).Has i) : i = 0 := by
  cases i with
  | zero => rfl
  | succ i =>
    obtain ⟨_, hfalse⟩ := List.getElem?_eq_some_iff.1 h
    simp [start] at hfalse

theorem exists_of_has_step (h : (step holds text places).Has j) :
    ∃ i c, j = i + 1 ∧ places.Has i ∧ text[i]? = some c ∧ holds c = true := by
  cases j with
  | zero => simp [Has, step] at h
  | succ i =>
    rw [Has, step, List.getElem?_cons_succ, List.getElem?_zipWith] at h
    split at h
    case h_1 here c hhere hc =>
      obtain ⟨rfl, hholds⟩ := Bool.and_eq_true_iff.1 (Option.some.inj h)
      exact ⟨i, c, rfl, hhere, hc, hholds⟩
    case h_2 => cases h

theorem exists_of_has_spreadFrom (h : (spreadFrom holds before text places).Has j) :
    before = true ∨ ∃ i, places.Has i := by
  induction places generalizing before text j with
  | nil => simp [spreadFrom, Has] at h
  | cons here places ih =>
    have hfirst (h : (here || before) = true) : before = true ∨ ∃ i, Has (here :: places) i := by
      rcases Bool.or_eq_true_iff.1 h with rfl | h
      · exact .inr ⟨0, rfl⟩
      · exact .inl h
    cases text with
    | nil =>
      cases j with
      | zero => exact hfirst (Option.some.inj h)
      | succ j => simp [spreadFrom, Has] at h
    | cons item text =>
      cases j with
      | zero => exact hfirst (Option.some.inj h)
      | succ j =>
        rcases ih (j := j) h with h | ⟨i, h⟩
        · exact hfirst (Bool.and_eq_true_iff.1 h).1
        · exact .inr ⟨i + 1, h⟩

theorem exists_of_has_spread (h : (spread holds text places).Has j) : ∃ i, places.Has i :=
  (exists_of_has_spreadFrom h).resolve_left Bool.false_ne_true

theorem has_union (h : (union places others).Has i) : places.Has i ∨ others.Has i := by
  rw [Has, union, List.getElem?_zipWith] at h
  split at h
  case h_1 a b ha hb =>
    rcases Bool.or_eq_true_iff.1 (Option.some.inj h) with rfl | rfl
    · exact .inl ha
    · exact .inr hb
  case h_2 => cases h

theorem exists_has (h : true ∈ places) : ∃ i, places.Has i := List.mem_iff_getElem?.1 h

theorem of_has_finish (h : (finish text places).Has j) :
    j = text.length ∧ ∃ i, places.Has i := by
  have hlength : (text.map fun _ => false).length = text.length := List.length_map _
  rw [Has, finish, List.getElem?_append] at h
  split at h
  · obtain ⟨_, hfalse⟩ := List.getElem?_eq_some_iff.1 h
    simp at hfalse
  · rw [List.getElem?_singleton, hlength] at h
    split at h
    · refine ⟨by omega, exists_has ?_⟩
      simpa [isInhabited] using h
    · cases h

theorem exists_of_isAtEnd (h : places.isAtEnd = true) : ∃ i, places.Has i := by
  refine exists_has (List.mem_of_getLast? ?_)
  rw [isAtEnd, List.getLastD_eq_getLast?] at h
  cases hlast : places.getLast? with
  | none => simp [hlast] at h
  | some last => simpa [hlast] using h

end

end Places

namespace Exclusion

open FilePath Text

section
variable {path : List Char} {places : Places} {chars name : List Char} {pattern directory : String}
  {patterns directories names : List String} {text : String} {j : Nat}

theorem of_has_directories (h : (reach path places .directories).Has j) :
    (∃ i, places.Has i) ∧
      (places.Has j ∨ (∃ i, j = i + 1 ∧ path[i]? = some '/') ∨ j = path.length) := by
  rcases Places.has_union h with h | h
  · rcases Places.has_union h with h | h
    · exact ⟨⟨j, h⟩, .inl h⟩
    · obtain ⟨i, c, rfl, hspread, hc, hslash⟩ := Places.exists_of_has_step h
      obtain rfl := beq_iff_eq.1 hslash
      exact ⟨Places.exists_of_has_spread hspread, .inr (.inl ⟨i, rfl, hc⟩)⟩
  · obtain ⟨rfl, hsome⟩ := Places.of_has_finish h
    exact ⟨hsome, .inr (.inr rfl)⟩

/-- Behind some characters are the places before which the characters stand. -/
theorem exists_of_has_chars
    (h : (chars.foldl (fun places c => reach path places (.char c)) places).Has j) :
    ∃ i, places.Has i ∧ chars <+: path.drop i := by
  induction chars generalizing places with
  | nil => exact ⟨j, h, List.nil_prefix⟩
  | cons c chars ih =>
    obtain ⟨_, hplace, behind, hbehind⟩ := ih h
    obtain ⟨i, d, rfl, hi, hd, hsame⟩ := Places.exists_of_has_step hplace
    obtain rfl := beq_iff_eq.1 hsame
    obtain ⟨hlt, hget⟩ := List.getElem?_eq_some_iff.1 hd
    refine ⟨i, hi, behind, ?_⟩
    rw [List.drop_eq_getElem_cons hlt, hget, ← hbehind, List.cons_append]

/-- A path that the pattern stands for has the directory at the start or behind a slash. -/
theorem infix_of_matches (htokens : tokens? pattern =
      some (.directories :: ((name ++ ['/']).map .char ++ [.directories])))
    (h : Matches pattern text) : '/' :: (name ++ ['/']) <:+: '/' :: text.toList := by
  rw [Matches, htokens, Option.any_some, holds, List.foldl_cons, List.foldl_append,
    List.foldl_map, List.foldl_cons, List.foldl_nil] at h
  obtain ⟨_, hend⟩ := Places.exists_of_isAtEnd h
  obtain ⟨⟨_, hchars⟩, -⟩ := of_has_directories hend
  obtain ⟨i, hi, behind, hbehind⟩ := exists_of_has_chars hchars
  rcases (of_has_directories hi).2 with hstart | ⟨i, rfl, hslash⟩ | rfl
  · obtain rfl := Places.has_start hstart
    exact ⟨[], behind, by simpa using hbehind⟩
  · obtain ⟨hlt, hget⟩ := List.getElem?_eq_some_iff.1 hslash
    have hsplit := List.take_append_drop i text.toList
    rw [List.drop_eq_getElem_cons hlt, hget, ← hbehind] at hsplit
    exact ⟨'/' :: text.toList.take i, behind, by simpa using hsplit⟩
  · simp at hbehind

theorem mem_dropLast_iff {α : Type} {a : α} {as : List α} :
    a ∈ as.dropLast ↔ ∃ front next back, as = front ++ a :: next :: back := by
  constructor
  · intro h
    obtain ⟨front, back, hfront⟩ := List.append_of_mem h
    obtain ⟨first, others, rfl⟩ := List.exists_cons_of_ne_nil (l := as) (by rintro rfl; cases h)
    have hsplit := List.dropLast_concat_getLast (List.cons_ne_nil first others)
    rw [hfront, List.append_assoc, List.cons_append] at hsplit
    rw [← hsplit]
    cases back with
    | nil => exact ⟨front, _, [], rfl⟩
    | cons next back => exact ⟨front, next, _, rfl⟩
  · rintro ⟨front, next, back, rfl⟩
    rw [List.dropLast_append_cons, List.dropLast_cons_of_ne_nil (List.cons_ne_nil _ _)]
    exact List.mem_append_right _ List.mem_cons_self

/-- A name between slashes runs through a path in which it is a component other than the last. -/
theorem runThrough_iff {components : List (List Char)} :
    RunThrough [[], name, []] ([] :: components) ↔ name ∈ components.dropLast := by
  rw [mem_dropLast_iff]
  constructor
  · rintro ⟨first, inner, last, before, after, front, back, hpieces, hcomponents⟩
    obtain ⟨rfl, hbehind⟩ := List.cons.inj hpieces
    have hsame : [name] ++ [[]] = inner ++ [last] := hbehind
    obtain ⟨rfl, hlast⟩ := List.append_inj' hsame rfl
    obtain rfl := List.singleton_inj.1 hlast
    cases front with
    | nil => exact ⟨[], after, back, (List.cons.inj hcomponents).2⟩
    | cons piece front =>
      obtain ⟨-, hrest⟩ := List.cons.inj hcomponents
      exact ⟨front ++ [before], after, back, by simpa using hrest⟩
  · rintro ⟨front, next, back, rfl⟩
    obtain hnil | ⟨front', before, hfront⟩ := List.eq_nil_or_concat ([] :: front)
    · cases hnil
    refine ⟨[], [name], [], before, next, front', back, rfl, ?_⟩
    rw [← List.cons_append, hfront]
    simp

/-- A pattern leads through a directory: it stands for what has the directory at the start or behind
a slash, and without `**` the directory between slashes is left of it. -/
structure LeadsThrough (pattern directory : String) : Prop where
  tokens : tokens? pattern =
    some (.directories :: ((directory.toList ++ ['/']).map .char ++ [.directories]))
  through : throughPart? pattern.toList = some ('/' :: (directory.toList ++ ['/']))
  isName : IsName directory

theorem LeadsThrough.parts (h : LeadsThrough pattern directory) :
    FilePath.parts ('/' :: (directory.toList ++ ['/'])) = [[], directory.toList, []] := by
  have hjoined : joined [[], directory.toList, []] = '/' :: (directory.toList ++ ['/']) := rfl
  rw [← hjoined, parts_joined (List.cons_ne_nil _ _)]
  simpa using h.isName.1

/-- Such a pattern leaves out what has the directory on its way. -/
theorem LeadsThrough.leavesOut_iff (h : LeadsThrough pattern directory)
    (hnames : ∀ n ∈ names, IsName n) (hne : names ≠ []) :
    Matches pattern ("/".intercalate names) ∨ PassesThrough pattern names ↔
      directory ∈ names.dropLast := by
  have hmatches (hm : Matches pattern ("/".intercalate names)) : PassesThrough pattern names := by
    refine (passesThrough_iff hnames hne).2 ⟨_, h.through, ?_⟩
    rw [← Option.ne_none_iff_isSome, ne_eq, splitFirst_eq_none_iff, not_not]
    exact infix_of_matches h.tokens hm
  rw [or_iff_right_of_imp hmatches, PassesThrough, h.through]
  simp only [Option.some.injEq, exists_eq_left', h.parts, runThrough_iff, ← List.map_dropLast]
  exact List.mem_map_of_injective fun a b => String.toList_inj.1

/-- Patterns that lead through directories leave out what has one of these on its way. -/
theorem leaveOut_eq_false_iff (h : List.Forall₂ LeadsThrough patterns directories)
    (hnames : ∀ n ∈ names, IsName n) (hne : names ≠ []) :
    leaveOut ("/".intercalate names) patterns = .ok false ↔
      ∀ directory ∈ directories, directory ∉ names.dropLast := by
  induction h with
  | nil => simp [leaveOut]
  | @cons pattern directory patterns directories h _ ih =>
    have hvalid : (tokens? pattern).isSome = true := by rw [h.tokens, Option.isSome_some]
    obtain ⟨out, hout, hiff⟩ := exists_leavesOut? hvalid hnames hne
    rw [h.leavesOut_iff hnames hne] at hiff
    rw [leaveOut, hout, List.forall_mem_cons, ← ih]
    cases out <;> simp [← hiff]

theorem leaveOut_append (text : String) (front back : List String) :
    leaveOut text (front ++ back) = .ok false ↔
      leaveOut text front = .ok false ∧ leaveOut text back = .ok false := by
  induction front with
  | nil => simp [leaveOut]
  | cons pattern front ih =>
    rw [List.cons_append, leaveOut, leaveOut]
    cases leavesOut? pattern text with
    | none => simp
    | some out => cases out <;> simp [ih]

end

end Exclusion

end ComposeCheck
