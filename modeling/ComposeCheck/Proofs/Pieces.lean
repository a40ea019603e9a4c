import ComposeCheck.Tree.Recovery

/-!
# Pieces of the top level

Recovery cuts the top-level statements of a file into pieces: statements that are read as they
stand, and runs that are parsed again. The pieces put together are the statements again, and what
recovery makes of each piece put together is what it makes of the file.
-/

namespace ComposeCheck.Recovery

/-- A stretch of the top level. -/
inductive Piece where
  | single (t : ParseTree)
  | run (ts : List ParseTree)

namespace Piece

def statements : Piece → List ParseTree
  | single t => [t]
  | run ts => ts

def recovered (parser : Parser) (source : Source) : Piece → List ParseTree
  | single t => [t]
  | run ts => replacement parser source ts

end Piece

def pieces (source : Source) : List ParseTree → List Piece
  | [] => []
  | t :: ts =>
    if isMisread source t then
      .run (t :: ts.take (followers source ts)) :: pieces source (ts.drop (followers source ts))
    else .single t :: pieces source ts
termination_by ts => ts.length
decreasing_by
  · simp only [List.length_drop, List.length_cons]
    omega
  · simp

section
variable {source : Source} {t : ParseTree} {ts : List ParseTree}

theorem pieces_of_isMisread (h : isMisread source t = true) :
    pieces source (t :: ts) = .run (t :: ts.take (followers source ts)) ::
      pieces source (ts.drop (followers source ts)) := by
  rw [pieces, if_pos h]

theorem pieces_of_not_isMisread (h : isMisread source t = false) :
    pieces source (t :: ts) = .single t :: pieces source ts := by
  rw [pieces, if_neg (Bool.eq_false_iff.1 h)]

theorem statements_eq_flatMap (parser : Parser) (source : Source) (ts : List ParseTree) :
    statements parser source ts = (pieces source ts).flatMap (Piece.recovered parser source) := by
  fun_induction pieces source ts with
  | case1 => rw [statements]; rfl
  | case2 t ts h ih =>
    rw [statements, if_pos h, List.flatMap_cons, ih]
    rfl
  | case3 t ts h ih =>
    rw [statements, if_neg h, List.flatMap_cons, ih]
    rfl

/-- No statement is lost or repeated by the cutting. -/
theorem flatMap_statements_pieces (source : Source) (ts : List ParseTree) :
    (pieces source ts).flatMap Piece.statements = ts := by
  fun_induction pieces source ts with
  | case1 => rfl
  | case2 t ts h ih =>
    rw [List.flatMap_cons, ih, Piece.statements, List.cons_append, List.take_append_drop]
  | case3 t ts h ih =>
    rw [List.flatMap_cons, ih]
    rfl

/-- A statement stands alone only if it is not misread, and a run starts with a misread one. -/
theorem of_mem_pieces {piece : Piece} (h : piece ∈ pieces source ts) :
    (∀ t, piece = .single t → isMisread source t = false) ∧
      ∀ run, piece = .run run → ∃ first others, run = first :: others ∧
        isMisread source first = true := by
  fun_induction pieces source ts with
  | case1 => simp at h
  | case2 t ts ht ih =>
    rcases List.mem_cons.1 h with rfl | h
    · refine ⟨fun _ hpiece => Piece.noConfusion hpiece, fun run hpiece => ?_⟩
      exact ⟨t, _, (Piece.run.inj hpiece).symm, ht⟩
    · exact ih h
  | case3 t ts ht ih =>
    rcases List.mem_cons.1 h with rfl | h
    · refine ⟨fun u hpiece => ?_, fun _ hpiece => Piece.noConfusion hpiece⟩
      rw [← Piece.single.inj hpiece]
      exact Bool.eq_false_iff.2 ht
    · exact ih h

/-! ### Each statement lies in one piece -/

/-- How many statements stand before a piece. -/
def offsetOf (ps : List Piece) (j : Nat) : Nat := ((ps.take j).flatMap Piece.statements).length

/-- Piece number `j` holds statement number `i`. -/
def Holds (ps : List Piece) (j i : Nat) : Prop :=
  ∃ piece, ps[j]? = some piece ∧ offsetOf ps j ≤ i ∧
    i < offsetOf ps j + piece.statements.length

theorem offsetOf_cons_succ (piece : Piece) (ps : List Piece) (j : Nat) :
    offsetOf (piece :: ps) (j + 1) = piece.statements.length + offsetOf ps j := by
  rw [offsetOf, List.take_succ_cons, List.flatMap_cons, List.length_append]
  rfl

theorem holds_cons_zero {piece : Piece} {ps : List Piece} {i : Nat} :
    Holds (piece :: ps) 0 i ↔ i < piece.statements.length := by
  simp [Holds, offsetOf]

theorem holds_cons_succ {piece : Piece} {ps : List Piece} {j i : Nat} :
    Holds (piece :: ps) (j + 1) i ↔
      piece.statements.length ≤ i ∧ Holds ps j (i - piece.statements.length) := by
  simp only [Holds, List.getElem?_cons_succ, offsetOf_cons_succ]
  constructor
  · rintro ⟨q, hq, h₁, h₂⟩
    exact ⟨by omega, q, hq, by omega, by omega⟩
  · rintro ⟨hi, q, hq, h₁, h₂⟩
    exact ⟨q, hq, by omega, by omega⟩

theorem exists_holds {ps : List Piece} {i : Nat}
    (h : i < (ps.flatMap Piece.statements).length) : ∃ j, Holds ps j i := by
  induction ps generalizing i with
  | nil => exact absurd h (Nat.not_lt_zero i)
  | cons piece ps ih =>
    rw [List.flatMap_cons, List.length_append] at h
    by_cases hi : i < piece.statements.length
    · exact ⟨0, holds_cons_zero.2 hi⟩
    · obtain ⟨j, hj⟩ := ih (i := i - piece.statements.length) (by omega)
      exact ⟨j + 1, holds_cons_succ.2 ⟨Nat.le_of_not_lt hi, hj⟩⟩

/-- No two pieces hold the same statement. -/
theorem Holds.unique {ps : List Piece} {i j k : Nat} (hj : Holds ps j i) (hk : Holds ps k i) :
    j = k := by
  induction ps generalizing i j k with
  | nil =>
    obtain ⟨piece, hpiece, -⟩ := hj
    cases hpiece
  | cons piece ps ih =>
    cases j with
    | zero =>
      cases k with
      | zero => rfl
      | succ k =>
        exact absurd (holds_cons_zero.1 hj) (Nat.not_lt.2 (holds_cons_succ.1 hk).1)
    | succ j =>
      cases k with
      | zero => exact absurd (holds_cons_zero.1 hk) (Nat.not_lt.2 (holds_cons_succ.1 hj).1)
      | succ k => rw [ih (holds_cons_succ.1 hj).2 (holds_cons_succ.1 hk).2]

theorem Holds.getElem?_statements {ps : List Piece} {i j : Nat} {piece : Piece}
    (h : Holds ps j i) (hpiece : ps[j]? = some piece) :
    piece.statements[i - offsetOf ps j]? = (ps.flatMap Piece.statements)[i]? := by
  induction ps generalizing i j with
  | nil => cases hpiece
  | cons first ps ih =>
    rw [List.flatMap_cons]
    cases j with
    | zero =>
      obtain rfl := Option.some.inj hpiece
      rw [List.getElem?_append_left (holds_cons_zero.1 h)]
      rfl
    | succ j =>
      obtain ⟨hi, h⟩ := holds_cons_succ.1 h
      rw [List.getElem?_append_right hi, offsetOf_cons_succ, Nat.sub_add_eq]
      exact ih h hpiece

theorem exists_run_of_isMisread {i : Nat} (ht : ts[i]? = some t)
    (hmisread : isMisread source t = true) :
    ∃ j run, (pieces source ts)[j]? = some (.run run) ∧ Holds (pieces source ts) j i := by
  have hts := flatMap_statements_pieces source ts
  have hlt : i < ((pieces source ts).flatMap Piece.statements).length := by
    rw [hts]
    exact (List.getElem?_eq_some_iff.1 ht).1
  obtain ⟨j, hj⟩ := exists_holds hlt
  obtain ⟨piece, hpiece, h₁, h₂⟩ := id hj
  have hget := hj.getElem?_statements hpiece
  rw [hts, ht] at hget
  cases piece with
  | run run => exact ⟨j, run, hpiece, hj⟩
  | single u =>
    have hu := (of_mem_pieces (List.mem_of_getElem? hpiece)).1 u rfl
    have hzero : i - offsetOf (pieces source ts) j = 0 := by
      have : (Piece.single u).statements.length = 1 := rfl
      omega
    rw [hzero] at hget
    obtain rfl := Option.some.inj hget
    exact absurd hmisread (by rw [hu]; exact Bool.false_ne_true)

end

end ComposeCheck.Recovery
