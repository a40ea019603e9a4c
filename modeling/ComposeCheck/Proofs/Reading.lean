import ComposeCheck.Proofs.Lines
import ComposeCheck.Proofs.Numbering
import ComposeCheck.Proofs.Placement
import ComposeCheck.Proofs.Rendering

/-!
# Reading a file step by step

`SyntaxTree.read?` says what tree a file has. `Checked.read` builds the same tree the way a program
does: it walks the top level by index, numbers the nodes by counting them, takes spans and lines
apart with subtractions and stops with a `Fault` wherever a subtraction falls below zero, an index
or a range lies outside, or a turn of a loop does not advance. If the grammar keeps its promise
about spans there is no fault (`read_eq`).
-/

namespace ComposeCheck

instance (source : Source) (offset : Nat) : Decidable (source.CutsAt offset) :=
  inferInstanceAs (Decidable ((String.Pos.Raw.mk offset).IsValid source.text))

namespace Checked

/-- What stops a run that checks every step. -/
inductive Fault where
  | underflow
  | index
  | slice
  | stuck
  deriving DecidableEq

/-- A difference that must not fall below zero. -/
def minus (a b : Nat) : Except Fault Nat := if b ≤ a then .ok (a - b) else .error .underflow

def entry {α : Type} (xs : List α) (i : Nat) : Except Fault α :=
  match xs[i]? with
  | some x => .ok x
  | none => .error .index

def range {α : Type} (xs : List α) (start stop : Nat) : Except Fault (List α) :=
  if start ≤ stop ∧ stop ≤ xs.length then .ok ((xs.drop start).take (stop - start))
  else .error .slice

/-- A range of a text that must be there and cut it between characters. -/
def cut (source : Source) (start stop : Nat) : Except Fault String :=
  if start ≤ stop ∧ source.CutsAt start ∧ source.CutsAt stop then
    .ok (source.textBetween start stop)
  else .error .slice

/-- How the offsets of a parse lie in the file: one that is `origin` in the parse is `target` in
the file. -/
structure Placement where
  lineStarts : List Nat
  origin : Nat
  target : Nat

namespace Placement

def byte (p : Placement) (offset : Nat) : Except Fault Nat := do
  return (← minus offset p.origin) + p.target

/-- The line and the column of an offset in the file. -/
def position (p : Placement) (byte : Nat) : Except Fault (Nat × Nat) := do
  let line := (p.lineStarts.takeWhile (· ≤ byte)).length
  let start ← entry p.lineStarts (line - 1)
  return (line, (← minus byte start) + 1)

end Placement

/-- A new node when there are `count` already. -/
def pushNode (p : Placement) (count : Nat) (shape : Shape) : Except Fault Place := do
  let start ← p.byte shape.start
  let (line, column) ← p.position start
  let stop ← p.byte shape.stop
  return { shape with start, stop, id := count, last := count, line, column }

/-- A node whose subtree has been copied, when there are `count` nodes by then. -/
def finishNode (place : Place) (children : List (Tree Place)) (count : Nat) :
    Except Fault (Tree Place) := do
  let last ← minus count 1
  if place.id < count then return .node { place with last } children else .error .index

mutual

/-- Copies a subtree; the number of nodes afterwards comes back too. -/
def copyNode (p : Placement) (count : Nat) : ParseTree → Except Fault (Tree Place × Nat)
  | .node shape ts => do
    let place ← pushNode p count shape
    let (children, count) ← copyNodes p (count + 1) ts
    return (← finishNode place children count, count)

/-- Copies several subtrees. -/
def copyNodes (p : Placement) (count : Nat) :
    List ParseTree → Except Fault (List (Tree Place) × Nat)
  | [] => return ([], count)
  | t :: ts => do
    let (tree, count) ← copyNode p count t
    let (trees, count) ← copyNodes p count ts
    return (tree :: trees, count)

end

open Recovery

/-- The first index from `stop` on whose statement is neither misread nor an extra. -/
def skipRun (source : Source) (top : List ParseTree) (stop : Nat) : Nat :=
  if h : stop < top.length then
    if isMisread source top[stop] || top[stop].label.extra then skipRun source top (stop + 1)
    else stop
  else stop
termination_by top.length - stop

/-- Steps back over extras, but not over the statement at `start`. -/
def trimRun (top : List ParseTree) (start : Nat) : Nat → Except Fault Nat
  | 0 => return 0
  | stop + 1 =>
    if start + 1 < stop + 1 then do
      let t ← entry top stop
      if t.label.extra then trimRun top start stop else return stop + 1
    else return stop + 1

/-- The index behind the run that starts at an index. -/
def runEnd (source : Source) (top : List ParseTree) (start : Nat) : Except Fault Nat := do
  let stop ← trimRun top start (skipRun source top start)
  let after ← range top stop top.length
  match after.findIdx? fun t => !t.label.extra with
  | some offset =>
    let next ← entry top (stop + offset)
    return if isDeclaration next then stop + offset + 1 else stop
  | none => return stop

/-- Copies what takes the place of the run from `start` up to `stop`. -/
def copyRun (parser : Parser) (source : Source) (p : Placement) (top : List ParseTree)
    (start stop count : Nat) : Except Fault (List (Tree Place) × Nat) := do
  let first ← entry top start
  let last ← entry top (← minus stop 1)
  let segment ← cut source first.label.start last.label.stop
  match (parser (opening ++ segment ++ closing)).bind (members? · segment.utf8ByteSize) with
  | some members =>
    copyNodes { p with origin := opening.utf8ByteSize, target := first.label.start } count members
  | none => copyNodes p count (← range top start stop)

/-- Copies the top-level statements from an index on. -/
def copyStatements (parser : Parser) (source : Source) (p : Placement) (top : List ParseTree)
    (i count : Nat) : Except Fault (List (Tree Place) × Nat) :=
  if hi : i < top.length then
    if isMisread source top[i] then do
      let stop ← runEnd source top i
      if hstop : i < stop then
        let (trees, count) ← copyRun parser source p top i stop count
        let (others, count) ← copyStatements parser source p top stop count
        return (trees ++ others, count)
      else .error .stuck
    else do
      let (tree, count) ← copyNode p count top[i]
      let (others, count) ← copyStatements parser source p top (i + 1) count
      return (tree :: others, count)
  else return ([], count)
termination_by top.length - i

def read (parser : Parser) (text : String) : Except Fault (Option SyntaxTree) :=
  match parser text with
  | none => return none
  | some parse => do
    let source := Source.ofText text
    let p : Placement := ⟨source.lineStarts, 0, 0⟩
    let place ← pushNode p 0 parse.root.label
    let (children, count) ← copyStatements parser source p parse.root.children 0 1
    return some ⟨source, ← finishNode place children count, parse.hasError⟩

/-! ### Every check passes -/

section
variable {a b i : Nat} {α : Type} {x : α} {xs : List α}

theorem minus_eq_ok (h : b ≤ a) : minus a b = .ok (a - b) := if_pos h

theorem entry_eq_ok (h : xs[i]? = some x) : entry xs i = .ok x := by rw [entry, h]

theorem range_eq_ok (h₁ : a ≤ b) (h₂ : b ≤ xs.length) :
    range xs a b = .ok ((xs.drop a).take (b - a)) := if_pos ⟨h₁, h₂⟩

theorem cut_eq_ok {source : Source} (h : a ≤ b) (ha : source.CutsAt a) (hb : source.CutsAt b) :
    cut source a b = .ok (source.textBetween a b) := if_pos ⟨h, ha, hb⟩

end

open Tree

section
variable {text : String} {p : Placement} {lo hi : Nat}

theorem byte_eq_ok {offset : Nat} (h : p.origin ≤ offset) :
    p.byte offset = .ok (offset - p.origin + p.target) := by
  rw [Placement.byte, minus_eq_ok h]
  rfl

/-- The line that an offset is on has a start, and it is not behind the offset. -/
theorem position_eq_ok (hp : p.lineStarts = (Source.ofText text).lineStarts) (byte : Nat) :
    p.position byte =
      .ok ((Source.ofText text).lineAt byte, (Source.ofText text).columnAt byte) := by
  have hne : p.lineStarts.takeWhile (· ≤ byte) ≠ [] := by simp [hp, Source.ofText]
  have hlt : (p.lineStarts.takeWhile (· ≤ byte)).length - 1 <
      (p.lineStarts.takeWhile (· ≤ byte)).length :=
    Nat.sub_one_lt_of_lt (List.length_pos_iff.2 hne)
  have hlast : p.lineStarts[(p.lineStarts.takeWhile (· ≤ byte)).length - 1]? =
      some ((Source.ofText text).lineStart byte) := by
    have hget := @List.getElem?_append_left _ _ (p.lineStarts.dropWhile (· ≤ byte)) _ hlt
    rw [List.takeWhile_append_dropWhile, ← List.getLast?_eq_getElem?,
      List.getLast?_eq_some_getLast hne] at hget
    rw [hget, Source.lineStart, ← hp, List.getLastD_eq_getLast?,
      List.getLast?_eq_some_getLast hne, Option.getD_some]
  have hle := Source.lineStart_le text byte
  simp only [Placement.position, entry_eq_ok hlast, bind, Except.bind, minus_eq_ok hle, pure,
    Except.pure]
  rw [hp]
  rfl

theorem pushNode_eq_ok (hp : p.lineStarts = (Source.ofText text).lineStarts) {count : Nat}
    {shape : Shape} (h₁ : p.origin ≤ shape.start) (h₂ : p.origin ≤ shape.stop) :
    pushNode p count shape = .ok { shift p.origin p.target shape with
      id := count
      last := count
      line := (Source.ofText text).lineAt (shape.start - p.origin + p.target)
      column := (Source.ofText text).columnAt (shape.start - p.origin + p.target) } := by
  simp only [pushNode, byte_eq_ok h₁, byte_eq_ok h₂, position_eq_ok hp, bind, Except.bind, pure,
    Except.pure, shift]

theorem finishNode_eq_ok {place : Place} {children : List (Tree Place)} {count : Nat}
    (h : place.id < count) :
    finishNode place children count = .ok (.node { place with last := count - 1 } children) := by
  have hcount : 1 ≤ count := by omega
  simp only [finishNode, minus_eq_ok hcount, bind, Except.bind, h, if_true, pure, Except.pure]

mutual

theorem size_map {α β : Type} (f : α → β) : (t : Tree α) → (t.map f).size = t.size
  | .node _ ts => by simp [Tree.map, Tree.size, forestSize_mapForest f ts]

theorem forestSize_mapForest {α β : Type} (f : α → β) :
    (ts : List (Tree α)) → forestSize (mapForest f ts) = forestSize ts
  | [] => rfl
  | t :: ts => by simp [forestSize, size_map f t, forestSize_mapForest f ts]

end

open SyntaxTree in
mutual

theorem copyNode_eq_ok (hp : p.lineStarts = (Source.ofText text).lineStarts) :
    (t : ParseTree) → {lo hi : Nat} → (count : Nat) → Nested lo hi t → p.origin ≤ lo →
      copyNode p count t =
        .ok (number (.ofText text) count (t.map (shift p.origin p.target)), count + t.size)
  | .node shape ts, lo, hi, count, h, ho => by
    have h₁ : p.origin ≤ shape.start := Nat.le_trans ho h.lo_le
    have h₂ : p.origin ≤ shape.stop := Nat.le_trans ho h.lo_le_stop
    have hts := copyNodes_eq_ok hp ts (count + 1) h.children h₁
    have hlt : count < count + 1 + forestSize ts := by omega
    have hlast : count + 1 + forestSize ts - 1 = count + forestSize ts := by omega
    simp only [copyNode, pushNode_eq_ok hp h₁ h₂, hts, bind, Except.bind, finishNode_eq_ok, hlt,
      hlast, pure, Except.pure, Tree.map, number, forestSize_mapForest, Tree.size, shift]
    congr 2
    omega

theorem copyNodes_eq_ok (hp : p.lineStarts = (Source.ofText text).lineStarts) :
    (ts : List ParseTree) → {lo hi : Nat} → (count : Nat) → NestedForest lo hi ts → p.origin ≤ lo →
      copyNodes p count ts =
        .ok (numberForest (.ofText text) count (mapForest (shift p.origin p.target) ts),
          count + forestSize ts)
  | [], _, _, _, _, _ => rfl
  | t :: ts, lo, hi, count, h, ho => by
    have ht := copyNode_eq_ok hp t count h.1 ho
    have hts := copyNodes_eq_ok hp ts (count + t.size) h.2 (Nat.le_trans ho h.1.lo_le_stop)
    simp only [copyNodes, ht, hts, bind, Except.bind, pure, Except.pure, mapForest, numberForest,
      size_map, forestSize]
    congr 2
    omega

end

end

/-! ### The loops find the ends of runs -/

section
variable {source : Source} {top ts : List ParseTree} {t : ParseTree} {start : Nat}

theorem skipRun_eq (source : Source) (top : List ParseTree) (stop : Nat) :
    skipRun source top stop = stop +
      ((top.drop stop).takeWhile fun t => isMisread source t || t.label.extra).length := by
  fun_induction skipRun source top stop with
  | case1 stop h hskip ih =>
    rw [ih, List.drop_eq_getElem_cons h, List.takeWhile_cons, if_pos hskip, List.length_cons]
    omega
  | case2 stop h hskip => rw [List.drop_eq_getElem_cons h, List.takeWhile_cons, if_neg hskip]; rfl
  | case3 stop h => rw [List.drop_eq_nil_of_le (Nat.le_of_not_lt h)]; rfl

theorem dropTrailingExtras_concat : dropTrailingExtras (ts ++ [t]) =
    if t.label.extra then dropTrailingExtras ts else ts ++ [t] := by
  rw [dropTrailingExtras, List.reverse_append, List.reverse_singleton, List.singleton_append,
    List.dropWhile_cons]
  split
  · rfl
  · simp

/-- Stepping back over the extras of a stretch behind `start` leaves the stretch without them. -/
theorem trimRun_eq_ok {stop : Nat} (h₁ : start < stop) (h₂ : stop ≤ top.length) :
    trimRun top start stop = .ok (start + 1 +
      (dropTrailingExtras ((top.drop (start + 1)).take (stop - (start + 1)))).length) := by
  induction stop with
  | zero => exact absurd h₁ (Nat.not_lt_zero start)
  | succ stop ih =>
    rw [trimRun]
    split
    case isTrue h =>
      have hlt : start < stop := Nat.lt_of_succ_lt_succ h
      have htop : stop < top.length := h₂
      have hindex : stop - (start + 1) < (top.drop (start + 1)).length := by
        rw [List.length_drop]
        omega
      have htake : (top.drop (start + 1)).take (stop + 1 - (start + 1)) =
          (top.drop (start + 1)).take (stop - (start + 1)) ++ [top[stop]] := by
        rw [show stop + 1 - (start + 1) = stop - (start + 1) + 1 by omega,
          List.take_succ_eq_append_getElem hindex, List.getElem_drop]
        simp only [show start + 1 + (stop - (start + 1)) = stop by omega]
      rw [entry_eq_ok (List.getElem?_eq_getElem htop), htake, dropTrailingExtras_concat]
      simp only [bind, Except.bind]
      split
      · exact ih hlt (Nat.le_of_lt htop)
      · simp only [pure, Except.pure, List.length_append, List.length_take, List.length_drop,
          List.length_singleton]
        congr 1
        omega
    case isFalse h =>
      have : start = stop := by omega
      subst this
      simp [dropTrailingExtras, pure, Except.pure]

theorem findIdx?_not (holds : ParseTree → Bool) (ts : List ParseTree) :
    ts.findIdx? (fun t => !holds t) = if (ts.takeWhile holds).length < ts.length
      then some (ts.takeWhile holds).length else none := by
  induction ts with
  | nil => rfl
  | cons t ts ih =>
    rw [List.findIdx?_cons, List.takeWhile_cons]
    cases holds t
    · simp
    · simp [ih]

theorem length_dropTrailingExtras_le (ts : List ParseTree) :
    (dropTrailingExtras ts).length ≤ ts.length := by
  rw [dropTrailingExtras, List.length_reverse]
  exact Nat.le_trans (List.dropWhile_sublist _).length_le (Nat.le_of_eq List.length_reverse)

theorem runEnd_eq_ok (h : top.drop start = t :: ts) (ht : isMisread source t = true) :
    runEnd source top start = .ok (start + 1 + followers source ts) ∧
      start + 1 + followers source ts ≤ top.length := by
  have hdrop : top.drop (start + 1) = ts := by rw [← List.tail_drop, h, List.tail_cons]
  have htop : top.length = start + 1 + ts.length := by
    have := congrArg List.length h
    rw [List.length_drop, List.length_cons] at this
    omega
  let run₀ := ts.takeWhile fun t => isMisread source t || t.label.extra
  let run := dropTrailingExtras run₀
  let gap := ((ts.drop run.length).takeWhile (·.label.extra)).length
  have hrun₀ : run₀.length ≤ ts.length := (List.takeWhile_sublist _).length_le
  have hrun : run.length ≤ run₀.length := length_dropTrailingExtras_le run₀
  have hskip : skipRun source top start = start + 1 + run₀.length := by
    rw [skipRun_eq, h, List.takeWhile_cons, ht]
    simp only [Bool.true_or, if_true, List.length_cons, run₀]
    omega
  have htrim : trimRun top start (start + 1 + run₀.length) = .ok (start + 1 + run.length) := by
    have htake : ts.take run₀.length = run₀ :=
      (List.prefix_iff_eq_take.1 (List.takeWhile_prefix _)).symm
    rw [trimRun_eq_ok (by omega) (by omega), hdrop, Nat.add_sub_cancel_left, htake]
  have hlength : (ts.drop run.length).length = ts.length - run.length := List.length_drop
  have hafter : range top (start + 1 + run.length) top.length = .ok (ts.drop run.length) := by
    rw [range_eq_ok (by omega) (Nat.le_refl _), ← List.drop_drop, hdrop, List.take_of_length_le]
    omega
  have hfollowers : followers source ts = ((ts.drop run.length)[gap]?).elim run.length
      fun next => if isDeclaration next then run.length + gap + 1 else run.length := by
    rw [followers]
    cases (ts.drop run.length)[gap]? <;> rfl
  have hfind := findIdx?_not (·.label.extra) (ts.drop run.length)
  simp only [runEnd, hskip, htrim, bind, Except.bind, hafter, hfind]
  by_cases hgap : gap < (ts.drop run.length).length
  · have hnext : (ts.drop run.length)[gap]? = some (ts.drop run.length)[gap] :=
      List.getElem?_eq_getElem hgap
    have hentry : top[start + 1 + run.length + gap]? = some (ts.drop run.length)[gap] := by
      rw [← hnext, List.getElem?_drop, ← hdrop, List.getElem?_drop, Nat.add_assoc]
    rw [if_pos hgap, hfollowers, hnext, Option.elim_some]
    simp only [gap] at hentry
    simp only [entry_eq_ok hentry, pure, Except.pure]
    split
    · exact ⟨by congr 1; omega, by omega⟩
    · exact ⟨rfl, by omega⟩
  · rw [if_neg hgap, hfollowers, List.getElem?_eq_none (Nat.le_of_not_lt hgap), Option.elim_none]
    have hle : start + 1 + run.length ≤ top.length := by omega
    exact ⟨rfl, hle⟩

end

/-! ### The whole file -/

section
variable {parser : Parser} {text : String} {top : List ParseTree} {p : Placement} {lo hi : Nat}

theorem shift_zero (shape : Shape) : shift 0 0 shape = shape := by
  cases shape
  rfl

mutual

theorem map_shift_zero : (t : ParseTree) → t.map (shift 0 0) = t
  | .node shape ts => by rw [Tree.map, shift_zero, mapForest_shift_zero ts]

theorem mapForest_shift_zero : (ts : List ParseTree) → mapForest (shift 0 0) ts = ts
  | [] => rfl
  | t :: ts => by rw [mapForest, map_shift_zero t, mapForest_shift_zero ts]

end

theorem forestSize_append {α : Type} (ts us : List (Tree α)) :
    forestSize (ts ++ us) = forestSize ts + forestSize us := by
  induction ts with
  | nil => simp [forestSize]
  | cons t ts ih =>
    rw [List.cons_append, forestSize, forestSize, ih]
    omega

theorem numberForest_append (source : Source) (next : Nat) (ts us : List ParseTree) :
    SyntaxTree.numberForest source next (ts ++ us) = SyntaxTree.numberForest source next ts ++
      SyntaxTree.numberForest source (next + forestSize ts) us := by
  induction ts generalizing next with
  | nil => simp [SyntaxTree.numberForest, forestSize]
  | cons t ts ih =>
    simp only [List.cons_append, SyntaxTree.numberForest, forestSize, ih, Nat.add_assoc]

/-- A run from `start` up to `stop` is replaced without a fault. -/
theorem copyRun_eq_ok {run : List ParseTree} {start stop : Nat} (count : Nat)
    (hp : p = ⟨(Source.ofText text).lineStarts, 0, 0⟩) (hne : run ≠ [])
    (hrun : (top.drop start).take (stop - start) = run) (hle : start < stop)
    (hstop : stop ≤ top.length) (h : FitsBetween (.ofText text) lo hi run)
    (hparser : parser.FitsOn (wrapped (.ofText text) run)) :
    copyRun parser (.ofText text) p top start stop count =
      .ok (SyntaxTree.numberForest (.ofText text) count (replacement parser (.ofText text) run),
        count + forestSize (replacement parser (.ofText text) run)) := by
  subst hp
  have hlength : run.length = stop - start := by
    rw [← hrun, List.length_take, List.length_drop]
    omega
  have hget {j : Nat} (hj : j < stop - start) : top[start + j]? = run[j]? := by
    rw [← hrun, List.getElem?_take_of_lt hj, List.getElem?_drop]
  obtain ⟨first, hfirst⟩ : ∃ first, run.head? = some first :=
    Option.isSome_iff_exists.1 (by simpa using hne)
  obtain ⟨last, hlast⟩ : ∃ last, run.getLast? = some last :=
    ⟨_, List.getLast?_eq_some_getLast hne⟩
  have hstart : firstStart run = first.label.start := by rw [firstStart, hfirst]; rfl
  have hend : lastStop run = last.label.stop := by rw [lastStop, hlast]; rfl
  have hentry₁ : entry top start = .ok first := by
    refine entry_eq_ok ?_
    rw [← hfirst, List.head?_eq_getElem?, ← hget (by omega), Nat.add_zero]
  have hentry₂ : entry top (stop - 1) = .ok last := by
    refine entry_eq_ok ?_
    rw [← hlast, List.getLast?_eq_getElem?, hlength, ← hget (by omega)]
    congr 1
    omega
  have hcuts := h.cuts_ends hne
  have hcut := cut_eq_ok (h.firstStart_le hne).2.1 hcuts.1 hcuts.2
  rw [← segment_eq hne, hstart, hend] at hcut
  have hone : 1 ≤ stop := by omega
  simp only [copyRun, hentry₁, minus_eq_ok hone, hentry₂, hcut, bind, Except.bind]
  rcases replacement_cases parser (.ofText text) run with ⟨hnone, heq⟩ |
      ⟨parse, members, hparse, hm, heq⟩
  · rw [wrapped] at hnone
    have hrange := range_eq_ok (Nat.le_of_lt hle) hstop
    rw [hrun] at hrange
    have hcopy := copyNodes_eq_ok (p := ⟨(Source.ofText text).lineStarts, 0, 0⟩) rfl run count
      h.nested (Nat.zero_le lo)
    rw [mapForest_shift_zero] at hcopy
    simp only [hnone, hrange, heq]
    exact hcopy
  · have hfits := fits_members (hparser parse hparse) hm
    have hcopy := copyNodes_eq_ok
      (p := ⟨(Source.ofText text).lineStarts, opening.utf8ByteSize, first.label.start⟩) rfl members
      count hfits.nested (Nat.le_refl _)
    rw [wrapped] at hparse
    simp only [hparse, Option.bind_some, hm, heq, hcopy, forestSize_mapForest, hstart]

/-- From any index on the statements are recovered without a fault. -/
theorem copyStatements_eq_ok {lo hi : Nat} (hp : p = ⟨(Source.ofText text).lineStarts, 0, 0⟩)
    (i count : Nat) (h : FitsBetween (.ofText text) lo hi (top.drop i))
    (hparser : ∀ run, .run run ∈ pieces (.ofText text) (top.drop i) →
      parser.FitsOn (wrapped (.ofText text) run)) :
    copyStatements parser (.ofText text) p top i count =
      .ok (SyntaxTree.numberForest (.ofText text) count
          (statements parser (.ofText text) (top.drop i)),
        count + forestSize (statements parser (.ofText text) (top.drop i))) := by
  rw [copyStatements]
  by_cases hin : i < top.length
  · have hdrop := List.drop_eq_getElem_cons hin
    rw [dif_pos hin]
    rw [hdrop] at h hparser
    cases hmis : isMisread (.ofText text) top[i] with
    | false =>
      rw [pieces_of_not_isMisread hmis] at hparser
      have hsplit : FitsBetween (.ofText text) lo hi ([top[i]] ++ top.drop (i + 1)) := h
      obtain ⟨hone, hrest, -⟩ := hsplit.split (List.cons_ne_nil _ _)
      have htree := copyNode_eq_ok (p := p) (by rw [hp]) top[i] count hone.nested.1
        (by rw [hp]; exact Nat.zero_le lo)
      have hothers := copyStatements_eq_ok hp (i + 1) (count + top[i].size) hrest
        fun run hrun => hparser run (List.mem_cons_of_mem _ hrun)
      have hshift : top[i].map (shift p.origin p.target) = top[i] := by
        rw [hp]
        exact map_shift_zero top[i]
      rw [hdrop, statements, if_neg (Bool.eq_false_iff.1 hmis)]
      simp only [Bool.false_eq_true, if_false, htree, bind, Except.bind, hothers, hshift, pure,
        Except.pure, SyntaxTree.numberForest, forestSize, Nat.add_assoc]
    | true =>
      obtain ⟨hend, hle⟩ := runEnd_eq_ok hdrop hmis
      generalize hk : followers (.ofText text) (top.drop (i + 1)) = k at hend hle
      have hlt : i < i + 1 + k := by omega
      rw [pieces_of_isMisread hmis, hk] at hparser
      have htake : (top.drop i).take (i + 1 + k - i) = top[i] :: (top.drop (i + 1)).take k := by
        rw [hdrop, show i + 1 + k - i = k + 1 by omega, List.take_succ_cons]
      have hnext : (top.drop (i + 1)).drop k = top.drop (i + 1 + k) := List.drop_drop
      have hne : top[i] :: (top.drop (i + 1)).take k ≠ [] := List.cons_ne_nil _ _
      rw [← List.take_append_drop k (top.drop (i + 1)), ← List.cons_append, hnext] at h
      obtain ⟨hrun, hrest, -⟩ := h.split hne
      have htrees := copyRun_eq_ok count hp hne htake hlt hle hrun
        (hparser _ List.mem_cons_self)
      have hothers := copyStatements_eq_ok hp (i + 1 + k)
        (count + forestSize (replacement parser (.ofText text)
          (top[i] :: (top.drop (i + 1)).take k))) hrest
        fun run hrun => hparser run (List.mem_cons_of_mem _ (hnext ▸ hrun))
      rw [hdrop, statements, if_pos hmis, hk, hnext]
      simp only [if_true, hend, bind, Except.bind]
      rw [dif_pos hlt]
      simp only [htrees, hothers, pure, Except.pure, numberForest_append, forestSize_append]
      rw [Nat.add_assoc count]
  · rw [dif_neg hin, List.drop_eq_nil_of_le (Nat.le_of_not_lt hin), statements]
    rfl
termination_by top.length - i

/-- If the grammar keeps its promise about the file and its runs, every step of reading passes its
checks and the tree is the file's tree. -/
theorem read_eq_ok (h : parser.FitsFile text) :
    read parser text = .ok (SyntaxTree.read? parser text) := by
  rw [read, SyntaxTree.read?]
  cases hparse : parser text with
  | none => rfl
  | some parse =>
    have hfits := h.file parse hparse
    have hruns := h.runs parse hparse
    obtain ⟨⟨shape, ts⟩, hasError⟩ := parse
    have hroot : pushNode ⟨(Source.ofText text).lineStarts, 0, 0⟩ 0 shape = .ok _ :=
      pushNode_eq_ok rfl (Nat.zero_le _) (Nat.zero_le _)
    have hstatements := copyStatements_eq_ok rfl 0 1 hfits.children hruns
    rw [List.drop_zero] at hstatements
    simp only [Tree.label, hroot, Tree.children] at hstatements ⊢
    have hlt : 0 < 1 + forestSize (statements parser (.ofText text) ts) := by omega
    have hlast : 1 + forestSize (statements parser (.ofText text) ts) - 1 =
        0 + forestSize (statements parser (.ofText text) ts) := by omega
    simp only [hstatements, bind, Except.bind, finishNode_eq_ok, hlt, hlast, pure, Except.pure,
      recover, Option.bind_some, SyntaxTree.number, shift_zero]
    rfl

end

end Checked

namespace SyntaxTree

open Tree Recovery

mutual

/-- Every node stands on the line and in the column of its start. -/
theorem position_of_mem_number {source : Source} {place : Place} : {next : Nat} →
    {t : ParseTree} → place ∈ (number source next t).preorder →
      place.line = source.lineAt place.start ∧ place.column = source.columnAt place.start
  | _, .node _ ts, h => by
    rcases List.mem_cons.1 h with rfl | h
    · exact ⟨rfl, rfl⟩
    · exact position_of_mem_numberForest h

theorem position_of_mem_numberForest {source : Source} {place : Place} : {next : Nat} →
    {ts : List ParseTree} → place ∈ forestPreorder (numberForest source next ts) →
      place.line = source.lineAt place.start ∧ place.column = source.columnAt place.start
  | _, [], h => by simp [numberForest] at h
  | _, t :: ts, h => by
    rcases List.mem_append.1 h with h | h
    · exact position_of_mem_number h
    · exact position_of_mem_numberForest h

end

section
variable {parser : Parser} {text : String} {parse : Parse} {tree : SyntaxTree}

theorem read?_eq_some (hparse : parser text = some parse) (h : read? parser text = some tree) :
    tree = ⟨.ofText text, number (.ofText text) 0 (recover parser (.ofText text) parse.root),
      parse.hasError⟩ := by
  rw [read?, hparse] at h
  exact (Option.some.inj h).symm

theorem numberedFrom_of_read? (h : read? parser text = some tree) : tree.root.NumberedFrom 0 := by
  obtain ⟨parse, hparse, -⟩ := Option.bind_eq_some_iff.1 h
  obtain rfl := read?_eq_some hparse h
  exact numberedFrom_number _ 0 _

/-- The numbered tree of a parse that fits its text is well-formed. -/
theorem wellFormed_number {root : ParseTree} {errors : Bool}
    (hfits : Tree.Fits (.ofText text) root) :
    WellFormed ⟨.ofText text, number (.ofText text) 0 root, errors⟩ := by
  refine ⟨rfl, ?_, numberedFrom_number _ 0 _⟩
  rwa [map_toShape_number]

theorem wellFormed_of_read? (hfits : parser.FitsFile text) (hparse : parser text = some parse)
    (h : read? parser text = some tree) : tree.WellFormed := by
  obtain rfl := read?_eq_some hparse h
  exact wellFormed_number (fits_recover (hfits.file parse hparse) (hfits.runs parse hparse))

/-- Reading a file passes every check on its way. The tree fits the file; a recovered node covers
the text that it covered in the wrapped run; every node's line and column count the line feeds
before it and the bytes since the last of them, and under its line's number the line it starts on
is looked up. -/
theorem reading_places_nodes (hfits : parser.FitsFile text) :
    Checked.read parser text = .ok (read? parser text) ∧
    ∀ parse tree, parser text = some parse → read? parser text = some tree →
      (tree.WellFormed ∧ tree.source = .ofText text) ∧
      (∀ t ∈ (tree.root.map Place.toShape).children, t ∈ parse.root.children ∨
        ∃ run again member, .run run ∈ pieces (.ofText text) parse.root.children ∧
          parser (wrapped (.ofText text) run) = some again ∧ Below again.root member ∧
          t = member.map (shift opening.utf8ByteSize (firstStart run)) ∧
          ∀ shape ∈ member.preorder,
            (Source.ofText (wrapped (.ofText text) run)).textBetween shape.start shape.stop =
              (Source.ofText text).textBetween
                (shift opening.utf8ByteSize (firstStart run) shape).start
                (shift opening.utf8ByteSize (firstStart run) shape).stop) ∧
      ∀ place ∈ tree.root.preorder,
        (∃ before part : List UInt8, text.toUTF8.toList.take place.start = before ++ part ∧
          10 ∉ part ∧ (before = [] ∨ before.getLast? = some 10) ∧
          place.line = 1 + (text.toUTF8.toList.take place.start).count 10 ∧
          place.column = place.start - before.length + 1) ∧
        (place.start < text.utf8ByteSize →
          ∃ line stop, (Text.lines text)[place.line - 1]? = some line ∧
            IsLine text place.line line (place.start + 1 - place.column) stop ∧
            place.start < stop) := by
  refine ⟨Checked.read_eq_ok hfits, fun parse tree hparse htree => ?_⟩
  have hwell := wellFormed_of_read? hfits hparse htree
  obtain rfl := read?_eq_some hparse htree
  refine ⟨⟨hwell, rfl⟩, fun t ht => ?_, fun place hplace => ?_⟩
  · rw [map_toShape_number] at ht
    generalize hroot : parse.root = root at *
    cases root with
    | node shape ts =>
      have hts := (hfits.file parse hparse).children
      have hruns := hfits.runs parse hparse
      rw [hroot] at hts hruns
      exact of_mem_statements hts hruns ht
  · obtain ⟨hline, hcolumn⟩ := position_of_mem_number hplace
    have hcut := (hwell.cuts hplace).1
    have hle := Source.lineStart_le text place.start
    rw [Source.columnAt_eq] at hcolumn
    refine ⟨?_, fun hlt => ?_⟩
    · obtain ⟨before, part, htake, hpart, hbefore, hstart⟩ := Source.exists_lineStart text place.start
      refine ⟨before, part, htake, hpart, hbefore, ?_, ?_⟩
      · rw [hline, Source.lineAt_ofText]
      · rw [hcolumn, hstart]
    · obtain ⟨line, stop, hget, his, hstop⟩ := Source.exists_isLine hcut hlt
      rw [← hline] at hget his
      refine ⟨line, stop, hget, ?_, hstop⟩
      rwa [hcolumn, show place.start + 1 - (place.start - (Source.ofText text).lineStart place.start +
        1) = (Source.ofText text).lineStart place.start by omega]

end

/-- A file whose only declaration is misread as a call. -/
def misreadFile : String := "public fun f()"

/-- A grammar for that file: a call at the top level, a function in a class body. -/
def misreadParser : Parser := fun text =>
  if text = misreadFile then
    let call : ParseTree := .node ⟨"call_expression", true, false, 0, 14⟩
      [.node ⟨"identifier", true, false, 0, 6⟩ [], .node ⟨"call_suffix", true, false, 7, 14⟩ []]
    some ⟨.node ⟨"source_file", true, false, 0, 14⟩ [call], false⟩
  else if text = opening ++ misreadFile ++ closing then
    let body : ParseTree := .node ⟨"class_body", true, false, 16, 33⟩
      [.node ⟨"\x7b", false, false, 16, 17⟩ [],
        .node ⟨"function_declaration", true, false, 17, 31⟩ [],
        .node ⟨"\x7d", false, false, 32, 33⟩ []]
    some ⟨.node ⟨"source_file", true, false, 0, 33⟩
      [.node ⟨"class_declaration", true, false, 0, 33⟩
        [.node ⟨"class", false, false, 0, 5⟩ [], .node ⟨"identifier", true, false, 6, 15⟩ [],
          body]], false⟩
  else none

theorem fitsOn_misreadParser (text : String) : misreadParser.FitsOn text := by
  intro parse hparse
  rw [misreadParser] at hparse
  split at hparse
  · next htext =>
    subst htext
    obtain rfl := Option.some.inj hparse
    exact ⟨by decide, by decide⟩
  · split at hparse
    · next htext =>
      subst htext
      obtain rfl := Option.some.inj hparse
      exact ⟨by decide, by decide⟩
    · cases hparse

theorem reading_places_nodes_misreadFile : misreadParser.FitsFile misreadFile ∧
    Checked.read misreadParser misreadFile = .ok (read? misreadParser misreadFile) :=
  have hfits : misreadParser.FitsFile misreadFile :=
    ⟨fitsOn_misreadParser _, fun _ _ _ _ => fitsOn_misreadParser _⟩
  ⟨hfits, (reading_places_nodes hfits).1⟩

end SyntaxTree

end ComposeCheck
