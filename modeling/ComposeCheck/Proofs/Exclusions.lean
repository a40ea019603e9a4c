import ComposeCheck.Files.Exclusion
import ComposeCheck.Proofs.FilePaths

/-!
# What a pattern leaves out on the way

Besides the paths that it stands for, a pattern leaves out the paths in which the rest of it without
`**` occurs as text. In terms of components the rest runs through a path: its first piece is the
end of a component, its last piece is the beginning of one, and only those between are components
(`joined_infix_iff`). So a pattern between slashes respects components, and `build/**` leaves out
what lies in `rebuild` (`leaveOut_respects_components`).
-/

namespace ComposeCheck

open Text

namespace FilePath

/-! ### Pieces of a text -/

/-- What stands between slashes. -/
def parts (cs : List Char) : List (List Char) := splitWhere (· == '/') cs

/-- Pieces run through a chain of components: the first is the end of a component, the last is the
beginning of one, and those between are components. -/
def RunThrough (pieces components : List (List Char)) : Prop :=
  ∃ first inner last before after front back, pieces = first :: (inner ++ [last]) ∧
    components = front ++ (before ++ first) :: (inner ++ (last ++ after) :: back)

section
variable {c : Char} {cs first last before after : List Char}
  {pieces components front back inner rest : List (List Char)}

theorem parts_joined (hne : pieces ≠ []) (h : ∀ p ∈ pieces, '/' ∉ p) :
    parts (joined pieces) = pieces := by
  have hnot {piece : List Char} (h : '/' ∉ piece) : ∀ c ∈ piece, (c == '/') = false := fun c hc =>
    beq_eq_false_iff_ne.2 fun heq => h (heq ▸ hc)
  induction pieces with
  | nil => exact absurd rfl hne
  | cons piece pieces ih =>
    obtain ⟨hpiece, hpieces⟩ := List.forall_mem_cons.1 h
    cases pieces with
    | nil => rw [joined_singleton, parts, splitWhere_of_forall_not (hnot hpiece)]
    | cons next pieces =>
      rw [joined_cons_cons, parts, splitWhere_append_cons (hnot hpiece) rfl, ← parts,
        ih (List.cons_ne_nil _ _) hpieces]

theorem joined_parts (cs : List Char) : joined (parts cs) = cs := by
  obtain ⟨piece, pieces, hslash, rfl⟩ := exists_joined cs
  rw [parts_joined (List.cons_ne_nil _ _) hslash]

theorem not_mem_parts {piece : List Char} (h : piece ∈ parts cs) : '/' ∉ piece := by
  obtain ⟨first, rest, hslash, rfl⟩ := exists_joined cs
  rw [parts_joined (List.cons_ne_nil _ _) hslash] at h
  exact hslash piece h

theorem parts_ne_nil (cs : List Char) : parts cs ≠ [] := splitWhere_ne_nil _ _

theorem parts_slash (cs : List Char) : parts ('/' :: cs) = [] :: parts cs := by
  rw [parts, splitWhere, if_pos (beq_self_eq_true _), parts]

theorem parts_cons (hc : c ≠ '/') (h : parts cs = first :: rest) :
    parts (c :: cs) = (c :: first) :: rest := by
  rw [parts] at h
  rw [parts, splitWhere, if_neg (by simpa using hc), h]

theorem exists_parts_of_cons (hc : c ≠ '/') (h : parts (c :: cs) = first :: rest) :
    ∃ piece, first = c :: piece ∧ parts cs = piece :: rest := by
  obtain ⟨piece, others, hpieces⟩ := List.exists_cons_of_ne_nil (parts_ne_nil cs)
  rw [parts_cons hc hpieces] at h
  obtain ⟨rfl, rfl⟩ := List.cons.inj h
  exact ⟨piece, rfl, hpieces⟩

theorem exists_eq_append (h : parts cs = first :: rest) : ∃ tail, cs = first ++ tail := by
  obtain ⟨tail, htail⟩ := exists_joined_cons first rest
  exact ⟨tail, by rw [← joined_parts cs, h, htail]⟩

/-- Where two texts meet, the last piece of one and the first piece of the other become one. -/
theorem joined_concat_append (front : List (List Char)) (last first : List Char)
    (rest : List (List Char)) :
    joined (front ++ [last]) ++ joined (first :: rest) =
      joined (front ++ (last ++ first) :: rest) := by
  have hmeet : last ++ joined (first :: rest) = joined ((last ++ first) :: rest) := by
    cases rest with
    | nil => rw [joined_singleton, joined_singleton]
    | cons next rest => rw [joined_cons_cons, joined_cons_cons, List.append_assoc]
  cases front with
  | nil => rw [List.nil_append, List.nil_append, joined_singleton, hmeet]
  | cons piece front =>
    rw [joined_append (List.cons_ne_nil _ _) (List.cons_ne_nil _ _),
      joined_append (List.cons_ne_nil _ _) (List.cons_ne_nil _ _), joined_singleton,
      List.append_assoc, List.cons_append, hmeet]

theorem joined_run (front : List (List Char)) (before first : List Char)
    (inner : List (List Char)) (last after : List Char) (back : List (List Char)) :
    joined (front ++ [before]) ++ joined (first :: (inner ++ [last])) ++ joined (after :: back) =
      joined (front ++ (before ++ first) :: (inner ++ (last ++ after) :: back)) := by
  rw [joined_concat_append, ← List.cons_append, ← List.append_assoc, joined_concat_append,
    List.append_assoc, List.cons_append]

/-- A text with a slash occurs in another one where its pieces run through the pieces of the
other. -/
theorem joined_infix_iff (htwo : 2 ≤ pieces.length) (hpieces : ∀ p ∈ pieces, '/' ∉ p)
    (hne : components ≠ []) (hcomponents : ∀ p ∈ components, '/' ∉ p) :
    joined pieces <:+: joined components ↔ RunThrough pieces components := by
  constructor
  · rintro ⟨left, right, htext⟩
    obtain ⟨first, rest, rfl⟩ := List.exists_cons_of_length_pos (by omega : 0 < pieces.length)
    obtain rfl | ⟨inner, last, rfl⟩ := List.eq_nil_or_concat rest
    · simp at htwo
    obtain hnil | ⟨front, before, hleft⟩ := List.eq_nil_or_concat (parts left)
    · exact absurd hnil (parts_ne_nil left)
    obtain ⟨after, back, hright⟩ := List.exists_cons_of_ne_nil (parts_ne_nil right)
    rw [List.concat_eq_append] at *
    have hslashLeft : ∀ p ∈ front ++ [before], '/' ∉ p := hleft ▸ fun p => not_mem_parts
    have hslashRight : ∀ p ∈ after :: back, '/' ∉ p := hright ▸ fun p => not_mem_parts
    refine ⟨first, inner, last, before, after, front, back, rfl, ?_⟩
    rw [← joined_parts left, ← joined_parts right, hleft, hright, joined_run] at htext
    rw [← parts_joined hne hcomponents, ← htext, parts_joined (by simp)]
    rw [List.forall_mem_append, List.forall_mem_singleton] at hslashLeft
    rw [List.forall_mem_cons, List.forall_mem_append, List.forall_mem_singleton] at hpieces
    rw [List.forall_mem_cons] at hslashRight
    simp only [List.forall_mem_append, List.forall_mem_cons]
    exact ⟨hslashLeft.1, List.not_mem_append hslashLeft.2 hpieces.1, hpieces.2.1,
      List.not_mem_append hpieces.2.2 hslashRight.1, hslashRight.2⟩
  · rintro ⟨first, inner, last, before, after, front, back, rfl, rfl⟩
    exact ⟨_, _, joined_run front before first inner last after back⟩

end

end FilePath

namespace Exclusion

open FilePath

/-! ### Patterns without their stars -/

abbrev stars : List Char := ['*', '*']

/-- The parts of a pattern, if it is valid. -/
def tokens? (pattern : String) : Option (List ExclusionToken) :=
  read (pattern.toList.length + 1) true pattern.toList

/-- A pattern stands for a path. -/
def Matches (pattern path : String) : Prop :=
  (tokens? pattern).any (holds · path.toList) = true

instance (pattern path : String) : Decidable (Matches pattern path) :=
  inferInstanceAs (Decidable (_ = true))

/-- What is left of a pattern without `**` runs through a path; the path has a slash before it. -/
def PassesThrough (pattern : String) (names : List String) : Prop :=
  ∃ part, throughPart? pattern.toList = some part ∧
    RunThrough (parts part) ([] :: names.map String.toList)

/-- A piece with two stars in a row has nothing else. -/
def Alone (piece : List Char) : Prop := stars <:+: piece → piece = stars

/-- Two stars in a row stand alone between slashes. -/
def StarsAlone (pattern : String) : Prop := ∀ piece ∈ parts pattern.toList, Alone piece

/-- At each of its ends a pattern has a slash, or `**` and a slash. -/
def Enclosed (pattern : String) : Prop :=
  (∀ piece ∈ (parts pattern.toList).head?, piece = [] ∨ piece = stars) ∧
    ∀ piece ∈ (parts pattern.toList).getLast?, piece = [] ∨ piece = stars

/-- The components of a pattern other than `**`. -/
def literals (pattern : String) : List (List Char) :=
  (parts pattern.toList).filter fun piece => piece ≠ [] ∧ piece ≠ stars

def unstarred (piece : List Char) : List Char := if piece = stars then [] else piece

section
variable {fuel : Nat} {atStart : Bool} {c : Char} {cs first part piece tail : List Char}
  {pieces rest : List (List Char)} {tokens : List ExclusionToken} {pattern path : String}
  {patterns : List String} {names : List String}

theorem go_cons (h : dropLead stars (c :: cs) = none) (fuel : Nat) :
    without.go stars fuel (c :: cs) = c :: without.go stars fuel cs := by
  cases fuel with
  | zero => rfl
  | succ fuel =>
    rw [without.go, without.go, splitFirst, h]
    cases splitFirst stars cs <;> rfl

theorem go_append (h : ¬stars <:+: piece) (htail : tail.head? ≠ some '*') (fuel : Nat) :
    without.go stars fuel (piece ++ tail) = piece ++ without.go stars fuel tail := by
  induction piece with
  | nil => rfl
  | cons c piece ih =>
    have hlead : dropLead stars (c :: (piece ++ tail)) = none := by
      cases hlead : dropLead stars (c :: (piece ++ tail)) with
      | none => rfl
      | some rest =>
        obtain ⟨rfl, hrest⟩ := List.cons.inj (dropLead_eq_some_iff.1 hlead)
        cases piece with
        | nil => exact absurd (by simpa using congrArg List.head? hrest) htail
        | cons d piece =>
          obtain ⟨rfl, -⟩ := List.cons.inj hrest
          exact absurd ⟨[], piece, rfl⟩ h
    rw [List.cons_append, go_cons hlead, ih fun hin => h (hin.trans ⟨[c], [], by simp⟩)]
    rfl

theorem go_stars (fuel : Nat) (tail : List Char) :
    without.go stars (fuel + 1) (stars ++ tail) = without.go stars fuel tail := by
  have hcut : splitFirst stars (stars ++ tail) = some ([], tail) :=
    splitFirst_eq_some_iff.2 ⟨rfl, ⟨tail, rfl⟩, fun _ _ _ => Nat.zero_le _⟩
  rw [without.go, hcut]
  rfl

/-- Where stars stand alone, what is left has nothing in their places. -/
theorem go_joined (h : ∀ piece ∈ pieces, Alone piece) (hfuel : (joined pieces).length ≤ fuel) :
    without.go stars fuel (joined pieces) = joined (pieces.map unstarred) := by
  induction pieces generalizing fuel with
  | nil => cases fuel <;> rfl
  | cons piece pieces ih =>
    obtain ⟨hpiece, hpieces⟩ := List.forall_mem_cons.1 h
    -- What stands behind the piece is nothing, or a slash and the other pieces.
    obtain ⟨tail, htail, hjoined, hrest⟩ : ∃ tail, tail.head? ≠ some '*' ∧
        (∀ piece, joined (piece :: pieces) = piece ++ tail) ∧
        ∀ fuel, tail.length ≤ fuel → ∀ piece, joined (piece :: pieces.map unstarred) =
          piece ++ without.go stars fuel tail := by
      cases pieces with
      | nil =>
        refine ⟨[], by simp, fun piece => by rw [joined_singleton, List.append_nil], ?_⟩
        rintro (_ | fuel) - piece <;> exact (joined_singleton piece).trans (List.append_nil _).symm
      | cons next pieces =>
        refine ⟨'/' :: joined (next :: pieces), by simp, fun piece => joined_cons_cons .., ?_⟩
        intro fuel hfuel piece
        rw [List.map_cons, joined_cons_cons, go_cons (by simp [dropLead]), ← List.map_cons,
          ih hpieces (by simpa using Nat.le_of_lt hfuel)]
    rw [hjoined] at hfuel ⊢
    rw [List.map_cons, unstarred]
    split
    case isTrue hstars =>
      subst hstars
      cases fuel with
      | zero => simp at hfuel
      | succ fuel =>
        rw [go_stars, hrest fuel (by simp at hfuel; omega), List.nil_append]
    case isFalse hstars =>
      rw [go_append (fun hin => hstars (hpiece hin)) htail,
        hrest fuel (by simp at hfuel; omega)]

theorem parts_without (h : StarsAlone pattern) :
    parts (without stars pattern.toList) = (parts pattern.toList).map unstarred := by
  have hgo := go_joined h (Nat.le_of_eq (congrArg List.length (joined_parts pattern.toList)))
  rw [joined_parts] at hgo
  rw [show without stars pattern.toList = _ from hgo, parts_joined]
  · simpa using parts_ne_nil pattern.toList
  · rintro piece hpiece
    obtain ⟨piece, hmem, rfl⟩ := List.mem_map.1 hpiece
    rw [unstarred]
    split
    · exact List.not_mem_nil
    · exact not_mem_parts hmem

theorem filter_eq (pieces : List (List Char)) :
    pieces.filter (fun piece => piece ≠ [] ∧ piece ≠ stars) =
      (pieces.map unstarred).filter (· ≠ []) := by
  induction pieces with
  | nil => rfl
  | cons piece pieces ih =>
    rw [List.filter_cons, List.map_cons, List.filter_cons, ih, unstarred]
    by_cases hstars : piece = stars <;> simp [hstars]

theorem ite_alone_of_stars_free (h : ¬stars <:+: piece) (atStart : Bool) :
    if atStart then Alone piece else ¬stars <:+: piece := by
  split
  · exact fun hin => absurd hin h
  · exact h

/-- A character other than a slash makes no two stars in a row, unless it is one of them. -/
theorem alone_cons (hc : c ≠ '/') (hstar : c = '*' → cs.head? ≠ some '*')
    (hparts : parts (c :: cs) = first :: rest)
    (h : ∀ piece, parts cs = piece :: rest → ¬stars <:+: piece ∧ ∀ p ∈ rest, Alone p) :
    ¬stars <:+: first ∧ ∀ p ∈ rest, Alone p := by
  obtain ⟨piece, rfl, htail⟩ := exists_parts_of_cons hc hparts
  obtain ⟨hpiece, hrest⟩ := h piece htail
  refine ⟨?_, hrest⟩
  rw [List.infix_cons_iff, not_or]
  refine ⟨?_, hpiece⟩
  rintro ⟨behind, hbehind⟩
  obtain ⟨rfl, hpiece'⟩ := List.cons.inj hbehind
  obtain ⟨tail, rfl⟩ := exists_eq_append htail
  exact hstar rfl (by simp [← hpiece'])

/-- In a valid pattern without brackets two stars in a row stand alone, and in its first piece there
are none if something stands before it. -/
theorem alone_of_read (h : read fuel atStart cs = some tokens) (hbracket : '[' ∉ cs)
    (hparts : parts cs = first :: rest) :
    (if atStart then Alone first else ¬stars <:+: first) ∧ ∀ piece ∈ rest, Alone piece := by
  induction fuel generalizing atStart cs tokens first rest with
  | zero => cases h
  | succ fuel ih =>
    have hite (h : ¬stars <:+: first ∧ ∀ piece ∈ rest, Alone piece) :
        (if atStart then Alone first else ¬stars <:+: first) ∧ ∀ piece ∈ rest, Alone piece :=
      ⟨ite_alone_of_stars_free h.1 atStart, h.2⟩
    -- Behind a character other than a slash the rest is read as what something stands before.
    have hplain {c : Char} {cs : List Char} {tokens : List ExclusionToken}
        (hc : c ≠ '/') (hstar : c = '*' → cs.head? ≠ some '*')
        (hread : read fuel false cs = some tokens) (hbracket : '[' ∉ c :: cs)
        (hparts : parts (c :: cs) = first :: rest) :
        ¬stars <:+: first ∧ ∀ piece ∈ rest, Alone piece :=
      alone_cons hc hstar hparts fun piece htail =>
        ih hread (fun hmem => hbracket (List.mem_cons_of_mem c hmem)) htail
    unfold read at h
    split at h
    case h_1 =>
      obtain ⟨rfl, rfl⟩ := List.cons.inj hparts
      exact hite ⟨by simp, by simp⟩
    case h_2 cs =>
      obtain ⟨tokens, hread, -⟩ := Option.map_eq_some_iff.1 h
      exact hite (hplain (by decide) (fun heq => absurd heq (by decide)) hread hbracket hparts)
    case h_3 => cases h
    case h_4 cs _ =>
      obtain ⟨hstart, hbehind⟩ := Option.ite_none_left_eq_some.1 h
      obtain rfl : atStart = true := by simpa using hstart
      obtain ⟨_, rfl, hsecond⟩ := exists_parts_of_cons (by decide) hparts
      obtain ⟨piece, rfl, htail⟩ := exists_parts_of_cons (by decide) hsecond
      split at hbehind
      case h_1 =>
        obtain ⟨rfl, rfl⟩ := List.cons.inj htail
        exact ⟨fun _ => rfl, by simp⟩
      case h_2 behind _ =>
        obtain ⟨tokens, hread, -⟩ := Option.map_eq_some_iff.1 hbehind
        rw [parts_slash] at htail
        obtain ⟨rfl, rfl⟩ := List.cons.inj htail
        obtain ⟨first, rest, hnext⟩ := List.exists_cons_of_ne_nil (parts_ne_nil behind)
        obtain ⟨hfirst, hrest⟩ := ih hread (fun hmem => hbracket (by simp [hmem])) hnext
        exact ⟨fun _ => rfl, hnext ▸ List.forall_mem_cons.2 ⟨hfirst, hrest⟩⟩
      case h_3 => cases hbehind
    case h_5 cs _ hstars =>
      obtain ⟨tokens, hread, -⟩ := Option.map_eq_some_iff.1 h
      refine hite (hplain (by decide) (fun _ hhead => ?_) hread hbracket hparts)
      obtain ⟨tail, rfl⟩ := List.head?_eq_some_iff.1 hhead
      exact hstars tail rfl
    case h_6 => exact absurd (by simp) hbracket
    case h_7 => exact absurd (by simp) hbracket
    case h_8 c cs _ _ _ hstar _ _ =>
      obtain ⟨tokens, hread, -⟩ := Option.map_eq_some_iff.1 h
      by_cases hc : c = '/'
      · subst hc
        rw [parts_slash] at hparts
        obtain ⟨rfl, rfl⟩ := List.cons.inj hparts
        obtain ⟨first, rest, hnext⟩ := List.exists_cons_of_ne_nil (parts_ne_nil cs)
        have hrest := ih hread (fun hmem => hbracket (List.mem_cons_of_mem _ hmem)) hnext
        exact hite ⟨by simp, hnext ▸ List.forall_mem_cons.2 hrest⟩
      · rw [beq_false_of_ne hc] at hread
        exact hite (hplain hc (fun heq => absurd heq hstar) hread hbracket hparts)

theorem starsAlone_of_valid (h : (tokens? pattern).isSome = true)
    (hbracket : '[' ∉ pattern.toList) : StarsAlone pattern := by
  obtain ⟨tokens, htokens⟩ := Option.isSome_iff_exists.1 h
  obtain ⟨first, rest, hparts⟩ := List.exists_cons_of_ne_nil (parts_ne_nil pattern.toList)
  rw [StarsAlone, hparts]
  exact List.forall_mem_cons.2 (alone_of_read htokens hbracket hparts)

theorem throughPart?_eq_some (h : throughPart? cs = some part) :
    part = without stars cs ∧ '/' ∈ part := by
  obtain ⟨hcond, heq⟩ := Option.ite_none_right_eq_some.1 h
  obtain rfl := Option.some.inj heq
  simp only [Bool.and_eq_true, List.contains_iff_mem] at hcond
  exact ⟨rfl, hcond.1⟩

theorem two_le_length_parts (h : '/' ∈ cs) : 2 ≤ (parts cs).length := by
  match hparts : parts cs with
  | [] => exact absurd hparts (parts_ne_nil cs)
  | [piece] =>
    have hcs := joined_parts cs
    rw [hparts, joined_singleton] at hcs
    exact absurd (hcs ▸ h) (not_mem_parts (hparts ▸ List.mem_singleton_self piece))
  | _ :: _ :: _ => simp

theorem passesThrough_iff (hnames : ∀ n ∈ names, IsName n) (hne : names ≠ []) :
    PassesThrough pattern names ↔ ∃ part, throughPart? pattern.toList = some part ∧
      (splitFirst part ('/' :: ("/".intercalate names).toList)).isSome = true := by
  have hpath : '/' :: ("/".intercalate names).toList = joined ([] :: names.map String.toList) := by
    obtain ⟨name, names, rfl⟩ := List.exists_cons_of_ne_nil hne
    rw [toList_intercalate, List.map_cons, joined_cons_cons, List.nil_append]
  have hslash : ∀ p ∈ [] :: names.map String.toList, '/' ∉ p :=
    List.forall_mem_cons.2 ⟨List.not_mem_nil, fun p hp => (areNames_toList hnames p hp).1⟩
  refine exists_congr fun part => and_congr_right fun hpart => ?_
  have htwo := two_le_length_parts (throughPart?_eq_some hpart).2
  rw [← joined_infix_iff htwo (fun p => not_mem_parts) (List.cons_ne_nil _ _) hslash, joined_parts,
    ← hpath, ← Option.ne_none_iff_isSome, ne_eq, splitFirst_eq_none_iff, not_not]

theorem exists_leavesOut? (hvalid : (tokens? pattern).isSome = true)
    (hnames : ∀ n ∈ names, IsName n) (hne : names ≠ []) :
    ∃ out, leavesOut? pattern ("/".intercalate names) = some out ∧
      (out = true ↔ Matches pattern ("/".intercalate names) ∨ PassesThrough pattern names) := by
  obtain ⟨tokens, htokens⟩ := Option.isSome_iff_exists.1 hvalid
  rw [passesThrough_iff hnames hne, Matches, htokens]
  rw [tokens?] at htokens
  simp only [leavesOut?, htokens, bind, Option.bind_some, pure]
  refine ⟨_, rfl, ?_⟩
  rw [Bool.or_eq_true]
  refine or_congr Iff.rfl ?_
  cases throughPart? pattern.toList <;> simp

theorem exists_leaveOut (hvalid : ∀ pattern ∈ patterns, (tokens? pattern).isSome = true)
    (hnames : ∀ n ∈ names, IsName n) (hne : names ≠ []) :
    ∃ out, leaveOut ("/".intercalate names) patterns = .ok out ∧
      (out = true ↔ ∃ pattern ∈ patterns,
        Matches pattern ("/".intercalate names) ∨ PassesThrough pattern names) := by
  induction patterns with
  | nil => exact ⟨false, rfl, by simp⟩
  | cons pattern patterns ih =>
    obtain ⟨hpattern, hpatterns⟩ := List.forall_mem_cons.1 hvalid
    obtain ⟨out, hout, hiff⟩ := exists_leavesOut? hpattern hnames hne
    rw [leaveOut, hout]
    cases out with
    | true => exact ⟨true, rfl, by simp [← hiff]⟩
    | false => simpa [← hiff] using ih hpatterns

/-- Between slashes nothing is left at the ends of a pattern, and its components are whole. -/
theorem infix_of_passesThrough (hstars : StarsAlone pattern) (henclosed : Enclosed pattern)
    (hnames : ∀ n ∈ names, IsName n) (h : PassesThrough pattern names) :
    literals pattern <:+: names.map String.toList := by
  obtain ⟨part, hpart, first, inner, last, before, after, front, back, hpieces, hnames'⟩ := h
  rw [(throughPart?_eq_some hpart).1, parts_without hstars] at hpieces
  have hvoid {piece : List Char} (h : piece = [] ∨ piece = stars) : unstarred piece = [] := by
    rcases h with rfl | rfl <;> rfl
  obtain rfl : first = [] := by
    have hhead := congrArg List.head? hpieces
    rw [List.head?_map] at hhead
    obtain ⟨piece, hpiece, rfl⟩ := Option.map_eq_some_iff.1 hhead
    exact hvoid (henclosed.1 piece hpiece)
  obtain rfl : last = [] := by
    have hlast := congrArg List.getLast? hpieces
    rw [List.getLast?_map, ← List.cons_append, List.getLast?_concat] at hlast
    obtain ⟨piece, hpiece, rfl⟩ := Option.map_eq_some_iff.1 hlast
    exact hvoid (henclosed.2 piece hpiece)
  obtain ⟨left, hleft⟩ : ∃ left, names.map String.toList = left ++ inner ++ (after :: back) := by
    cases front with
    | nil => exact ⟨[], (List.cons.inj hnames').2⟩
    | cons piece front => exact ⟨front ++ [before], by simpa using (List.cons.inj hnames').2⟩
  have hinner : literals pattern = inner := by
    rw [literals, filter_eq, hpieces]
    have hall : inner.filter (· ≠ []) = inner := by
      refine List.filter_eq_self.2 fun piece hpiece => ?_
      have hmem : piece ∈ names.map String.toList := by simp [hleft, hpiece]
      obtain ⟨name, hname, rfl⟩ := List.mem_map.1 hmem
      simpa using (hnames name hname).2.1
    simpa using hall
  exact ⟨left, after :: back, hinner ▸ hleft.symm⟩

/-- Patterns leave out the paths that they stand for and those that the rest of one of them without
`**` runs through: its first piece ends a component and its last piece begins one. Where a pattern
has slashes at its ends, or `**` behind them, its components other than `**` are components of the
path, one behind the other. -/
theorem leaveOut_respects_components
    (hvalid : ∀ pattern ∈ patterns, (tokens? pattern).isSome = true)
    (hnames : ∀ n ∈ names, IsName n) (hne : names ≠ []) :
    let path := "/".intercalate names
    (∃ out, leaveOut path patterns = .ok out ∧
      (out = true ↔ ∃ pattern ∈ patterns, Matches pattern path ∨ PassesThrough pattern names)) ∧
    (∀ pattern ∈ patterns, StarsAlone pattern → Enclosed pattern →
      leaveOut path [pattern] = .ok true → ¬Matches pattern path →
        literals pattern <:+: names.map String.toList) ∧
    ∀ pattern ∈ patterns, '[' ∉ pattern.toList → StarsAlone pattern := by
  intro path
  refine ⟨exists_leaveOut hvalid hnames hne, fun pattern hpattern hstars henclosed hout hnot => ?_,
    fun pattern hpattern => starsAlone_of_valid (hvalid pattern hpattern)⟩
  obtain ⟨out, hout', hiff⟩ := exists_leaveOut
    (List.forall_mem_singleton.2 (hvalid pattern hpattern)) hnames hne
  obtain rfl := Except.ok.inj (hout'.symm.trans hout)
  obtain ⟨_, hmem, hcause⟩ := hiff.1 rfl
  obtain rfl := List.mem_singleton.1 hmem
  exact infix_of_passesThrough hstars henclosed hnames (hcause.resolve_left hnot)

/-- The names that lead to a file in a directory whose name ends in `build`. -/
def rebuiltNames : List String := ["app", "rebuild", "Screen.kt"]

def generatedNames : List String := ["app", "generated", "Gen.kt"]

theorem leaveOut_respects_components_rebuild :
    leaveOut "app/rebuild/Screen.kt" ["build/**"] = .ok true ∧
    ¬Matches "build/**" "app/rebuild/Screen.kt" ∧ PassesThrough "build/**" rebuiltNames ∧
    ¬literals "build/**" <:+: rebuiltNames.map String.toList ∧
    leaveOut "app/generated/Gen.kt" ["/generated/"] = .ok true ∧
    literals "/generated/" <:+: generatedNames.map String.toList := by
  have hrebuilt : "/".intercalate rebuiltNames = "app/rebuild/Screen.kt" := rfl
  have hgenerated : "/".intercalate generatedNames = "app/generated/Gen.kt" := rfl
  have hout : leaveOut "app/rebuild/Screen.kt" ["build/**"] = .ok true := by decide +kernel
  have hnot : ¬Matches "build/**" "app/rebuild/Screen.kt" := by decide +kernel
  have hout' : leaveOut "app/generated/Gen.kt" ["/generated/"] = .ok true := by decide +kernel
  have hvalid : ∀ pattern ∈ ["build/**"], (tokens? pattern).isSome = true := by decide +kernel
  have hvalid' : ∀ pattern ∈ ["/generated/"], (tokens? pattern).isSome = true := by decide +kernel
  obtain ⟨⟨out, hleft, hiff⟩, -, -⟩ := leaveOut_respects_components hvalid
    (show ∀ n ∈ rebuiltNames, IsName n by decide) (by decide)
  obtain ⟨-, hwhole, hstars⟩ := leaveOut_respects_components hvalid'
    (show ∀ n ∈ generatedNames, IsName n by decide) (by decide)
  rw [hrebuilt] at hleft hiff
  rw [hgenerated] at hwhole
  obtain rfl := Except.ok.inj (hleft.symm.trans hout)
  obtain ⟨_, hmem, hcause⟩ := hiff.1 rfl
  obtain rfl := List.mem_singleton.1 hmem
  have hparts : parts "/generated/".toList = [[], "generated".toList, []] := by decide +kernel
  have hslashes : Enclosed "/generated/" := by
    rw [Enclosed, hparts]
    simp
  exact ⟨hout, hnot, hcause.resolve_left hnot, by decide +kernel, hout',
    hwhole _ (by simp) (hstars _ (by simp) (by decide)) hslashes hout' (by decide +kernel)⟩

end

end Exclusion

end ComposeCheck
