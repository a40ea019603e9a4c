import ComposeCheck.Allowance
import ComposeCheck.Proofs.Lines
import Mathlib.Data.List.TakeWhile

/-!
# Directives in a line

What a line says to the checker is found by cutting and trimming. Written down as a grammar it is a
directive that starts at the line's mark, the first `//` or else the first `/*`
(`read?_covers_iff`), and a finding is allowed by such a directive on its line or the line above
(`isSome_at?_iff`).
-/

namespace ComposeCheck

namespace Text

section
variable {cs lead rest before needle : List Char}

theorem dropLead_eq_some_iff : dropLead lead cs = some rest ↔ cs = lead ++ rest := by
  induction lead generalizing cs with
  | nil => exact ⟨fun h => Option.some.inj h, fun h => congrArg some h⟩
  | cons l ls ih =>
    cases cs with
    | nil => simp [dropLead]
    | cons c cs =>
      rw [dropLead]
      split
      case isTrue h => simp [h, ih]
      case isFalse h => simp [Ne.symm h]

/-- A text goes on with `needle` behind `before`, and nowhere further to the left. -/
def FirstAt (needle cs before : List Char) : Prop :=
  (∃ rest, cs = before ++ needle ++ rest) ∧
    ∀ before' rest', cs = before' ++ needle ++ rest' → before.length ≤ before'.length

theorem FirstAt.unique {before' : List Char} (h : FirstAt needle cs before)
    (h' : FirstAt needle cs before') : before = before' := by
  obtain ⟨⟨rest, hcs⟩, hfirst⟩ := h
  obtain ⟨⟨rest', hcs'⟩, hfirst'⟩ := h'
  have hlength := Nat.le_antisymm (hfirst _ _ hcs') (hfirst' _ _ hcs)
  rw [hcs, List.append_assoc, List.append_assoc] at hcs'
  exact (List.append_inj hcs' hlength).1

theorem of_splitFirst_eq_some (h : splitFirst needle cs = some (before, rest)) :
    cs = before ++ needle ++ rest ∧ FirstAt needle cs before := by
  suffices hcut : cs = before ++ needle ++ rest ∧
      ∀ before' rest', cs = before' ++ needle ++ rest' → before.length ≤ before'.length from
    ⟨hcut.1, ⟨rest, hcut.1⟩, hcut.2⟩
  induction cs generalizing before with
  | nil =>
    rw [splitFirst] at h
    split at h
    case isTrue hempty =>
      obtain ⟨rfl, rfl⟩ := Prod.mk.inj (Option.some.inj h)
      exact ⟨by simpa using hempty.symm, fun _ _ _ => Nat.zero_le _⟩
    case isFalse => cases h
  | cons c cs ih =>
    rw [splitFirst] at h
    cases hlead : dropLead needle (c :: cs) with
    | some found =>
      rw [hlead] at h
      obtain ⟨rfl, rfl⟩ := Prod.mk.inj (Option.some.inj h)
      exact ⟨dropLead_eq_some_iff.1 hlead, fun _ _ _ => Nat.zero_le _⟩
    | none =>
      rw [hlead] at h
      obtain ⟨⟨front, _⟩, hfound, hpair⟩ := Option.map_eq_some_iff.1 h
      obtain ⟨rfl, rfl⟩ := Prod.mk.inj hpair
      obtain ⟨hcs, hfirst⟩ := ih hfound
      refine ⟨by rw [hcs]; rfl, fun before' rest' hother => ?_⟩
      cases before' with
      | nil => exact absurd (hlead.symm.trans (dropLead_eq_some_iff.2 hother)) nofun
      | cons d before' =>
        exact Nat.succ_le_succ (hfirst before' rest' (List.cons.inj hother).2)

theorem splitFirst_eq_none_iff : splitFirst needle cs = none ↔ ¬needle <:+: cs := by
  constructor
  · rintro h ⟨front, back, rfl⟩
    induction front with
    | nil =>
      rw [List.nil_append] at h
      cases hcs : needle ++ back with
      | nil =>
        rw [hcs, splitFirst, (List.append_eq_nil_iff.1 hcs).1] at h
        cases h
      | cons c cs =>
        rw [hcs, splitFirst, dropLead_eq_some_iff.2 hcs.symm] at h
        cases h
    | cons c front ih =>
      rw [List.cons_append, List.cons_append, splitFirst] at h
      split at h
      · cases h
      · exact ih (Option.map_eq_none_iff.1 h)
  · intro h
    cases hsplit : splitFirst needle cs with
    | none => rfl
    | some cut =>
      have hcs := (of_splitFirst_eq_some hsplit).1
      exact absurd ⟨cut.1, cut.2, hcs.symm⟩ h

theorem splitFirst_eq_some_iff : splitFirst needle cs = some (before, rest) ↔
    cs = before ++ needle ++ rest ∧ FirstAt needle cs before := by
  refine ⟨of_splitFirst_eq_some, fun ⟨hcs, hfirst⟩ => ?_⟩
  cases hsplit : splitFirst needle cs with
  | none => exact absurd ⟨before, rest, hcs.symm⟩ (splitFirst_eq_none_iff.1 hsplit)
  | some cut =>
    obtain ⟨hcs', hfirst'⟩ := of_splitFirst_eq_some (Prod.eta cut ▸ hsplit)
    obtain rfl := hfirst'.unique hfirst
    rw [List.append_cancel_left (hcs.symm.trans hcs')]

/-- Behind the first of a single character nothing is cut off before it. -/
theorem splitFirst_singleton_eq_some_iff {c : Char} :
    splitFirst [c] cs = some (before, rest) ↔ cs = before ++ c :: rest ∧ c ∉ before := by
  rw [splitFirst_eq_some_iff, List.append_assoc, List.singleton_append]
  refine and_congr_right fun hcs => ⟨fun h hc => ?_, fun h => ⟨⟨rest, by simp [hcs]⟩, ?_⟩⟩
  · obtain ⟨front, back, rfl, -⟩ := List.eq_append_cons_of_mem hc
    have := h.2 front (back ++ c :: rest) (by simp [hcs])
    simp only [List.length_append, List.length_cons] at this
    omega
  · intro before' rest' hother
    rw [hcs, List.append_assoc] at hother
    rcases List.append_eq_append_iff.1 hother with ⟨a, rfl, -⟩ | ⟨a, rfl, ha⟩
    · simp
    · cases a with
      | nil => simp
      | cons d a =>
        obtain ⟨rfl, -⟩ := List.cons.inj ha
        exact absurd (by simp) h

/-! ### Blanks -/

/-- A piece of text with no blanks at its ends. -/
structure Solid (cs : List Char) : Prop where
  ne_nil : cs ≠ []
  head : ∀ c ∈ cs.head?, isBlank c = false
  last : ∀ c ∈ cs.getLast?, isBlank c = false

variable {a b blanks solid : List Char} {p : Char → Bool}

theorem Solid.of_ends {first last : Char} (hfirst : cs.head? = some first)
    (hlast : cs.getLast? = some last) (h : isBlank first = false) (h' : isBlank last = false) :
    Solid cs := by
  refine ⟨?_, fun c hc => ?_, fun c hc => ?_⟩
  · rintro rfl
    cases hfirst
  · exact Option.some.inj (hfirst.symm.trans hc) ▸ h
  · exact Option.some.inj (hlast.symm.trans hc) ▸ h'

theorem Solid.append_concat {c : Char} (h : Solid solid) (hc : isBlank c = false)
    (middle : List Char) : Solid (solid ++ middle ++ [c]) := by
  refine ⟨by simp, fun d hd => h.head d ?_, fun d hd => ?_⟩
  · cases solid with
    | nil => exact absurd rfl h.ne_nil
    | cons e solid => exact hd
  · obtain rfl : c = d := by simpa using hd
    exact hc

theorem dropWhile_append_append (ha : ∀ c ∈ a, p c = true) (hb : ∀ c ∈ b.head?, p c = false)
    (hne : b ≠ []) (rest : List Char) : (a ++ b ++ rest).dropWhile p = b ++ rest := by
  rw [List.append_assoc, List.dropWhile_append_of_pos ha]
  cases b with
  | nil => exact absurd rfl hne
  | cons c b => exact List.dropWhile_cons_of_neg (by simp [hb c rfl])

theorem dropWhile_beq_append {c : Char} (ha : ∀ d ∈ a, d = c) (hb : c ∉ b) (hne : b ≠ [])
    (rest : List Char) : (a ++ b ++ rest).dropWhile (· == c) = b ++ rest := by
  refine dropWhile_append_append (fun d hd => beq_iff_eq.2 (ha d hd)) (fun d hd => ?_) hne rest
  rw [beq_eq_false_iff_ne]
  rintro rfl
  exact hb (List.mem_of_mem_head? hd)

theorem eq_false_of_mem_head?_dropWhile {c : Char} (h : c ∈ (cs.dropWhile p).head?) :
    p c = false := by
  have hnot := List.head?_dropWhile_not p cs
  rw [Option.mem_def.1 h] at hnot
  exact hnot

theorem trimEnd_append (h : Solid solid) : trimEnd (solid ++ rest) = solid ++ trimEnd rest := by
  have hkeep : solid.reverse.dropWhile isBlank = solid.reverse := by
    have hhead : ∀ c ∈ solid.reverse.head?, isBlank c = false := by
      rw [List.head?_reverse]
      exact h.last
    have hne : solid.reverse ≠ [] := by simpa using h.ne_nil
    simpa using dropWhile_append_append (a := []) (by simp) hhead hne []
  rw [trimEnd, List.reverse_append, List.dropWhile_append, hkeep]
  split
  case isTrue hblank => simp [trimEnd, List.isEmpty_iff.1 hblank]
  case isFalse => simp [trimEnd]

theorem trim_append (hblanks : ∀ c ∈ blanks, isBlank c = true) (h : Solid solid)
    (rest : List Char) : trim (blanks ++ solid ++ rest) = solid ++ trimEnd rest := by
  rw [trim, trimStart, dropWhile_append_append hblanks h.head h.ne_nil, trimEnd_append h]

theorem trimEnd_of_blank (h : ∀ c ∈ blanks, isBlank c = true) : trimEnd blanks = [] := by
  rw [trimEnd, List.reverse_eq_nil_iff, List.dropWhile_eq_nil_iff]
  exact fun c hc => h c (List.mem_reverse.1 hc)

theorem not_mem_of_blank {c : Char} (h : ∀ d ∈ blanks, isBlank d = true)
    (hc : isBlank c = false) : c ∉ blanks := fun hmem =>
  Bool.false_ne_true (hc.symm.trans (h c hmem))

theorem exists_trimEnd (cs : List Char) :
    ∃ right, cs = trimEnd cs ++ right ∧ ∀ c ∈ right, isBlank c = true := by
  refine ⟨(cs.reverse.takeWhile isBlank).reverse, ?_, fun c hc => ?_⟩
  · rw [trimEnd, ← List.reverse_append, List.takeWhile_append_dropWhile, List.reverse_reverse]
  · exact List.all_eq_true.1 List.all_takeWhile c (List.mem_reverse.1 hc)

theorem exists_trim (cs : List Char) : ∃ left right, cs = left ++ trim cs ++ right ∧
    (∀ c ∈ left, isBlank c = true) ∧ ∀ c ∈ right, isBlank c = true := by
  obtain ⟨right, hcs, hright⟩ := exists_trimEnd (trimStart cs)
  refine ⟨cs.takeWhile isBlank, right, ?_, List.all_eq_true.1 List.all_takeWhile, hright⟩
  rw [trim, List.append_assoc, ← hcs, trimStart, List.takeWhile_append_dropWhile]

theorem solid_trim (h : trim cs ≠ []) : Solid (trim cs) := by
  refine ⟨h, fun c hc => ?_, fun c hc => ?_⟩
  · obtain ⟨right, hcs, -⟩ := exists_trimEnd (trimStart cs)
    have hhead : c ∈ (trimStart cs).head? := by
      rw [hcs, List.head?_append]
      change c ∈ (trim cs).head?.or right.head?
      rw [Option.mem_def.1 hc]
      rfl
    exact eq_false_of_mem_head?_dropWhile hhead
  · rw [trim, trimEnd, List.getLast?_reverse] at hc
    exact eq_false_of_mem_head?_dropWhile hc

/-! ### Pieces -/

variable {separator : Char} {piece : List Char}

theorem mem_splitWhere_iff {cs : List Char} : piece ∈ splitWhere (· == separator) cs ↔
    separator ∉ piece ∧ ∃ front back, cs = front ++ piece ++ back ∧
      (front = [] ∨ front.getLast? = some separator) ∧
      (back = [] ∨ back.head? = some separator) := by
  have hnot {l : List Char} (h : separator ∉ l) : ∀ c ∈ l, (c == separator) = false := fun c hc =>
    beq_eq_false_iff_ne.2 fun heq => h (heq ▸ hc)
  by_cases hmem : separator ∈ cs
  · obtain ⟨first, others, rfl, hfirst⟩ := List.eq_append_cons_of_mem hmem
    rw [splitWhere_append_cons (hnot hfirst) (beq_self_eq_true separator), List.mem_cons,
      mem_splitWhere_iff]
    constructor
    · rintro (rfl | ⟨hpiece, front, back, rfl, hfront, hback⟩)
      · exact ⟨hfirst, [], separator :: others, rfl, .inl rfl, .inr rfl⟩
      · refine ⟨hpiece, first ++ separator :: front, back, by simp, .inr ?_, hback⟩
        rcases hfront with rfl | hfront
        · simp
        · simp [List.getLast?_append, List.getLast?_cons, hfront]
    · rintro ⟨hpiece, front, back, hcut, rfl | hfront, hback⟩
      · left
        rcases List.append_eq_append_iff.1 hcut with ⟨a, rfl, ha⟩ | ⟨a, rfl, ha⟩
        · cases a with
          | nil => simp
          | cons d a =>
            obtain ⟨rfl, -⟩ := List.cons.inj ha
            exact absurd (by simp) hpiece
        · cases a with
          | nil => simp
          | cons d a =>
            have hd : d = separator := by simpa [ha] using hback
            exact absurd (hd ▸ by simp) hfirst
      · right
        obtain ⟨front, rfl⟩ := List.getLast?_eq_some_iff.1 hfront
        simp only [List.append_assoc, List.singleton_append] at hcut
        refine ⟨hpiece, ?_⟩
        rcases List.append_eq_append_iff.1 hcut with ⟨a, rfl, ha⟩ | ⟨a, rfl, ha⟩
        · cases a with
          | nil => exact ⟨[], back, by simpa using (List.cons.inj ha).2, .inl rfl, hback⟩
          | cons d a =>
            obtain ⟨rfl, rfl⟩ := List.cons.inj ha
            exact ⟨a ++ [separator], back, by simp, .inr (by simp), hback⟩
        · cases a with
          | nil => exact ⟨[], back, by simpa using (List.cons.inj ha).2.symm, .inl rfl, hback⟩
          | cons d a =>
            obtain ⟨rfl, -⟩ := List.cons.inj ha
            exact absurd (by simp) hfirst
  · rw [splitWhere_of_forall_not (hnot hmem), List.mem_singleton]
    constructor
    · rintro rfl
      exact ⟨hmem, [], [], by simp, .inl rfl, .inl rfl⟩
    · rintro ⟨-, front, back, rfl, hfront, hback⟩
      have hends {l : List Char} (hl : separator ∉ l) : l.getLast? ≠ some separator ∧
          l.head? ≠ some separator :=
        ⟨fun h => hl (List.mem_of_getLast? h), fun h => hl (List.mem_of_mem_head? h)⟩
      have hfront' := hfront.resolve_right (hends fun h => hmem (by simp [h])).1
      have hback' := hback.resolve_right (hends fun h => hmem (by simp [h])).2
      simp [hfront', hback']
termination_by cs.length

end

end Text

namespace Allowance

open Text

/-! ## The grammar of directives -/

/-- What may stand between a comment's opener and a directive. -/
def IsLead (lead : List Char) : Prop := ∀ c ∈ lead, c = '/' ∨ c = '*' ∨ isBlank c = true

/-- Slashes before stars and stars before blanks. -/
def IsTidyLead (lead : List Char) : Prop :=
  ∃ slashes stars blanks, lead = slashes ++ stars ++ blanks ∧ (∀ c ∈ slashes, c = '/') ∧
    (∀ c ∈ stars, c = '*') ∧ ∀ c ∈ blanks, isBlank c = true

/-- A directive from the comment's opener up to the end of the list of rules. -/
def IsDirective (Lead : List Char → Prop) (directive list : List Char) : Prop :=
  ∃ opener lead gap, (opener = "//".toList ∨ opener = "/*".toList) ∧ Lead lead ∧
    (∀ c ∈ gap, isBlank c = true) ∧ ')' ∉ list ∧
    directive = opener ++ lead ++ "compose-lint:".toList ++ gap ++ "allow(".toList ++ list ++ [')']

/-- An item of a list of rules: what stands between two commas, without the blanks around it. -/
def IsItem (list item : List Char) : Prop :=
  Solid item ∧ ',' ∉ item ∧ ∃ front left right back,
    list = front ++ (left ++ item ++ right) ++ back ∧
    (∀ c ∈ left, isBlank c = true) ∧ (∀ c ∈ right, isBlank c = true) ∧
    (front = [] ∨ front.getLast? = some ',') ∧ (back = [] ∨ back.head? = some ',')

/-- Whether a list of rules has `all` or one of the ids among its items. -/
def Lists (list : List Char) (ids : List String) : Prop :=
  ∃ item : String, IsItem list item.toList ∧ (item = "all" ∨ item ∈ ids)

/-- The part of a line before the place where a comment is looked for. -/
def IsMark (line before : List Char) : Prop :=
  FirstAt "//".toList line before ∨
    ¬"//".toList <:+: line ∧ FirstAt "/*".toList line before

section
variable {line list item before comment : List Char} {ids : List String}

theorem mem_rules_iff : item ∈ ((splitWhere (· == ',') list).map trim).filter (!·.isEmpty) ↔
    IsItem list item := by
  simp only [List.mem_filter, List.mem_map, mem_splitWhere_iff]
  constructor
  · rintro ⟨⟨piece, ⟨hpiece, front, back, rfl, hfront, hback⟩, rfl⟩, hne⟩
    obtain ⟨left, right, hcut, hleft, hright⟩ := exists_trim piece
    refine ⟨solid_trim (by simpa using hne), fun h => hpiece ?_, front, left, right, back, ?_,
      hleft, hright, hfront, hback⟩
    · rw [hcut]
      simp [h]
    · rw [← hcut]
  · rintro ⟨hsolid, hitem, front, left, right, back, rfl, hleft, hright, hfront, hback⟩
    refine ⟨⟨left ++ item ++ right, ⟨?_, front, back, rfl, hfront, hback⟩, ?_⟩, ?_⟩
    · have hcomma : isBlank ',' = false := by decide
      simp [hitem, not_mem_of_blank hleft hcomma, not_mem_of_blank hright hcomma]
    · rw [trim_append hleft hsolid right, trimEnd_of_blank hright, List.append_nil]
    · simpa using hsolid.ne_nil

/-- The text that is read as a comment stands behind the mark. -/
theorem commentOf_eq_some_iff : commentOf line = some comment ↔
    ∃ before opener after, IsMark line before ∧ (opener = "//".toList ∨ opener = "/*".toList) ∧
      line = before ++ opener ++ after ∧
      comment = trim ((after.dropWhile (· == '/')).dropWhile (· == '*')) := by
  rw [commentOf, Option.map_eq_some_iff]
  constructor
  · rintro ⟨⟨before, after⟩, hcut, rfl⟩
    rcases Option.or_eq_some_iff.1 hcut with hcut | ⟨hnone, hcut⟩
    · obtain ⟨hline, hfirst⟩ := splitFirst_eq_some_iff.1 hcut
      exact ⟨before, _, after, .inl hfirst, .inl rfl, hline, rfl⟩
    · obtain ⟨hline, hfirst⟩ := splitFirst_eq_some_iff.1 hcut
      exact ⟨before, _, after, .inr ⟨splitFirst_eq_none_iff.1 hnone, hfirst⟩, .inr rfl, hline, rfl⟩
  · rintro ⟨before, opener, after, hmark, hopener, hline, rfl⟩
    refine ⟨(before, after), ?_, rfl⟩
    have hsame {needle rest : List Char} (hlength : needle.length = 2)
        (hcut : line = before ++ needle ++ rest) : line = before ++ needle ++ after := by
      rw [hline, List.append_assoc, List.append_assoc, List.append_cancel_left_eq] at hcut
      have hopener : opener.length = needle.length := by
        rcases hopener with rfl | rfl <;> exact hlength.symm
      rw [hline, (List.append_inj hcut hopener).1]
    rw [Option.or_eq_some_iff]
    rcases hmark with hfirst | ⟨hnone, hfirst⟩
    · obtain ⟨rest, hcut⟩ := hfirst.1
      exact .inl (splitFirst_eq_some_iff.2 ⟨hsame rfl hcut, hfirst⟩)
    · obtain ⟨rest, hcut⟩ := hfirst.1
      exact .inr ⟨splitFirst_eq_none_iff.2 hnone, splitFirst_eq_some_iff.2 ⟨hsame rfl hcut, hfirst⟩⟩

theorem covers_iff {allowance : Allowance} : allowance.covers ids = true ↔
    ∃ item ∈ allowance.rules, item = "all" ∨ item ∈ ids := by
  simp only [covers, Bool.or_eq_true, List.contains_iff_mem, List.any_eq_true]
  constructor
  · rintro (hall | ⟨id, hid, hmem⟩)
    · exact ⟨_, hall, .inl rfl⟩
    · exact ⟨id, hmem, .inr hid⟩
  · rintro ⟨item, hmem, rfl | hid⟩
    · exact .inl hmem
    · exact .inr ⟨item, hid, hmem⟩

/-- The steps from behind the opener to the list of rules. -/
theorem exists_list_iff {after : List Char} :
    (∃ marked allow rest,
      dropLead "compose-lint:".toList
        (trim ((after.dropWhile (· == '/')).dropWhile (· == '*'))) = some marked ∧
      dropLead "allow(".toList (trim marked) = some allow ∧
      splitFirst [')'] allow = some (list, rest)) ↔
    ∃ lead gap rest, IsTidyLead lead ∧ (∀ c ∈ gap, isBlank c = true) ∧ ')' ∉ list ∧
      after = lead ++ "compose-lint:".toList ++ gap ++ "allow(".toList ++ list ++ ')' :: rest := by
  simp only [dropLead_eq_some_iff, splitFirst_singleton_eq_some_iff]
  constructor
  · rintro ⟨marked, allow, rest, hmarked, hallow, rfl, hlist⟩
    obtain ⟨blanks, tail, hbody, hblanks, -⟩ :=
      exists_trim ((after.dropWhile (· == '/')).dropWhile (· == '*'))
    obtain ⟨gap, tail', hbody', hgap, -⟩ := exists_trim marked
    refine ⟨after.takeWhile (· == '/') ++ (after.dropWhile (· == '/')).takeWhile (· == '*') ++
      blanks, gap, rest ++ tail' ++ tail, ⟨_, _, blanks, rfl, ?_, ?_, hblanks⟩, hgap, hlist, ?_⟩
    · exact fun c hc => by simpa using List.mem_takeWhile_imp hc
    · exact fun c hc => by simpa using List.mem_takeWhile_imp hc
    · calc after
        _ = after.takeWhile (· == '/') ++ ((after.dropWhile (· == '/')).takeWhile (· == '*') ++
            (after.dropWhile (· == '/')).dropWhile (· == '*')) := by
          rw [List.takeWhile_append_dropWhile, List.takeWhile_append_dropWhile]
        _ = _ := by
          rw [hbody, hmarked, hbody', hallow]
          simp only [List.append_assoc, List.cons_append]
  · rintro ⟨_, gap, rest, hlead, hgap, hlist, rfl⟩
    obtain ⟨slashes, stars, blanks, rfl, hslashes, hstars, hblanks⟩ := hlead
    have hmarker : Solid "compose-lint:".toList :=
      .of_ends (show _ = some 'c' by decide) (show _ = some ':' by decide) (by decide) (by decide)
    have hallow : Solid "allow(".toList :=
      .of_ends (show _ = some 'a' by decide) (show _ = some '(' by decide) (by decide) (by decide)
    refine ⟨gap ++ "allow(".toList ++ list ++ [')'] ++ trimEnd rest,
      list ++ ')' :: trimEnd (trimEnd rest), trimEnd (trimEnd rest), ?_, ?_, rfl, hlist⟩
    · have hslash : '/' ∉ stars ++ blanks ++ "compose-lint:".toList := by
        simp only [List.mem_append, not_or]
        exact ⟨⟨fun h => absurd (hstars _ h) (by decide), not_mem_of_blank hblanks (by decide)⟩,
          by decide⟩
      have hstar : '*' ∉ blanks ++ "compose-lint:".toList := by
        simp only [List.mem_append, not_or]
        exact ⟨not_mem_of_blank hblanks (by decide), by decide⟩
      have hslashes := dropWhile_beq_append hslashes hslash (by simp)
      have hstars := dropWhile_beq_append hstars hstar (by simp)
      have htrim := trim_append hblanks
        (hmarker.append_concat (c := ')') (by decide) (gap ++ "allow(".toList ++ list)) rest
      simp only [List.append_assoc, List.cons_append, List.nil_append] at hslashes hstars htrim ⊢
      rw [hslashes, hstars, htrim]
    · have htrim := trim_append hgap (hallow.append_concat (c := ')') (by decide) list)
        (trimEnd rest)
      simp only [List.append_assoc, List.cons_append, List.nil_append] at htrim ⊢
      rw [htrim]

theorem covers_mk_iff {reason : Option String} :
    (Allowance.mk ((((splitWhere (· == ',') list).map trim).filter (!·.isEmpty)).map String.ofList)
      reason).covers ids = true ↔ Lists list ids := by
  rw [covers_iff]
  constructor
  · rintro ⟨_, hmem, hid⟩
    obtain ⟨item, hitem, rfl⟩ := List.mem_map.1 hmem
    refine ⟨_, ?_, hid⟩
    rw [String.toList_ofList]
    exact mem_rules_iff.1 hitem
  · rintro ⟨item, hitem, hid⟩
    exact ⟨item, List.mem_map.2 ⟨_, mem_rules_iff.2 hitem, String.ofList_toList⟩, hid⟩

/-- A line's directive is read if it starts at the mark. -/
theorem read?_covers_iff :
    (∃ allowance, read? line = some allowance ∧ allowance.covers ids = true) ↔
      ∃ before directive list, IsMark line before ∧ IsDirective IsTidyLead directive list ∧
        before ++ directive <+: line ∧ Lists list ids := by
  simp only [read?, bind, Option.bind_eq_some_iff, Prod.exists, Option.ite_none_left_eq_some,
    Option.some.injEq]
  constructor
  · rintro ⟨_, ⟨_, hcomment, marked, hmarked, allow, hallow, list, rest, hlist, -, rfl⟩, hcovers⟩
    obtain ⟨before, opener, after, hmark, hopener, rfl, rfl⟩ := commentOf_eq_some_iff.1 hcomment
    obtain ⟨lead, gap, rest', hlead, hgap, hclose, rfl⟩ :=
      exists_list_iff.1 ⟨marked, allow, rest, hmarked, hallow, hlist⟩
    exact ⟨before, _, list, hmark, ⟨opener, lead, gap, hopener, hlead, hgap, hclose, rfl⟩,
      ⟨rest', by simp⟩, covers_mk_iff.1 hcovers⟩
  · rintro ⟨before, _, list, hmark, ⟨opener, lead, gap, hopener, hlead, hgap, hclose, rfl⟩,
      ⟨rest, hline⟩, hlists⟩
    obtain ⟨marked, allow, rest', hmarked, hallow, hlist⟩ :=
      exists_list_iff.2 ⟨lead, gap, rest, hlead, hgap, hclose, rfl⟩
    have hcut : line = before ++ opener ++ (lead ++ "compose-lint:".toList ++ gap ++
        "allow(".toList ++ list ++ ')' :: rest) := by
      rw [← hline]
      simp only [List.append_assoc, List.cons_append, List.nil_append]
    have hcomment := commentOf_eq_some_iff.2 ⟨before, opener, _, hmark, hopener, hcut, rfl⟩
    obtain ⟨item, hitem, -⟩ := id hlists
    refine ⟨_, ⟨_, hcomment, marked, hmarked, allow, hallow, list, rest', hlist, ?_, rfl⟩,
      covers_mk_iff.2 hlists⟩
    rw [List.isEmpty_iff]
    exact List.ne_nil_of_mem (mem_rules_iff.2 hitem)

/-- A finding is allowed by a directive at the mark of its line or of the line above. -/
theorem isSome_at?_iff {lines : List String} {number : Nat} :
    (at? lines number ids).isSome = true ↔ ∃ line text, (line = number - 1 ∨ line = number) ∧
      line ≠ 0 ∧ lines[line - 1]? = some text ∧
      ∃ before directive list, IsMark text.toList before ∧
        IsDirective IsTidyLead directive list ∧ before ++ directive <+: text.toList ∧
        Lists list ids := by
  simp only [← read?_covers_iff, at?, List.findSome?_isSome_iff, List.mem_cons, List.not_mem_nil,
    or_false]
  refine exists_congr fun line => ?_
  by_cases hzero : line = 0
  · simp [hzero]
  cases hget : lines[line - 1]? with
  | none => simp [hzero]
  | some text =>
    cases hread : read? text.toList with
    | none => simp [hzero, hread]
    | some allowance => simp [hzero, hread]

end

end Allowance

end ComposeCheck
