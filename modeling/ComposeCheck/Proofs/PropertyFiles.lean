import ComposeCheck.Options.Source
import ComposeCheck.Proofs.Directives
import Mathlib.Data.List.Basic
import Mathlib.Data.List.Induction

/-!
# What a property file says

A property file is read line by line, with a note of whether the current section counts. As a whole
it says under a key what the last line says that writes there, among the lines before the first
section and those of sections about Kotlin sources (`lookup_parse_eq_some_iff`). An option stands
under its name in snake case, and no two names of ASCII letters and digits are spelt alike
(`underscored_inj`), so a line speaks for one option only (`resolve_reads_last_line`).
-/

namespace ComposeCheck

open Text

namespace Text

section
variable {tail cs front : List Char}

theorem dropTail_eq_some_iff : dropTail tail cs = some front ↔ cs = front ++ tail := by
  rw [dropTail, Option.map_eq_some_iff]
  constructor
  · rintro ⟨rest, hrest, rfl⟩
    rw [← List.reverse_reverse cs, dropLead_eq_some_iff.1 hrest, List.reverse_append,
      List.reverse_reverse]
  · rintro rfl
    exact ⟨front.reverse, dropLead_eq_some_iff.2 List.reverse_append, List.reverse_reverse front⟩

end

end Text

/-! ### The last of a kind -/

section
variable {α : Type} {p : List α → α → Prop} {xs : List α} {x last : α}

/-- The last item of a list with a property, which may depend on the items before it. -/
def IsLast (p : List α → α → Prop) (xs : List α) (last : α) : Prop :=
  ∃ before after, xs = before ++ last :: after ∧ p before last ∧
    ∀ front later back, after = front ++ later :: back → ¬p (before ++ last :: front) later

theorem not_isLast_nil : ¬IsLast p [] last := by
  rintro ⟨before, after, h, -⟩
  simp at h

theorem isLast_concat_of (h : p xs x) : IsLast p (xs ++ [x]) last ↔ last = x := by
  constructor
  · rintro ⟨before, after, hlist, hlast, hafter⟩
    rcases List.eq_nil_or_concat after with rfl | ⟨front, later, rfl⟩
    · exact (List.singleton_inj.1 (List.append_inj' hlist rfl).2).symm
    · rw [List.concat_eq_append, ← List.cons_append, ← List.append_assoc] at hlist
      obtain ⟨rfl, hx⟩ := List.append_inj' hlist rfl
      refine absurd h ?_
      rw [List.singleton_inj.1 hx]
      exact hafter front later [] (List.concat_eq_append ..)
  · rintro rfl
    exact ⟨xs, [], rfl, h, fun front later back hnil => by simp at hnil⟩

theorem isLast_concat_of_not (h : ¬p xs x) : IsLast p (xs ++ [x]) last ↔ IsLast p xs last := by
  constructor
  · rintro ⟨before, after, hlist, hlast, hafter⟩
    rcases List.eq_nil_or_concat after with rfl | ⟨front, later, rfl⟩
    · obtain ⟨rfl, hx⟩ := List.append_inj' hlist rfl
      rw [List.singleton_inj.1 hx] at h
      exact absurd hlast h
    · rw [List.concat_eq_append, ← List.cons_append, ← List.append_assoc] at hlist
      obtain ⟨rfl, -⟩ := List.append_inj' hlist rfl
      refine ⟨before, front, rfl, hlast, fun front' later' back hfront => ?_⟩
      exact hafter front' later' (back ++ [later]) (by simp [hfront])
  · rintro ⟨before, after, rfl, hlast, hafter⟩
    refine ⟨before, after ++ [x], by simp, hlast, fun front later back hback => ?_⟩
    rcases List.eq_nil_or_concat back with rfl | ⟨back, y, rfl⟩
    · obtain ⟨rfl, hx⟩ := List.append_inj' hback rfl
      rwa [← List.singleton_inj.1 hx]
    · rw [List.concat_eq_append, ← List.cons_append, ← List.append_assoc] at hback
      exact hafter front later back (List.append_inj' hback rfl).1

end

namespace EditorConfig

/-! ### Lines -/

/-- A line is a comment. -/
def IsComment (line : List Char) : Prop := line.head? = some '#' ∨ line.head? = some ';'

/-- A line is the header of the section with this glob. -/
def IsHeader (line glob : List Char) : Prop :=
  ∃ inside, line = '[' :: inside ++ [']'] ∧ glob = trim inside

/-- A line writes a value under a key, in small letters: it is no comment and no header, and the key
stands before its first `=`. -/
def Writes (line : List Char) (key value : String) : Prop :=
  ¬IsComment line ∧ (∀ glob, ¬IsHeader line glob) ∧ ∃ before after,
    line = before ++ '=' :: after ∧ '=' ∉ before ∧
    key = String.ofList ((trim before).map asciiLower) ∧ value = String.ofList (trim after)

/-- A line begins a section, whatever stands before it. -/
def Begins (_before : List (List Char)) (line : List Char) : Prop := ∃ glob, IsHeader line glob

/-- What follows these lines counts: no section has begun yet, or the last one that has is about
Kotlin sources. -/
def Counts (lines : List (List Char)) : Prop :=
  (∀ line ∈ lines, ∀ glob, ¬IsHeader line glob) ∨
    ∃ header glob, IsLast Begins lines header ∧ IsHeader header glob ∧ appliesToKotlin glob = true

/-- Behind these lines a line writes under a key, and it counts. -/
def Sets (key : String) (before : List (List Char)) (line : List Char) : Prop :=
  Counts before ∧ ∃ value, Writes line key value

/-- The last line that counts and writes under a key gives it this value. -/
def Says (lines : List (List Char)) (key value : String) : Prop :=
  ∃ last, IsLast (Sets key) lines last ∧ Writes last key value

/-- The lines of a file without the blanks around them. -/
def trimmedLines (content : String) : List (List Char) := (linesOf content.toList).map trim

section
variable {line glob other : List Char} {key value key' value' : String}

theorem IsHeader.unique (h : IsHeader line glob) (h' : IsHeader line other) : glob = other := by
  obtain ⟨inside, hline, rfl⟩ := h
  obtain ⟨inside', hline', rfl⟩ := h'
  rw [hline, List.cons_append, List.cons_append] at hline'
  rw [List.append_cancel_right (List.cons.inj hline').2]

theorem Writes.unique (h : Writes line key value) (h' : Writes line key' value') :
    key = key' ∧ value = value' := by
  obtain ⟨-, -, before, after, hline, hbefore, rfl, rfl⟩ := h
  obtain ⟨-, -, before', after', hline', hbefore', rfl, rfl⟩ := h'
  have hcut := splitFirst_singleton_eq_some_iff.2 ⟨hline, hbefore⟩
  have hcut' := splitFirst_singleton_eq_some_iff.2 ⟨hline', hbefore'⟩
  obtain ⟨rfl, rfl⟩ := Prod.mk.inj (Option.some.inj (hcut.symm.trans hcut'))
  exact ⟨rfl, rfl⟩

theorem isHeader_cons_iff {first : Char} {rest : List Char} : IsHeader (first :: rest) glob ↔
    ∃ inside, (if first = '[' then dropTail [']'] rest else none) = some inside ∧
      glob = trim inside := by
  refine exists_congr fun inside => and_congr_left fun _ => ?_
  rw [List.cons_append, List.cons.injEq]
  split
  case isTrue h => simp [h, dropTail_eq_some_iff]
  case isFalse h => simp [h]

/-- Reading one line on top of what has been read. -/
theorem step_cases (state : State) (line : List Char) :
    (∃ glob, IsHeader line glob ∧ step state (.read line) = (appliesToKotlin glob, state.2)) ∨
    (∃ key value, Writes line key value ∧
      step state (.read line) = (state.1, if state.1 then (key, value) :: state.2 else state.2)) ∨
    (∀ glob, ¬IsHeader line glob) ∧ (∀ key value, ¬Writes line key value) ∧
      step state (.read line) = state := by
  have hcomment (h : IsComment line) (glob : List Char) : ¬IsHeader line glob := by
    rintro ⟨inside, rfl, -⟩
    simp [IsComment] at h
  unfold Line.read
  split
  case h_1 =>
    exact .inr (.inr ⟨fun _ h => by simp [IsHeader] at h, fun _ _ h => by simp [Writes] at h, rfl⟩)
  case h_2 =>
    exact .inr (.inr ⟨hcomment (.inl rfl), fun _ _ h => h.1 (.inl rfl), rfl⟩)
  case h_3 =>
    exact .inr (.inr ⟨hcomment (.inr rfl), fun _ _ h => h.1 (.inr rfl), rfl⟩)
  case h_4 first rest hhash hsemicolon =>
    have hplain : ¬IsComment (first :: rest) := by
      rintro (h | h) <;> cases h
      · exact hhash rfl
      · exact hsemicolon rfl
    split
    case h_1 inside hinside =>
      exact .inl ⟨trim inside, isHeader_cons_iff.2 ⟨inside, hinside, rfl⟩, rfl⟩
    case h_2 hnone =>
      have hheader (glob : List Char) : ¬IsHeader (first :: rest) glob := fun h => by
        obtain ⟨inside, hinside, -⟩ := isHeader_cons_iff.1 h
        exact nomatch hnone.symm.trans hinside
      split
      case h_1 before after hcut =>
        obtain ⟨hline, hbefore⟩ := splitFirst_singleton_eq_some_iff.1 hcut
        refine .inr (.inl ⟨_, _, ⟨hplain, hheader, before, after, hline, hbefore, rfl, rfl⟩, ?_⟩)
        obtain ⟨_ | _, found⟩ := state <;> rfl
      case h_2 hcut =>
        refine .inr (.inr ⟨hheader, ?_, rfl⟩)
        rintro key value ⟨-, -, before, after, hline, hbefore, -, -⟩
        exact nomatch hcut.symm.trans (splitFirst_singleton_eq_some_iff.2 ⟨hline, hbefore⟩)

end

/-! ### Files -/

/-- What has been read behind some lines. -/
def readLines (lines : List (List Char)) : State :=
  lines.foldl (fun state line => step state (.read line)) (true, [])

section
variable {lines : List (List Char)} {line glob : List Char} {key value other : String}

theorem properties_parse (content : String) :
    (parse content).properties = (readLines (trimmedLines content)).2 := by
  rw [readLines, trimmedLines, List.foldl_map]
  rfl

theorem readLines_concat (lines : List (List Char)) (line : List Char) :
    readLines (lines ++ [line]) = step (readLines lines) (.read line) := by
  rw [readLines, List.foldl_append]
  rfl

theorem counts_concat_of_header (h : IsHeader line glob) :
    Counts (lines ++ [line]) ↔ appliesToKotlin glob = true := by
  have hbegins : Begins lines line := ⟨glob, h⟩
  constructor
  · rintro (hnone | ⟨header, glob', hlast, hheader, happlies⟩)
    · exact absurd h (hnone line (by simp) glob)
    · obtain rfl := (isLast_concat_of hbegins).1 hlast
      rwa [h.unique hheader]
  · exact fun happlies => .inr ⟨line, glob, (isLast_concat_of hbegins).2 rfl, h, happlies⟩

theorem counts_concat (h : ∀ glob, ¬IsHeader line glob) :
    Counts (lines ++ [line]) ↔ Counts lines := by
  have hbegins : ¬Begins lines line := not_exists.2 h
  simp only [Counts, isLast_concat_of_not hbegins, List.forall_mem_append,
    List.forall_mem_singleton, h, not_false_eq_true, implies_true, and_true]

theorem fst_readLines : (readLines lines).1 = true ↔ Counts lines := by
  induction lines using List.reverseRecOn with
  | nil => exact ⟨fun _ => .inl (by simp), fun _ => rfl⟩
  | append_singleton lines line ih =>
    rw [readLines_concat]
    obtain ⟨glob, hheader, hstep⟩ | ⟨key, value, hwrites, hstep⟩ | ⟨hheader, -, hstep⟩ :=
      step_cases (readLines lines) line <;> rw [hstep]
    · rw [counts_concat_of_header hheader]
    · rw [counts_concat hwrites.2.1, ih]
    · rw [counts_concat hheader, ih]

theorem says_concat_of_writes (hcounts : Counts lines) (h : Writes line key value) :
    Says (lines ++ [line]) key other ↔ value = other := by
  have hsets : Sets key lines line := ⟨hcounts, value, h⟩
  simp only [Says, isLast_concat_of hsets, exists_eq_left]
  exact ⟨fun h' => (h.unique h').2, fun heq => heq ▸ h⟩

theorem says_concat (h : ¬Sets key lines line) :
    Says (lines ++ [line]) key other ↔ Says lines key other := by
  simp only [Says, isLast_concat_of_not h]

theorem lookup_readLines : (readLines lines).2.lookup key = some other ↔ Says lines key other := by
  induction lines using List.reverseRecOn with
  | nil =>
    constructor
    · exact nofun
    · rintro ⟨last, hlast, -⟩
      exact absurd hlast not_isLast_nil
  | append_singleton lines line ih =>
    rw [readLines_concat]
    obtain ⟨glob, hheader, hstep⟩ | ⟨written, value, hwrites, hstep⟩ | ⟨-, hnone, hstep⟩ :=
      step_cases (readLines lines) line <;> rw [hstep]
    · rw [ih, says_concat fun ⟨_, _, h⟩ => h.2.1 glob hheader]
    · by_cases hcounts : Counts lines
      · rw [if_pos (fst_readLines.2 hcounts), List.lookup_cons]
        by_cases hkey : key = written
        · subst hkey
          rw [says_concat_of_writes hcounts hwrites, beq_self_eq_true]
          exact Option.some_inj
        · rw [beq_false_of_ne hkey, says_concat fun ⟨_, _, h⟩ => hkey (h.unique hwrites).1]
          exact ih
      · rw [if_neg (mt fst_readLines.1 hcounts), ih, says_concat fun h => hcounts h.1]
    · rw [ih, says_concat fun ⟨_, value, h⟩ => hnone key value h]

theorem lookup_parse_eq_some_iff {content : String} :
    (parse content).lookup key = some value ↔ Says (trimmedLines content) key value := by
  rw [lookup, properties_parse, lookup_readLines]

end

end EditorConfig

/-! ### Names of options -/

/-- ASCII letters and digits, a small letter first. -/
def IsOptionName (name : String) : Prop :=
  (∃ first, name.toList.head? = some first ∧ first.isLower = true) ∧
    ∀ c ∈ name.toList, c.isAlphanum = true

namespace Text

/-- A letter of a name in snake case: an underscore and the small letter for a capital one. -/
def underscoredChar (c : Char) : List Char := if c.isUpper then ['_', c.toLower] else [c]

/-- The snake case of a name of ASCII letters and digits. -/
def underscored (name : String) : String := String.ofList (name.toList.flatMap underscoredChar)

section
variable {c d : Char} {cs ds : List Char} {name other : String}

theorem between_iff {lo hi : Char} :
    lo.val ≤ c.val ∧ c.val ≤ hi.val ↔ lo.toNat ≤ c.toNat ∧ c.toNat ≤ hi.toNat :=
  and_congr UInt32.le_iff_toNat_le UInt32.le_iff_toNat_le

theorem isUpper_iff : c.isUpper = true ↔ 65 ≤ c.toNat ∧ c.toNat ≤ 90 :=
  decide_eq_true_iff.trans between_iff

theorem isLower_iff : c.isLower = true ↔ 97 ≤ c.toNat ∧ c.toNat ≤ 122 :=
  (Bool.and_eq_true_iff.trans (and_congr decide_eq_true_iff decide_eq_true_iff)).trans between_iff

theorem isDigit_iff : c.isDigit = true ↔ 48 ≤ c.toNat ∧ c.toNat ≤ 57 :=
  (Bool.and_eq_true_iff.trans (and_congr decide_eq_true_iff decide_eq_true_iff)).trans between_iff

theorem toNat_lt_of_isAlphanum (h : c.isAlphanum = true) : c.toNat < 128 := by
  change ((c.isUpper || c.isLower) || c.isDigit) = true at h
  rw [Bool.or_eq_true, Bool.or_eq_true, isUpper_iff, isLower_iff, isDigit_iff] at h
  omega

/-- Only the first run of capital letters begins in ASCII. -/
theorem isUpper_eq (h : c.toNat < 128) : isUpper c = c.isUpper := by
  have hruns : Table.uppercase = (65, 90, 1) :: Table.uppercase.tail := rfl
  have hbeyond : ∀ run ∈ Table.uppercase.tail, 128 ≤ run.1 := by decide +kernel
  have hnone : Table.uppercase.tail.any (Table.inRun c.toNat) = false := by
    refine List.any_eq_false.2 fun run hrun => ?_
    have hfirst := hbeyond run hrun
    simp only [Table.inRun, Bool.and_eq_true, decide_eq_true_eq]
    omega
  rw [isUpper, hruns, List.any_cons, hnone, Bool.or_false, Bool.eq_iff_iff, isUpper_iff]
  simp [Table.inRun, Nat.mod_one]

theorem lowerOf_eq (h : c.toNat < 128) (hupper : c.isUpper = true) : lowerOf c = [c.toLower] := by
  have hascii : ∀ n < 128, (Char.ofNat n).isUpper = true →
      lowerOf (Char.ofNat n) = [(Char.ofNat n).toLower] := by decide +kernel
  simpa [hupper] using hascii c.toNat h

theorem toUpper_toLower (h : c.toNat < 128) (hupper : c.isUpper = true) :
    c.toLower.toUpper = c := by
  have hascii : ∀ n < 128, (Char.ofNat n).isUpper = true →
      (Char.ofNat n).toLower.toUpper = Char.ofNat n := by decide +kernel
  simpa [hupper] using hascii c.toNat h

theorem ne_underscore (h : c.isAlphanum = true) : c ≠ '_' := by
  rintro rfl
  exact absurd h (by decide)

theorem snakeCase_eq_underscored (h : IsOptionName name) : snakeCase name = underscored name := by
  obtain ⟨⟨first, hfirst, hlower⟩, hname⟩ := h
  obtain ⟨rest, hrest⟩ := List.head?_eq_some_iff.1 hfirst
  rw [hrest] at hname
  have hspelt {c : Char} (hc : c.isAlphanum = true) :
      (if isUpper c then '_' :: lowerOf c else [c]) = underscoredChar c := by
    have hlt := toNat_lt_of_isAlphanum hc
    rw [isUpper_eq hlt, underscoredChar]
    split
    case isTrue hupper => rw [lowerOf_eq hlt hupper]
    case isFalse => rfl
  have hsmall : first.isUpper = false := by
    rw [Bool.eq_false_iff, ne_eq, isUpper_iff]
    have hcode := isLower_iff.1 hlower
    omega
  rw [snakeCase, underscored, hrest, snakeChars, List.flatMap_cons,
    isUpper_eq (toNat_lt_of_isAlphanum (hname first List.mem_cons_self)), underscoredChar, hsmall]
  refine congrArg (fun spelt => String.ofList ([first] ++ spelt)) ?_
  exact List.flatMap_congr fun c hc => hspelt (hname c (List.mem_cons_of_mem _ hc))

theorem flatMap_underscoredChar_inj (hcs : ∀ c ∈ cs, c.isAlphanum = true)
    (hds : ∀ d ∈ ds, d.isAlphanum = true)
    (h : cs.flatMap underscoredChar = ds.flatMap underscoredChar) : cs = ds := by
  induction cs generalizing ds with
  | nil =>
    cases ds with
    | nil => rfl
    | cons d ds =>
      rw [List.flatMap_cons, underscoredChar] at h
      split at h <;> cases h
  | cons c cs ih =>
    cases ds with
    | nil =>
      rw [List.flatMap_cons, underscoredChar] at h
      split at h <;> cases h
    | cons d ds =>
      obtain ⟨hc, hcs'⟩ := List.forall_mem_cons.1 hcs
      obtain ⟨hd, hds'⟩ := List.forall_mem_cons.1 hds
      rw [List.flatMap_cons, List.flatMap_cons, underscoredChar, underscoredChar] at h
      split at h <;> split at h
      case isTrue.isTrue hcupper hdupper =>
        obtain ⟨-, h⟩ := List.cons.inj h
        obtain ⟨hlower, h⟩ := List.cons.inj h
        rw [ih hcs' hds' h, ← toUpper_toLower (toNat_lt_of_isAlphanum hc) hcupper, hlower,
          toUpper_toLower (toNat_lt_of_isAlphanum hd) hdupper]
      case isTrue.isFalse => exact absurd (List.cons.inj h).1.symm (ne_underscore hd)
      case isFalse.isTrue => exact absurd (List.cons.inj h).1 (ne_underscore hc)
      case isFalse.isFalse =>
        obtain ⟨rfl, htails⟩ := List.cons.inj h
        rw [ih hcs' hds' htails]

theorem underscored_inj (h : IsOptionName name) (h' : IsOptionName other) :
    underscored name = underscored other ↔ name = other := by
  refine ⟨fun heq => ?_, congrArg underscored⟩
  exact String.toList_inj.1 (flatMap_underscoredChar_inj h.2 h'.2 (String.ofList_injective heq))

end

end Text

namespace EditorConfig

/-- An option has the value of the last line that counts and writes under its key, and it has none
if there is no such line. The keys of two options differ, so a line for one of them never speaks for
the other. -/
theorem resolve_reads_last_line (content : String) {name : String} (h : IsOptionName name) :
    (∀ value, (OptionSource.editorConfig (parse content)).resolve name = some value ↔
      Says (trimmedLines content) ("compose_" ++ underscored name) value) ∧
    ∀ other, IsOptionName other → other ≠ name →
      "compose_" ++ underscored other ≠ "compose_" ++ underscored name ∧
      ∀ line value value', Writes line ("compose_" ++ underscored other) value →
        ¬Writes line ("compose_" ++ underscored name) value' := by
  constructor
  · intro value
    rw [OptionSource.resolve, OptionSource.keyFor, snakeCase_eq_underscored h]
    exact lookup_parse_eq_some_iff
  · intro other hother hne
    have hkeys : "compose_" ++ underscored other ≠ "compose_" ++ underscored name := fun hkeys =>
      hne ((underscored_inj hother h).1 (String.append_right_inj _ |>.1 hkeys))
    exact ⟨hkeys, fun line value value' hline hline' => hkeys (hline.unique hline').1⟩

/-- A file with a section about other sources, a comment, and keys written in any case. -/
def themeFile : String :=
  "root = true\n[*.md]\ncompose_content_emitters = Ignored\n[*.\x7bkt,kts\x7d]\n" ++
  "compose_content_emitters = First\n; compose_content_emitters = Second\n" ++
  " Compose_Content_Emitters = a = b \r\ncompose_content_emitters_denylist = Title\n"

theorem resolve_reads_last_line_theme :
    IsOptionName "contentEmitters" ∧ IsOptionName "contentEmittersDenylist" ∧
    (OptionSource.editorConfig (parse themeFile)).resolve "contentEmitters" = some "a = b" ∧
    Says (trimmedLines themeFile) "compose_content_emitters" "a = b" ∧
    "compose_" ++ underscored "contentEmittersDenylist" ≠
      "compose_" ++ underscored "contentEmitters" := by
  have hname : IsOptionName "contentEmitters" :=
    ⟨⟨'c', rfl, rfl⟩, List.all_eq_true.1 (by decide)⟩
  have hother : IsOptionName "contentEmittersDenylist" :=
    ⟨⟨'c', rfl, rfl⟩, List.all_eq_true.1 (by decide)⟩
  obtain ⟨hreads, hapart⟩ := resolve_reads_last_line themeFile hname
  have hvalue : (OptionSource.editorConfig (parse themeFile)).resolve "contentEmitters" =
      some "a = b" := by decide +kernel
  exact ⟨hname, hother, hvalue, (hreads _).1 hvalue, (hapart _ hother (by decide)).1⟩

end EditorConfig

end ComposeCheck
