import ComposeCheck.Proofs.Spans
import ComposeCheck.Text.Chars

/-!
# Lines of a text

A position is looked up in bytes and a line is read in characters. Both sides agree: the bytes
before an offset fall into whole lines and the part of the offset's own line
(`exists_lineStart`), a line feed is the only character whose encoding has the byte 10
(`count_toUTF8`), and cutting a text into lines puts the line of an offset at its number
(`exists_isLine`).
-/

namespace ComposeCheck

namespace Source

def lineStart (source : Source) (offset : Nat) : Nat :=
  (source.lineStarts.takeWhile (· ≤ offset)).getLastD 0

theorem columnAt_eq (source : Source) (offset : Nat) :
    source.columnAt offset = offset - source.lineStart offset + 1 := rfl

/-! ### Starts of lines in bytes -/

section
variable {offset : Nat}

theorem takeWhile_startsFrom_eq_nil {origin : Nat} (bs : List UInt8) (h : offset ≤ origin) :
    (startsFrom origin bs).takeWhile (· ≤ offset) = [] := by
  induction bs generalizing origin with
  | nil => rfl
  | cons b bs ih =>
    rw [startsFrom]
    split
    · have : ¬ origin + 1 ≤ offset := by omega
      simp [this]
    · exact ih (by omega)

theorem length_takeWhile_startsFrom (origin : Nat) (bs : List UInt8) :
    ((startsFrom origin bs).takeWhile (· ≤ offset)).length =
      (bs.take (offset - origin)).count 10 := by
  induction bs generalizing origin with
  | nil => simp [startsFrom]
  | cons b bs ih =>
    by_cases h : offset ≤ origin
    · rw [takeWhile_startsFrom_eq_nil _ h, Nat.sub_eq_zero_of_le h]
      rfl
    · have hsub : offset - origin = offset - (origin + 1) + 1 := by omega
      have hle : origin + 1 ≤ offset := by omega
      rw [startsFrom, hsub, List.take_succ_cons]
      split
      case isTrue hb => simp [hb, hle, ih]
      case isFalse hb => rw [ih, List.count_cons_of_ne hb]

/-- The bytes up to an offset are whole lines and a part without a line feed; the last start of a
line is where the part starts. -/
theorem exists_getLastD_startsFrom (offset origin base : Nat) (bs : List UInt8) :
    ∃ before part : List UInt8, bs.take (offset - origin) = before ++ part ∧ 10 ∉ part ∧
      (before = [] ∧ ((startsFrom origin bs).takeWhile (· ≤ offset)).getLastD base = base ∨
        before.getLast? = some 10 ∧
          ((startsFrom origin bs).takeWhile (· ≤ offset)).getLastD base =
            origin + before.length) := by
  induction bs generalizing origin base with
  | nil => exact ⟨[], [], by simp, by simp, .inl ⟨rfl, rfl⟩⟩
  | cons b bs ih =>
    by_cases h : offset ≤ origin
    · rw [takeWhile_startsFrom_eq_nil _ h, Nat.sub_eq_zero_of_le h]
      exact ⟨[], [], rfl, by simp, .inl ⟨rfl, rfl⟩⟩
    have hsub : offset - origin = offset - (origin + 1) + 1 := by omega
    have hle : origin + 1 ≤ offset := by omega
    rw [startsFrom, hsub, List.take_succ_cons]
    by_cases hb : b = 10
    · obtain ⟨before, part, htake, hpart, hlast⟩ := ih (origin + 1) (origin + 1)
      refine ⟨b :: before, part, by rw [htake, List.cons_append], hpart, .inr ?_⟩
      simp only [hb, if_true, List.takeWhile_cons, hle, decide_true, List.getLastD_cons]
      rcases hlast with ⟨rfl, hlast⟩ | ⟨hbefore, hlast⟩
      · exact ⟨rfl, hlast⟩
      · refine ⟨by simp [List.getLast?_cons, hbefore], ?_⟩
        rw [hlast, List.length_cons]
        omega
    · obtain ⟨before, part, htake, hpart, hlast⟩ := ih (origin + 1) base
      simp only [hb, if_false]
      rcases hlast with ⟨rfl, hlast⟩ | ⟨hbefore, hlast⟩
      · refine ⟨[], b :: part, by rw [htake]; rfl, ?_, .inl ⟨rfl, hlast⟩⟩
        simp [hpart, Ne.symm hb]
      · refine ⟨b :: before, part, by rw [htake, List.cons_append], hpart, .inr ⟨?_, ?_⟩⟩
        · simp [List.getLast?_cons, hbefore]
        · rw [hlast, List.length_cons]
          omega

variable (text : String)

/-- A line's number is one more than the line feeds before it. -/
theorem lineAt_ofText : (ofText text).lineAt offset =
    1 + (text.toUTF8.toList.take offset).count 10 := by
  simp only [lineAt, ofText, List.takeWhile_cons, Nat.zero_le, decide_true, if_true,
    List.length_cons, length_takeWhile_startsFrom, Nat.sub_zero]
  omega

theorem exists_lineStart (offset : Nat) :
    ∃ before part : List UInt8, text.toUTF8.toList.take offset = before ++ part ∧ 10 ∉ part ∧
      (before = [] ∨ before.getLast? = some 10) ∧
      (ofText text).lineStart offset = before.length := by
  obtain ⟨before, part, htake, hpart, hlast⟩ :=
    exists_getLastD_startsFrom offset 0 0 text.toUTF8.toList
  refine ⟨before, part, htake, hpart, ?_, ?_⟩
  · exact hlast.imp And.left And.left
  · have hcons : (ofText text).lineStart offset =
        ((startsFrom 0 text.toUTF8.toList).takeWhile (· ≤ offset)).getLastD 0 := by
      simp only [lineStart, ofText, List.takeWhile_cons, Nat.zero_le, decide_true, if_true,
        List.getLastD_cons]
    rw [hcons]
    rcases hlast with ⟨rfl, hlast⟩ | ⟨-, hlast⟩
    · exact hlast
    · rw [hlast, Nat.zero_add]

/-- Only one way to cut a list has no `10` behind and a `10` at the end in front. -/
theorem length_eq_of_append_eq {before part before' part' : List UInt8}
    (h : before ++ part = before' ++ part') (hp : 10 ∉ part) (hp' : 10 ∉ part')
    (hb : before = [] ∨ before.getLast? = some 10)
    (hb' : before' = [] ∨ before'.getLast? = some 10) : before.length = before'.length := by
  have key {b p b' p' a : List UInt8} (hp : 10 ∉ p) (hb' : b' = [] ∨ b'.getLast? = some 10)
      (hcut : b' = b ++ a) (hrest : p = a ++ p') : b.length = b'.length := by
    subst hcut hrest
    cases ha : a.getLast? with
    | none =>
      rw [List.getLast?_eq_none_iff.1 ha, List.append_nil]
    | some x =>
      have hx : x ∈ a := List.mem_of_getLast? ha
      rcases hb' with hb' | hb'
      · simp [List.append_eq_nil_iff.1 hb'] at hx
      · rw [List.getLast?_append, ha, Option.some_or, Option.some.injEq] at hb'
        exact absurd (List.mem_append_left p' (hb' ▸ hx)) hp
  rcases List.append_eq_append_iff.1 h with ⟨a, hcut, hrest⟩ | ⟨a, hcut, hrest⟩
  · exact key hp hb' hcut hrest
  · exact (key hp' hb hcut hrest).symm

/-- The start of a line, found by cutting the bytes before an offset. -/
theorem lineStart_eq_length {before part : List UInt8} {offset : Nat}
    (h : text.toUTF8.toList.take offset = before ++ part) (hp : 10 ∉ part)
    (hb : before = [] ∨ before.getLast? = some 10) :
    (ofText text).lineStart offset = before.length := by
  obtain ⟨before', part', htake, hpart, hbefore, heq⟩ := exists_lineStart text offset
  rw [heq]
  exact length_eq_of_append_eq (htake.symm.trans h) hpart hp hbefore hb

theorem lineStart_le (offset : Nat) :
    (ofText text).lineStart offset ≤ offset := by
  obtain ⟨before, part, htake, -, -, heq⟩ := exists_lineStart text offset
  have := congrArg List.length htake
  rw [List.length_take, List.length_append] at this
  omega

end

/-! ### Bytes of characters -/

theorem toList_loop (bytes : ByteArray) (i : Nat) (read : List UInt8) :
    ByteArray.toList.loop bytes i read = read.reverse ++ bytes.data.toList.drop i := by
  rw [ByteArray.toList.loop]
  split
  case isTrue h =>
    have hi : i < bytes.data.toList.length := h
    rw [toList_loop bytes (i + 1), List.drop_eq_getElem_cons hi]
    simp [ByteArray.get!, getElem!_pos bytes.data i h]
  case isFalse h =>
    rw [List.drop_eq_nil_of_le (Nat.le_of_not_lt h), List.append_nil]
termination_by bytes.size - i

theorem toList_eq (bytes : ByteArray) : bytes.toList = bytes.data.toList := by
  rw [ByteArray.toList, toList_loop]
  rfl

theorem toList_append (a b : ByteArray) : (a ++ b).toList = a.toList ++ b.toList := by
  simp [toList_eq]

theorem toList_toUTF8 (text : String) :
    text.toUTF8.toList = text.toList.flatMap String.utf8EncodeChar := by
  rw [toList_eq, String.toUTF8_eq_toByteArray, ← String.utf8Encode_toList, List.utf8Encode,
    List.toList_data_toByteArray]

/-- The line feed is the only character whose encoding has its byte. -/
theorem count_utf8EncodeChar (c : Char) :
    (String.utf8EncodeChar c).count 10 = if c = '\n' then 1 else 0 := by
  have hne {n : Nat} (h₁ : 128 ≤ n) (h₂ : n < 256) : ¬ UInt8.ofNat n = 10 := by
    intro h
    have := congrArg UInt8.toNat h
    rw [UInt8.toNat_ofNat_of_lt' h₂] at this
    simp at this
    omega
  by_cases h : c.val.toNat ≤ 0x7f
  · have hchar : c = '\n' ↔ c.val.toNat = 10 := by
      rw [Char.ext_iff, ← UInt32.toNat_inj]
      rfl
    have hlt : c.val.toNat < UInt8.size := Nat.lt_of_le_of_lt h (by decide)
    have hbyte : UInt8.ofNat c.val.toNat = 10 ↔ c.val.toNat = 10 := by
      rw [← UInt8.toNat_inj, UInt8.toNat_ofNat_of_lt' hlt]
      rfl
    rw [String.utf8EncodeChar, if_pos h, List.count_singleton]
    simp only [beq_iff_eq, hbyte, hchar]
  · have hc : c ≠ '\n' := by
      rintro rfl
      exact h (by decide)
    -- past ASCII every byte of an encoding has its highest bit set
    rw [if_neg hc, String.utf8EncodeChar, if_neg h]
    refine List.count_eq_zero.2 ?_
    split
    · simp only [List.mem_cons, List.not_mem_nil, or_false, eq_comm (a := (10 : UInt8)), not_or]
      exact ⟨hne (by omega) (by omega), hne (by omega) (by omega)⟩
    split
    · simp only [List.mem_cons, List.not_mem_nil, or_false, eq_comm (a := (10 : UInt8)), not_or]
      exact ⟨hne (by omega) (by omega), hne (by omega) (by omega), hne (by omega) (by omega)⟩
    · simp only [List.mem_cons, List.not_mem_nil, or_false, eq_comm (a := (10 : UInt8)), not_or]
      exact ⟨hne (by omega) (by omega), hne (by omega) (by omega), hne (by omega) (by omega),
        hne (by omega) (by omega)⟩

theorem count_toUTF8 (text : String) : text.toUTF8.toList.count 10 = text.toList.count '\n' := by
  rw [toList_toUTF8]
  induction text.toList with
  | nil => rfl
  | cons c cs ih =>
    rw [List.flatMap_cons, List.count_append, ih, count_utf8EncodeChar, List.count_cons,
      Nat.add_comm]
    simp

theorem newline_mem_toUTF8 (text : String) : 10 ∈ text.toUTF8.toList ↔ '\n' ∈ text.toList := by
  rw [← List.count_pos_iff, ← List.count_pos_iff, count_toUTF8]

end Source

/-! ### Lines in characters -/

namespace Text

section
variable {α : Type} {isSeparator : α → Bool} {cs piece rest : List α} {separator : α}

theorem splitWhere_ne_nil (isSeparator : α → Bool) (cs : List α) :
    splitWhere isSeparator cs ≠ [] := by
  induction cs with
  | nil => simp [splitWhere]
  | cons c cs ih =>
    rw [splitWhere]
    split
    · simp
    · split <;> simp

theorem splitWhere_of_forall_not (h : ∀ c ∈ cs, isSeparator c = false) :
    splitWhere isSeparator cs = [cs] := by
  induction cs with
  | nil => rfl
  | cons c cs ih =>
    rw [splitWhere, h c List.mem_cons_self, ih fun d hd => h d (List.mem_cons_of_mem c hd)]
    rfl

theorem splitWhere_append_cons (h : ∀ c ∈ piece, isSeparator c = false)
    (hs : isSeparator separator = true) :
    splitWhere isSeparator (piece ++ separator :: rest) = piece :: splitWhere isSeparator rest := by
  induction piece with
  | nil => rw [List.nil_append, splitWhere, if_pos hs]
  | cons c piece ih =>
    rw [List.cons_append, splitWhere, h c List.mem_cons_self,
      ih fun d hd => h d (List.mem_cons_of_mem c hd)]
    rfl

/-- The pieces before a separator and those behind it. -/
theorem splitWhere_append_separator (hs : isSeparator separator = true) :
    splitWhere isSeparator (cs ++ separator :: rest) =
      splitWhere isSeparator cs ++ splitWhere isSeparator rest := by
  induction cs with
  | nil =>
    rw [List.nil_append, splitWhere, splitWhere, if_pos hs]
    rfl
  | cons c cs ih =>
    rw [List.cons_append, splitWhere, splitWhere, ih]
    split
    · rfl
    · cases h : splitWhere isSeparator cs with
      | nil => exact absurd h (splitWhere_ne_nil isSeparator cs)
      | cons first others => rfl

end

section
variable {cs piece rest : List Char}

theorem beq_newline_eq_false (h : '\n' ∉ cs) : ∀ c ∈ cs, (c == '\n') = false := by
  rintro c hc
  rw [beq_eq_false_iff_ne]
  rintro rfl
  exact h hc

theorem linesOf_of_not_mem (h : '\n' ∉ cs) (hne : cs ≠ []) : linesOf cs = [cs] := by
  rw [linesOf, splitWhere_of_forall_not (beq_newline_eq_false h), linesOf.go, if_neg]
  simpa using hne

theorem linesOf_append_newline (h : '\n' ∉ piece) :
    linesOf (piece ++ '\n' :: rest) = dropReturn piece :: linesOf rest := by
  rw [linesOf, splitWhere_append_cons (beq_newline_eq_false h) rfl, linesOf]
  cases hr : splitWhere (· == '\n') rest with
  | nil => exact absurd hr (splitWhere_ne_nil _ rest)
  | cons first others => rw [linesOf.go]; simp

/-- At most a carriage return is dropped from the end. -/
theorem eq_dropReturn (cs : List Char) : cs = dropReturn cs ∨ cs = dropReturn cs ++ ['\r'] := by
  rw [dropReturn, dropTail]
  cases hr : cs.reverse with
  | nil => simp [dropLead]
  | cons c rest =>
    by_cases hc : '\r' = c
    · subst hc
      right
      rw [← List.reverse_reverse cs, hr]
      simp [dropLead]
    · simp [dropLead, hc]

/-- Wherever a text is cut before its end, the line that the cut runs through stands at the number
of line feeds before the cut. -/
theorem exists_line (cs rest : List Char) (hrest : rest ≠ []) :
    ∃ before part line ending after : List Char,
      cs = before ++ part ∧ (before = [] ∨ before.getLast? = some '\n') ∧ '\n' ∉ part ∧
      cs ++ rest = before ++ line ++ ending ++ after ∧
      (linesOf (cs ++ rest))[cs.count '\n']? = some line ∧ '\n' ∉ line ∧
      (ending = ['\n'] ∨ ending = ['\r', '\n'] ∨ ending = [] ∧ after = []) ∧
      ∃ suffix, suffix ≠ [] ∧ part ++ suffix = line ++ ending := by
  by_cases hmem : '\n' ∈ cs
  · obtain ⟨first, others, rfl, hfirst⟩ := List.eq_append_cons_of_mem hmem
    obtain ⟨before, part, line, ending, after, rfl, hbefore, hpart, htext, hline, hno, hend, hsuf⟩ :=
      exists_line others rest hrest
    refine ⟨first ++ '\n' :: before, part, line, ending, after, by simp, .inr ?_, hpart, ?_, ?_,
      hno, hend, hsuf⟩
    · rcases hbefore with rfl | hbefore
      · simp
      · simp [List.getLast?_append, List.getLast?_cons, hbefore]
    · simpa using htext
    · have hcount : (first ++ '\n' :: (before ++ part)).count '\n' =
          (before ++ part).count '\n' + 1 := by
        rw [List.count_append, List.count_eq_zero.2 hfirst, List.count_cons_self, Nat.zero_add]
      rw [hcount, List.append_assoc, List.cons_append, linesOf_append_newline hfirst,
        List.getElem?_cons_succ]
      exact hline
  · by_cases hnl : '\n' ∈ rest
    · obtain ⟨piece, after, rfl, hpiece⟩ := List.eq_append_cons_of_mem hnl
      have hraw : '\n' ∉ cs ++ piece := by simp [hmem, hpiece]
      obtain ⟨ending, hcut, hending⟩ : ∃ ending, cs ++ piece = dropReturn (cs ++ piece) ++ ending ∧
          (ending = [] ∨ ending = ['\r']) := by
        rcases eq_dropReturn (cs ++ piece) with h | h
        · exact ⟨[], by rwa [List.append_nil], .inl rfl⟩
        · exact ⟨['\r'], h, .inr rfl⟩
      have hno : '\n' ∉ dropReturn (cs ++ piece) := fun h =>
        hraw (hcut ▸ List.mem_append_left ending h)
      refine ⟨[], cs, dropReturn (cs ++ piece), ending ++ ['\n'], after, rfl, .inl rfl, hmem, ?_, ?_,
        hno, ?_, piece ++ ['\n'], by simp, ?_⟩
      · rw [List.nil_append, ← List.append_assoc (dropReturn _), ← hcut]
        simp
      · rw [List.count_eq_zero.2 hmem, ← List.append_assoc, linesOf_append_newline hraw]
        rfl
      · rcases hending with rfl | rfl <;> simp
      · rw [← List.append_assoc, ← List.append_assoc, ← hcut]
    · have hraw : '\n' ∉ cs ++ rest := by simp [hmem, hnl]
      refine ⟨[], cs, cs ++ rest, [], [], rfl, .inl rfl, hmem, by simp, ?_, hraw, by simp, rest,
        hrest, by simp⟩
      rw [List.count_eq_zero.2 hmem, linesOf_of_not_mem hraw (by simp [hrest])]
      rfl
termination_by cs.length
decreasing_by
  simp only [*, List.length_append, List.length_cons]
  omega

end

end Text

/-- In a text, the line with this number reads `line` and runs from `start` up to `stop`, the line
feed that ends it and a carriage return before that one included. -/
def IsLine (text : String) (number : Nat) (line : String) (start stop : Nat) : Prop :=
  ∃ before ending after : String, text = before ++ line ++ ending ++ after ∧
    number = before.toList.count '\n' + 1 ∧
    (before = "" ∨ before.toList.getLast? = some '\n') ∧ '\n' ∉ line.toList ∧
    (ending = "\n" ∨ ending = "\r\n" ∨ ending = "" ∧ after = "") ∧
    start = before.utf8ByteSize ∧ stop = (before ++ line ++ ending).utf8ByteSize

namespace Source

theorem toUTF8_append (a b : String) :
    (a ++ b).toUTF8.toList = a.toUTF8.toList ++ b.toUTF8.toList := by
  simp only [String.toUTF8_eq_toByteArray, String.toByteArray_append, toList_append]

theorem length_toUTF8 (text : String) : text.toUTF8.toList.length = text.utf8ByteSize := by
  rw [toList_eq]
  rfl

theorem getLast?_toUTF8 {text : String} (h : text.toList.getLast? = some '\n') :
    text.toUTF8.toList.getLast? = some 10 := by
  obtain ⟨front, hfront⟩ := List.getLast?_eq_some_iff.1 h
  rw [toList_toUTF8, hfront, List.flatMap_append, List.getLast?_append]
  rfl

/-- The bytes before a cut spell the characters before it. -/
theorem CutsAt.exists_append {text : String} {offset : Nat} (h : (ofText text).CutsAt offset) :
    ∃ before after : String, text = before ++ after ∧ before.utf8ByteSize = offset ∧
      text.toUTF8.toList.take offset = before.toUTF8.toList := by
  obtain ⟨before, after, htext, hoffset⟩ := String.Pos.Raw.isValid_iff_exists_append.1 h
  have hsize : before.utf8ByteSize = offset := (congrArg String.Pos.Raw.byteIdx hoffset).symm
  refine ⟨before, after, htext, hsize, ?_⟩
  change text = before ++ after at htext
  rw [htext, toUTF8_append, ← hsize, ← length_toUTF8, List.take_left]

/-- The line that is looked up under the number of an offset's line is the one it lies on. -/
theorem exists_isLine {text : String} {offset : Nat} (hcut : (ofText text).CutsAt offset)
    (hlt : offset < text.utf8ByteSize) :
    ∃ line stop, (Text.lines text)[(ofText text).lineAt offset - 1]? = some line ∧
      IsLine text ((ofText text).lineAt offset) line ((ofText text).lineStart offset) stop ∧
      offset < stop := by
  obtain ⟨front, back, rfl, rfl, htake⟩ := hcut.exists_append
  have hback : back.toList ≠ [] := by
    intro h
    rw [String.toList_eq_nil_iff.1 h] at hlt
    simp at hlt
  obtain ⟨before, part, line, ending, after, hfront, hbefore, hpart, htext, hline, hno, hend,
    suffix, hsuffix, hrest⟩ := Text.exists_line front.toList back.toList hback
  have hnumber : (ofText (front ++ back)).lineAt front.utf8ByteSize =
      front.toList.count '\n' + 1 := by
    rw [lineAt_ofText, htake, count_toUTF8, Nat.add_comm]
  have hsplit : front = String.ofList before ++ String.ofList part := by
    rw [← String.ofList_append, ← hfront, String.ofList_toList]
  have hstart : (ofText (front ++ back)).lineStart front.utf8ByteSize =
      (String.ofList before).utf8ByteSize := by
    have hbytes : (front ++ back).toUTF8.toList.take front.utf8ByteSize =
        (String.ofList before).toUTF8.toList ++ (String.ofList part).toUTF8.toList := by
      rw [htake, ← toUTF8_append, ← hsplit]
    rw [← length_toUTF8 (String.ofList before)]
    refine lineStart_eq_length _ hbytes ?_ ?_
    · rwa [newline_mem_toUTF8, String.toList_ofList]
    · rcases hbefore with rfl | hbefore
      · exact .inl (by rw [toList_toUTF8]; rfl)
      · exact .inr (getLast?_toUTF8 (by rwa [String.toList_ofList]))
  refine ⟨String.ofList line, (String.ofList (before ++ line ++ ending)).utf8ByteSize, ?_,
    ⟨String.ofList before, String.ofList ending, String.ofList after, ?_, ?_, ?_, ?_, ?_, hstart,
      by simp only [String.ofList_append]⟩, ?_⟩
  · rw [hnumber, Nat.add_sub_cancel, Text.lines, List.getElem?_map, String.toList_append, hline]
    rfl
  · rw [← String.ofList_append, ← String.ofList_append, ← String.ofList_append, ← htext,
      ← String.toList_append, String.ofList_toList]
  · rw [hnumber, hfront, List.count_append, List.count_eq_zero.2 hpart, String.toList_ofList,
      Nat.add_zero]
  · rcases hbefore with rfl | hbefore
    · exact .inl rfl
    · exact .inr (by rwa [String.toList_ofList])
  · rwa [String.toList_ofList]
  · rcases hend with rfl | rfl | ⟨rfl, rfl⟩
    · exact .inl rfl
    · exact .inr (.inl rfl)
    · exact .inr (.inr ⟨rfl, rfl⟩)
  · rw [List.append_assoc, ← hrest, ← List.append_assoc, ← hfront, String.ofList_append,
      String.ofList_toList, String.utf8ByteSize_append]
    have : 0 < (String.ofList suffix).utf8ByteSize := by
      rw [Nat.pos_iff_ne_zero]
      simpa using hsuffix
    omega

end Source

end ComposeCheck
