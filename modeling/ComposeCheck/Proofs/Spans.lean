import ComposeCheck.Tree.Syntax

/-!
# Spans of trees and cuts of texts

A grammar promises two things about the spans of a parse: each node lies inside its parent with the
siblings in order and apart (`Tree.Nested`), and every span starts and stops between two characters
(`Source.CutsAt`). `Tree.Fits` puts both together for one text.
-/

namespace ComposeCheck

namespace Source

/-- An offset that lies in the text and between two of its characters. -/
def CutsAt (source : Source) (offset : Nat) : Prop :=
  (String.Pos.Raw.mk offset).IsValid source.text

def decoded (bytes : ByteArray) : String := (String.fromUTF8? bytes).getD ""

theorem toUTF8_decoded {bytes : ByteArray} (h : bytes.IsValidUTF8) :
    (decoded bytes).toUTF8 = bytes := by
  unfold decoded String.fromUTF8?
  rw [dif_pos h]
  rfl

@[simp] theorem decoded_toUTF8 (text : String) : decoded text.toUTF8 = text := by
  have h : text.toUTF8.IsValidUTF8 := text.isValidUTF8
  rw [← String.toByteArray_inj]
  exact toUTF8_decoded h

theorem decoded_append {a b : ByteArray} (ha : a.IsValidUTF8) (hb : b.IsValidUTF8) :
    decoded (a ++ b) = decoded a ++ decoded b := by
  have hbytes : (decoded a ++ decoded b).toUTF8 = a ++ b := by
    have ha := toUTF8_decoded ha
    have hb := toUTF8_decoded hb
    rw [String.toUTF8_eq_toByteArray] at ha hb ⊢
    rw [String.toByteArray_append, ha, hb]
  rw [← hbytes, decoded_toUTF8]

@[simp] theorem text_ofText (text : String) : (ofText text).text = text := rfl

@[simp] theorem bytes_ofText (text : String) : (ofText text).bytes = text.toUTF8 := rfl

section
variable {source : Source} {a b c : Nat}

theorem slice_append_slice (h₁ : a ≤ b) (h₂ : b ≤ c) :
    source.slice a b ++ source.slice b c = source.slice a c :=
  (ByteArray.extract_eq_extract_append_extract b h₁ h₂).symm

@[simp] theorem slice_self : source.slice a a = ByteArray.empty := ByteArray.extract_same

theorem textBetween_eq : source.textBetween a b = decoded (source.slice a b) := rfl

end

section
variable {text : String} {a b : Nat}

theorem cutsAt_zero : (ofText text).CutsAt 0 := String.Pos.Raw.isValid_zero

theorem cutsAt_size : (ofText text).CutsAt (ofText text).bytes.size :=
  String.Pos.Raw.isValid_rawEndPos

theorem CutsAt.le_size (h : (ofText text).CutsAt a) : a ≤ (ofText text).bytes.size :=
  h.le_utf8ByteSize

theorem CutsAt.isValidUTF8_slice (ha : (ofText text).CutsAt a) (hb : (ofText text).CutsAt b)
    (h : a ≤ b) : ((ofText text).slice a b).IsValidUTF8 :=
  (String.Pos.Raw.isValidUTF8_extract_iff ⟨a⟩ ⟨b⟩ h hb.le_size).2 (.inr ⟨ha, hb⟩)

/-- Between two cuts the text is what its bytes spell. -/
theorem CutsAt.toUTF8_textBetween (ha : (ofText text).CutsAt a) (hb : (ofText text).CutsAt b)
    (h : a ≤ b) : ((ofText text).textBetween a b).toUTF8 = (ofText text).slice a b :=
  toUTF8_decoded (ha.isValidUTF8_slice hb h)

theorem CutsAt.exists_textBetween (ha : (ofText text).CutsAt a) (hb : (ofText text).CutsAt b)
    (h : a ≤ b) : ∃ before after : String, text = before ++ (ofText text).textBetween a b ++ after ∧
      before.utf8ByteSize = a ∧ ((ofText text).textBetween a b).utf8ByteSize = b - a := by
  have hmid := toUTF8_textBetween ha hb h
  have hbytes : text.toUTF8 = ((ofText text).textBetween 0 a).toUTF8 ++
      ((ofText text).textBetween a b).toUTF8 ++
      ((ofText text).textBetween b (ofText text).bytes.size).toUTF8 := by
    rw [hmid, toUTF8_textBetween cutsAt_zero ha (Nat.zero_le a),
      toUTF8_textBetween hb cutsAt_size hb.le_size, slice_append_slice (Nat.zero_le a) h,
      slice_append_slice (Nat.zero_le b) hb.le_size]
    exact ByteArray.extract_zero_size.symm
  have hsize : ∀ {i j : Nat}, i ≤ j → j ≤ text.toUTF8.size →
      ((ofText text).slice i j).size = j - i := by
    intro i j _ hj
    rw [slice, bytes_ofText, ByteArray.size_extract, Nat.min_eq_left hj]
  refine ⟨(ofText text).textBetween 0 a, (ofText text).textBetween b (ofText text).bytes.size,
    ?_, ?_, ?_⟩
  · simp only [String.toUTF8_eq_toByteArray] at hbytes
    rw [← String.toByteArray_inj, String.toByteArray_append, String.toByteArray_append]
    exact hbytes
  · rw [← String.size_toByteArray, ← String.toUTF8_eq_toByteArray,
      toUTF8_textBetween cutsAt_zero ha (Nat.zero_le a), hsize (Nat.zero_le a) ha.le_size]
    rfl
  · rw [← String.size_toByteArray, ← String.toUTF8_eq_toByteArray, hmid, hsize h hb.le_size]

/-- A slice inside a part of a text is a slice of the part. -/
theorem slice_append (before mid after : String) {i j : Nat} (h : j ≤ mid.utf8ByteSize) :
    (ofText (before ++ mid ++ after)).slice (before.utf8ByteSize + i) (before.utf8ByteSize + j) =
      (ofText mid).slice i j := by
  have hempty : after.toByteArray.extract (i - mid.toByteArray.size) (j - mid.toByteArray.size) =
      ByteArray.empty := by
    rw [String.size_toByteArray, Nat.sub_eq_zero_of_le h]
    exact ByteArray.extract_eq_empty_iff.2 (Nat.zero_le _)
  simp only [slice, bytes_ofText, String.toUTF8_eq_toByteArray, String.toByteArray_append,
    ByteArray.append_assoc]
  rw [ByteArray.extract_append_size_add' before.size_toByteArray.symm, ByteArray.extract_append,
    hempty, ByteArray.append_empty]

/-- A cut inside a part of a text is a cut of the part. -/
theorem cutsAt_append (before mid after : String) {i : Nat} (h : i ≤ mid.utf8ByteSize) :
    (ofText (before ++ mid ++ after)).CutsAt (before.utf8ByteSize + i) ↔ (ofText mid).CutsAt i := by
  have hzero : (ofText mid).CutsAt 0 := cutsAt_zero
  have hsize : (ofText mid).CutsAt mid.utf8ByteSize := cutsAt_size
  constructor
  · intro hcut
    rcases String.Pos.Raw.isValid_append.1 hcut with hfront | ⟨hle, -⟩
    · rcases String.Pos.Raw.isValid_append.1 hfront with hbefore | ⟨-, hmid⟩
      · have hi : i = 0 := by
          have := hbefore.le_utf8ByteSize
          simp only at this
          omega
        rwa [hi]
      · have hsub : String.Pos.Raw.mk (before.utf8ByteSize + i) - before = ⟨i⟩ := by
          simp [String.Pos.Raw.ext_iff]
        rwa [hsub] at hmid
    · have hi : i = mid.utf8ByteSize := by
        simp only [String.Pos.Raw.le_iff, String.byteIdx_rawEndPos, String.utf8ByteSize_append] at hle
        omega
      rwa [hi]
  · intro hcut
    have hfront : (String.Pos.Raw.mk (before.utf8ByteSize + i)).IsValid (before ++ mid) :=
      String.Pos.Raw.IsValid.append_left hcut before
    exact hfront.append_right after

end

end Source

namespace Tree

variable {α β : Type}

@[simp] theorem label_map (f : α → β) (t : Tree α) : (t.map f).label = f t.label := by
  cases t; rfl

@[simp] theorem children_map (f : α → β) (t : Tree α) :
    (t.map f).children = mapForest f t.children := by
  cases t; rfl

theorem mapForest_eq_map (f : α → β) (ts : List (Tree α)) : mapForest f ts = ts.map (map f) := by
  induction ts with
  | nil => rfl
  | cons t ts ih => simp [mapForest, ih]

@[simp] theorem mapForest_nil (f : α → β) : mapForest f [] = [] := rfl

@[simp] theorem mapForest_cons (f : α → β) (t : Tree α) (ts : List (Tree α)) :
    mapForest f (t :: ts) = t.map f :: mapForest f ts := rfl

@[simp] theorem forestPreorder_nil : forestPreorder ([] : List (Tree α)) = [] := rfl

@[simp] theorem forestPreorder_cons (t : Tree α) (ts : List (Tree α)) :
    forestPreorder (t :: ts) = t.preorder ++ forestPreorder ts := rfl

@[simp] theorem preorder_node (a : α) (ts : List (Tree α)) :
    (node a ts).preorder = a :: forestPreorder ts := rfl

theorem forestPreorder_append (ts us : List (Tree α)) :
    forestPreorder (ts ++ us) = forestPreorder ts ++ forestPreorder us := by
  induction ts with
  | nil => rfl
  | cons t ts ih => simp [ih]

theorem label_mem_preorder (t : Tree α) : t.label ∈ t.preorder := by
  cases t; simp [label]

theorem mem_forestPreorder {a : α} {ts : List (Tree α)} :
    a ∈ forestPreorder ts ↔ ∃ t ∈ ts, a ∈ t.preorder := by
  induction ts with
  | nil => simp
  | cons t ts ih => simp [ih]

mutual

theorem preorder_map (f : α → β) : (t : Tree α) → (t.map f).preorder = t.preorder.map f
  | node a ts => by simp [map, forestPreorder_map f ts]

theorem forestPreorder_map (f : α → β) :
    (ts : List (Tree α)) → forestPreorder (mapForest f ts) = (forestPreorder ts).map f
  | [] => rfl
  | t :: ts => by simp [preorder_map f t, forestPreorder_map f ts]

end

/-! ### Nested spans -/

mutual

/-- The spans of a tree lie between two bounds, each node's in its parent's, siblings in order and
apart. -/
def Nested (lo hi : Nat) : ParseTree → Prop
  | node shape ts =>
    lo ≤ shape.start ∧ shape.start ≤ shape.stop ∧ shape.stop ≤ hi ∧
      NestedForest shape.start shape.stop ts

/-- The spans of several trees lie between two bounds, one tree after the other. -/
def NestedForest (lo hi : Nat) : List ParseTree → Prop
  | [] => True
  | t :: ts => Nested lo hi t ∧ NestedForest t.label.stop hi ts

end

section
variable {lo lo' hi hi' : Nat} {t : ParseTree} {ts us : List ParseTree}

mutual

instance decidableNested (lo hi : Nat) : (t : ParseTree) → Decidable (Nested lo hi t)
  | .node shape ts =>
    have := decidableNestedForest shape.start shape.stop ts
    inferInstanceAs (Decidable (lo ≤ shape.start ∧ shape.start ≤ shape.stop ∧ shape.stop ≤ hi ∧
      NestedForest shape.start shape.stop ts))

instance decidableNestedForest (lo hi : Nat) : (ts : List ParseTree) →
    Decidable (NestedForest lo hi ts)
  | [] => isTrue trivial
  | t :: ts =>
    have := decidableNested lo hi t
    have := decidableNestedForest t.label.stop hi ts
    inferInstanceAs (Decidable (Nested lo hi t ∧ NestedForest t.label.stop hi ts))

end

theorem nested_iff : Nested lo hi t ↔ lo ≤ t.label.start ∧ t.label.start ≤ t.label.stop ∧
    t.label.stop ≤ hi ∧ NestedForest t.label.start t.label.stop t.children := by
  cases t; rfl

theorem Nested.lo_le (h : Nested lo hi t) : lo ≤ t.label.start := (nested_iff.1 h).1

theorem Nested.start_le_stop (h : Nested lo hi t) : t.label.start ≤ t.label.stop :=
  (nested_iff.1 h).2.1

theorem Nested.le_hi (h : Nested lo hi t) : t.label.stop ≤ hi := (nested_iff.1 h).2.2.1

theorem Nested.lo_le_stop (h : Nested lo hi t) : lo ≤ t.label.stop :=
  Nat.le_trans h.lo_le h.start_le_stop

theorem Nested.children (h : Nested lo hi t) :
    NestedForest t.label.start t.label.stop t.children := (nested_iff.1 h).2.2.2

theorem Nested.mono (h : Nested lo hi t) (h₁ : lo' ≤ lo) (h₂ : hi ≤ hi') : Nested lo' hi' t :=
  nested_iff.2 ⟨Nat.le_trans h₁ h.lo_le, h.start_le_stop, Nat.le_trans h.le_hi h₂, h.children⟩

/-- Only the bounds of the root's own span matter. -/
theorem Nested.of_label (h : Nested lo hi t) (h₁ : lo' ≤ t.label.start) (h₂ : t.label.stop ≤ hi') :
    Nested lo' hi' t :=
  nested_iff.2 ⟨h₁, h.start_le_stop, h₂, h.children⟩

theorem NestedForest.mono (h : NestedForest lo hi ts) (h₁ : lo' ≤ lo) (h₂ : hi ≤ hi') :
    NestedForest lo' hi' ts := by
  induction ts generalizing lo lo' with
  | nil => trivial
  | cons t ts ih => exact ⟨h.1.mono h₁ h₂, ih h.2 (Nat.le_refl _)⟩

theorem NestedForest.nested_of_mem (h : NestedForest lo hi ts) (ht : t ∈ ts) : Nested lo hi t := by
  induction ts generalizing lo with
  | nil => simp at ht
  | cons u us ih =>
    rcases List.mem_cons.1 ht with rfl | ht
    · exact h.1
    · exact (ih h.2 ht).mono h.1.lo_le_stop (Nat.le_refl _)

theorem NestedForest.append {mid : Nat} (h₁ : NestedForest lo mid ts) (h₂ : NestedForest mid hi us)
    (hlo : lo ≤ mid) (hhi : mid ≤ hi) : NestedForest lo hi (ts ++ us) := by
  induction ts generalizing lo with
  | nil => exact h₂.mono hlo (Nat.le_refl _)
  | cons t ts ih => exact ⟨h₁.1.mono (Nat.le_refl _) hhi, ih h₁.2 h₁.1.le_hi⟩

/-- Leaving trees out keeps the others in order and apart. -/
theorem NestedForest.sublist (h : NestedForest lo hi ts) (hs : us.Sublist ts) :
    NestedForest lo hi us := by
  induction hs generalizing lo with
  | slnil => exact h
  | cons t _ ih => exact (ih h.2).mono h.1.lo_le_stop (Nat.le_refl _)
  | cons_cons t _ ih => exact ⟨h.1, ih h.2⟩

mutual

theorem Nested.of_mem_preorder {shape : Shape} :
    {t : ParseTree} → {lo hi : Nat} → Nested lo hi t → shape ∈ t.preorder →
      lo ≤ shape.start ∧ shape.start ≤ shape.stop ∧ shape.stop ≤ hi
  | node _ ts, lo, hi, h, hm => by
    rcases List.mem_cons.1 hm with rfl | hm
    · exact ⟨h.1, h.2.1, h.2.2.1⟩
    · obtain ⟨h₁, h₂, h₃⟩ := NestedForest.of_mem_preorder h.2.2.2 hm
      exact ⟨Nat.le_trans h.1 h₁, h₂, Nat.le_trans h₃ h.2.2.1⟩

theorem NestedForest.of_mem_preorder {shape : Shape} :
    {ts : List ParseTree} → {lo hi : Nat} → NestedForest lo hi ts → shape ∈ forestPreorder ts →
      lo ≤ shape.start ∧ shape.start ≤ shape.stop ∧ shape.stop ≤ hi
  | [], _, _, _, hm => by simp at hm
  | t :: ts, lo, hi, h, hm => by
    rcases List.mem_append.1 hm with hm | hm
    · exact Nested.of_mem_preorder h.1 hm
    · obtain ⟨h₁, h₂, h₃⟩ := NestedForest.of_mem_preorder h.2 hm
      exact ⟨Nat.le_trans h.1.lo_le_stop h₁, h₂, h₃⟩

end

end

/-- What a grammar promises about the spans of a text's parse. -/
structure Fits (source : Source) (t : ParseTree) : Prop where
  nested : Nested 0 source.bytes.size t
  cuts : ∀ shape ∈ t.preorder, source.CutsAt shape.start ∧ source.CutsAt shape.stop

end Tree

/-! ### Trees that are written out -/

namespace ParseTree

def named (kind : String) (start stop : Nat) (ts : List ParseTree) : ParseTree :=
  .node ⟨kind, true, false, start, stop⟩ ts

def token (kind : String) (start stop : Nat) : ParseTree :=
  .node ⟨kind, false, false, start, stop⟩ []

def name (start stop : Nat) : ParseTree := named "identifier" start stop []

def typeName (start stop : Nat) : ParseTree := named "user_type" start stop [name start stop]

/-- The tree of `@Composable`. -/
def composableMarker (start : Nat) : ParseTree := named "annotation" start (start + 11)
  [token "@" start (start + 1), typeName (start + 1) (start + 11)]

/-- The tree of `() -> Unit`. -/
def plainFunction (start : Nat) : ParseTree := named "function_type" start (start + 10)
  [named "function_type_parameters" start (start + 2)
    [token "(" start (start + 1), token ")" (start + 1) (start + 2)],
    token "->" (start + 3) (start + 5), typeName (start + 6) (start + 10)]

/-- The tree of `x: T`, where the name is one letter. -/
def letterParameter (start : Nat) (type : ParseTree) : ParseTree :=
  named "parameter" start type.label.stop
    [name start (start + 1), token ":" (start + 1) (start + 2), type]

end ParseTree

end ComposeCheck
