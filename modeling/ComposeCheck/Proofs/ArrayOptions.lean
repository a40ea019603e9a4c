import ComposeCheck.Checker
import ComposeCheck.Proofs.Directives
import ComposeCheck.Proofs.FirstAnswers
import ComposeCheck.Settings.Reader
import Mathlib.Data.List.Basic
import Mathlib.Data.String.Basic

/-!
# Arrays as options

The settings' table of options is kept as raw text: an array of strings becomes one text with commas
between the strings, and a question for a list or a set cuts it again, at commas and semicolons. So
a checker learns of an array what it would learn of the strings one by one (`items_intercalate`):
a string without separators comes back as it is, one with a separator never does
(`trimmed_mem_flatMap_items_iff`).
-/

namespace ComposeCheck

open Text

/-! ### Cutting -/

namespace Text

/-- A text without separators of items. -/
def IsWhole (text : String) : Prop := ',' ∉ text.toList ∧ ';' ∉ text.toList

instance (text : String) : Decidable (IsWhole text) :=
  inferInstanceAs (Decidable (',' ∉ text.toList ∧ ';' ∉ text.toList))

/-- The item that a piece between two separators gives, unless it is blank. -/
def itemOf? (piece : List Char) : Option String :=
  if (trim piece).isEmpty then none else some (String.ofList (trim piece))

/-- Whether a character separates items. -/
def isItemSeparator (c : Char) : Bool := c == ',' || c == ';'

section
variable {α : Type} {isSeparator : α → Bool} {cs piece : List α}

theorem eq_false_of_mem_splitWhere (h : piece ∈ splitWhere isSeparator cs) :
    ∀ c ∈ piece, isSeparator c = false := by
  induction cs generalizing piece with
  | nil =>
    rw [List.mem_singleton.1 h]
    exact fun c hc => absurd hc List.not_mem_nil
  | cons c cs ih =>
    rw [splitWhere] at h
    split at h
    case isTrue =>
      rcases List.mem_cons.1 h with rfl | h
      · exact fun c hc => absurd hc List.not_mem_nil
      · exact ih h
    case isFalse hc =>
      rw [Bool.not_eq_true] at hc
      cases hpieces : splitWhere isSeparator cs with
      | nil => exact absurd hpieces (splitWhere_ne_nil isSeparator cs)
      | cons first others =>
        rw [hpieces] at h ih
        rcases List.mem_cons.1 h with rfl | h
        · exact List.forall_mem_cons.2 ⟨hc, ih List.mem_cons_self⟩
        · exact ih (List.mem_cons_of_mem first h)

end

section
variable {c : Char} {cs : List Char} {text item : String} {texts : List String}

theorem isWhole_iff : IsWhole text ↔ ∀ c ∈ text.toList, isItemSeparator c = false := by
  simp only [IsWhole, isItemSeparator, Bool.or_eq_false_iff, beq_eq_false_iff_ne]
  constructor
  · rintro ⟨hcomma, hsemicolon⟩ c hc
    exact ⟨fun h => hcomma (h ▸ hc), fun h => hsemicolon (h ▸ hc)⟩
  · exact fun h => ⟨fun hmem => (h _ hmem).1 rfl, fun hmem => (h _ hmem).2 rfl⟩

theorem items_eq (text : String) :
    items text = (splitWhere isItemSeparator text.toList).filterMap itemOf? := by
  rw [items, List.filterMap_map]
  rfl

theorem items_append (s t : String) : items (s ++ "," ++ t) = items s ++ items t := by
  rw [items_eq, items_eq, items_eq, String.toList_append, String.toList_append, List.append_assoc]
  change (splitWhere _ (s.toList ++ ',' :: t.toList)).filterMap _ = _
  rw [splitWhere_append_separator rfl, List.filterMap_append]

/-- The items of texts with commas between them are those of the texts one by one. -/
theorem items_intercalate (texts : List String) :
    items (",".intercalate texts) = texts.flatMap items := by
  induction texts with
  | nil => rfl
  | cons text texts ih =>
    cases texts with
    | nil => simp
    | cons next texts =>
      rw [String.intercalate_cons_cons, items_append, ih, List.flatMap_cons (x := text)]

theorem mem_trim_iff (h : isBlank c = false) : c ∈ trim cs ↔ c ∈ cs := by
  obtain ⟨left, right, hcs, hleft, hright⟩ := exists_trim cs
  rw [show c ∈ cs ↔ c ∈ left ++ trim cs ++ right by rw [← hcs]]
  simp [not_mem_of_blank hleft h, not_mem_of_blank hright h]

theorem isWhole_trimmed : IsWhole (trimmed text) ↔ IsWhole text := by
  simp only [IsWhole, trimmed, String.toList_ofList, mem_trim_iff (c := ',') (by decide),
    mem_trim_iff (c := ';') (by decide)]

theorem isWhole_of_mem_items (h : item ∈ items text) : IsWhole item := by
  rw [items_eq] at h
  obtain ⟨piece, hpiece, hitem⟩ := List.mem_filterMap.1 h
  have hwhole : IsWhole (String.ofList piece) := by
    rw [isWhole_iff, String.toList_ofList]
    exact eq_false_of_mem_splitWhere hpiece
  obtain ⟨-, hitem⟩ := Option.ite_none_left_eq_some.1 hitem
  rw [← Option.some.inj hitem]
  simpa [trimmed] using isWhole_trimmed.2 hwhole

theorem items_of_isWhole (h : IsWhole text) (hblank : trimmed text ≠ "") :
    items text = [trimmed text] := by
  have hsolid : (trim text.toList).isEmpty = false := by
    rw [List.isEmpty_eq_false_iff]
    exact fun hnil => hblank (by rw [trimmed, hnil])
  rw [items_eq, splitWhere_of_forall_not (isWhole_iff.1 h), List.filterMap_cons, itemOf?, hsolid]
  rfl

/-- Of some texts that are cut one by one, those come back that have no separator. -/
theorem trimmed_mem_flatMap_items_iff (hblank : ∀ text ∈ texts, trimmed text ≠ "")
    (h : text ∈ texts) : trimmed text ∈ texts.flatMap items ↔ IsWhole text := by
  rw [List.mem_flatMap]
  constructor
  · rintro ⟨other, -, hmem⟩
    exact isWhole_trimmed.1 (isWhole_of_mem_items hmem)
  · intro hwhole
    refine ⟨text, h, ?_⟩
    rw [items_of_isWhole hwhole (hblank text h)]
    exact List.mem_singleton_self _

theorem flatMap_items (hblank : ∀ text ∈ texts, trimmed text ≠ "")
    (hwhole : ∀ text ∈ texts, IsWhole text) : texts.flatMap items = texts.map trimmed := by
  rw [List.flatMap_congr fun text h => items_of_isWhole (hwhole text h) (hblank text h)]
  exact List.map_eq_flatMap.symm

end

end Text

/-! ### Tables of options -/

namespace Toml

section
variable {entry : String × TomlValue} {entries : List (String × TomlValue)} {key : String}

/-- The keys stand in order, equal ones side by side. -/
def InOrder (entries : List (String × TomlValue)) : Prop := entries.Pairwise fun a b => a.1 ≤ b.1

/-- An entry goes behind all that have its key. -/
theorem exists_insertEntry (h : InOrder entries) (entry : String × TomlValue) : ∃ front back,
    entries = front ++ back ∧ insertEntry entry entries = front ++ entry :: back ∧
    (∀ other ∈ front, other.1 ≤ entry.1) ∧ ∀ other ∈ back, entry.1 < other.1 := by
  induction entries with
  | nil => exact ⟨[], [], rfl, rfl, by simp, by simp⟩
  | cons first entries ih =>
    obtain ⟨hfirst, hentries⟩ := List.pairwise_cons.1 h
    rw [insertEntry]
    split
    case isTrue hlt =>
      refine ⟨[], first :: entries, rfl, rfl, by simp, List.forall_mem_cons.2 ⟨hlt, ?_⟩⟩
      exact fun other hother => lt_of_lt_of_le hlt (hfirst other hother)
    case isFalse hlt =>
      obtain ⟨front, back, rfl, hinsert, hfront, hback⟩ := ih hentries
      refine ⟨first :: front, back, rfl, congrArg (first :: ·) hinsert, ?_, hback⟩
      exact List.forall_mem_cons.2 ⟨not_lt.1 hlt, hfront⟩

theorem InOrder.insertEntry (h : InOrder entries) (entry : String × TomlValue) :
    InOrder (insertEntry entry entries) := by
  obtain ⟨front, back, rfl, hinsert, hfront, hback⟩ := exists_insertEntry h entry
  rw [hinsert]
  obtain ⟨hfronts, hbacks, hcross⟩ := List.pairwise_append.1 h
  refine List.pairwise_append.2 ⟨hfronts, List.pairwise_cons.2 ⟨fun other hother => ?_, hbacks⟩,
    fun a ha => List.forall_mem_cons.2 ⟨hfront a ha, hcross a ha⟩⟩
  exact le_of_lt (hback other hother)

/-- Read from the end, the new entry is met before the others of its key. -/
theorem lookup_reverse_insertEntry {written : String} {value : TomlValue} (h : InOrder entries) :
    (insertEntry (written, value) entries).reverse.lookup key =
      ((written, value) :: entries.reverse).lookup key := by
  obtain ⟨front, back, rfl, hinsert, -, hback⟩ := exists_insertEntry h (written, value)
  rw [hinsert, List.lookup_cons]
  simp only [List.reverse_append, List.reverse_cons, List.lookup_append, List.lookup_cons,
    List.lookup_nil]
  cases hkey : key == written with
  | false => simp
  | true =>
    have hnone : back.reverse.lookup key = none := by
      rw [List.lookup_eq_none_iff]
      intro other hother
      rw [beq_iff_eq.1 hkey, bne_iff_ne]
      exact (hback other (List.mem_reverse.1 hother)).ne
    simp [hnone]

end

end Toml

namespace TomlValue

section
variable {entries settled : List (String × TomlValue)} {key : String} {texts : List String}

theorem settledItems?_strings (texts : List String) :
    settledItems? (texts.map string) = some (texts.map string) := by
  induction texts with
  | nil => rfl
  | cons text texts ih => simp [settledItems?, settled?, ih]

theorem optionText_strings (texts : List String) :
    (array (texts.map string)).optionText = ",".intercalate texts := by
  have htexts : optionTexts (texts.map string) = texts := by
    induction texts with
    | nil => rfl
    | cons text texts ih => rw [List.map_cons, optionTexts, optionText, ih]
  rw [optionText, htexts]

/-- Settled entries stand in the order of their keys; read from the end, the first that is written
under a key is met first. -/
theorem of_settledEntries? (h : settledEntries? entries = some settled) :
    Toml.InOrder settled ∧
      ∀ key, settled.reverse.lookup key = (entries.lookup key).bind settled? := by
  induction entries generalizing settled with
  | nil =>
    cases h
    exact ⟨.nil, fun _ => rfl⟩
  | cons entry entries ih =>
    obtain ⟨written, value⟩ := entry
    simp only [settledEntries?, bind, Option.bind_eq_some_iff, pure, Option.some.injEq] at h
    obtain ⟨settledValue, hvalue, others, hothers, rfl⟩ := h
    obtain ⟨horder, hlookup⟩ := ih hothers
    refine ⟨horder.insertEntry _, fun key => ?_⟩
    rw [Toml.lookup_reverse_insertEntry horder, List.lookup_cons, List.lookup_cons]
    split
    · exact hvalue.symm
    · exact hlookup key

end

end TomlValue

theorem lookup_map_snd {α β : Type} (f : α → β) (entries : List (String × α)) (key : String) :
    (entries.map fun (key, value) => (key, f value)).lookup key = (entries.lookup key).map f := by
  induction entries with
  | nil => rfl
  | cons entry entries ih =>
    rw [List.map_cons, List.lookup_cons, List.lookup_cons]
    split
    · rfl
    · exact ih

namespace OptionSource

/-- A table has the text of the value that is written first under a key. -/
theorem lookup_of_valuesOf? {entries : List (String × TomlValue)} {values : List (String × String)}
    (h : valuesOf? entries = some values) (key : String) :
    (table values).lookup key =
      ((entries.lookup key).bind TomlValue.settled?).map TomlValue.optionText := by
  obtain ⟨settled, hsettled, rfl⟩ := Option.map_eq_some_iff.1 h
  rw [lookup, ← List.map_reverse, lookup_map_snd, (TomlValue.of_settledEntries? hsettled).2]

end OptionSource

namespace Settings

theorem valuesOf?_of_ofToml? {document entries : List (String × TomlValue)} {settings : Settings}
    (h : ofToml? document = some settings)
    (htable : document.lookup "compose" = some (.table entries)) :
    OptionSource.valuesOf? entries = some settings.options := by
  simp only [ofToml?, htable, optionalField, TomlValue.entries?, Option.map_some, bind,
    Option.bind_eq_some_iff, pure, Option.some.injEq] at h
  obtain ⟨_, rfl, _, -, _, -, _, -, values, hvalues, rfl⟩ := h
  exact hvalues

end Settings

namespace Checker

section
variable {document entries : List (String × TomlValue)} {settings : Settings} {key : String}
  {texts : List String}

/-- A checker finds an array of strings as one text with commas. -/
theorem resolve_of_array (hsettings : Settings.ofToml? document = some settings)
    (htable : document.lookup "compose" = some (.table entries))
    (harray : entries.lookup key = some (.array (texts.map .string)))
    (editorConfig? : Option EditorConfig) (request : Request) :
    (Checker.of settings editorConfig? request).options.resolve key =
      some (",".intercalate texts) := by
  have hlookup := OptionSource.lookup_of_valuesOf?
    (Settings.valuesOf?_of_ofToml? hsettings htable) key
  rw [harray, Option.bind_some, TomlValue.settled?, TomlValue.settledItems?_strings,
    Option.map_some, Option.map_some, TomlValue.optionText_strings] at hlookup
  have hresolve : (OptionSource.table settings.options).resolve key =
      some (",".intercalate texts) := hlookup
  rw [OptionChain.resolve, Checker.of, List.findSome?_cons, hresolve]

end

end Checker

/-! ### Answers -/

namespace Question

variable {first q : Question} {backend : Backend} {raw : String} {value : q.kind.Value}

theorem fresh_of_read (hlike : first.isLike q = true) (hraw : backend q.name = some raw)
    (hread : q.kind.read raw = some value) : first.fresh backend = ⟨q.kind, q.name, value⟩ := by
  obtain ⟨hkind, hname⟩ := isLike_iff.1 hlike
  rw [← hname] at hraw ⊢
  revert value
  rw [← hkind]
  intro value hread
  rw [fresh, hraw, Option.bind_some, hread, Option.getD_some]

end Question

namespace Checker

/-- The answers to questions that are asked one after the other. -/
def answersTo (checker : Checker) (asked : List Question) : List Answer :=
  (Memo.empty.respond (asked.map fun q => (checker.options.resolve, q))).1

section
variable {document entries : List (String × TomlValue)} {settings : Settings} {key : String}
  {texts : List String} {checker : Checker} {asked : List Question} {q : Question} {raw : String}
  {value : q.kind.Value} {i : Nat}

/-- Where something of use is written, neither earlier questions nor defaults count. -/
theorem answersTo_of_read (hq : asked[i]? = some q)
    (hraw : checker.options.resolve q.name = some raw) (hread : q.kind.read raw = some value) :
    (checker.answersTo asked)[i]? = some ⟨q.kind, q.name, value⟩ := by
  have hmem : (checker.options.resolve, q) ∈
      asked.map fun q => (checker.options.resolve, q) :=
    List.mem_map_of_mem (List.mem_of_getElem? hq)
  obtain ⟨before, backend, first, after, hasked, hlike, -, hfirst⟩ := Memo.exists_first hmem
  have hbackend : (backend, first) ∈ asked.map fun q => (checker.options.resolve, q) := by
    rw [hasked]
    simp
  obtain ⟨_, -, hpair⟩ := List.mem_map.1 hbackend
  obtain ⟨rfl, rfl⟩ := Prod.mk.inj hpair
  rw [answersTo, Memo.respond_eq, List.getElem?_map, List.getElem?_map, hq, Option.map_some,
    Option.map_some, hfirst, Question.fresh_of_read hlike hraw hread]
  rfl

/-- An array of strings is cut at separators: a list has the items of the strings one by one, in
order, and a set has the same items. Those that come back are the strings without separators, so the
answers are the strings themselves, trimmed, only if there is no separator in any of them. -/
theorem array_answers_are_cut (hsettings : Settings.ofToml? document = some settings)
    (htable : document.lookup "compose" = some (.table entries))
    (harray : entries.lookup key = some (.array (texts.map .string)))
    (hblank : ∀ text ∈ texts, trimmed text ≠ "") (editorConfig? : Option EditorConfig)
    (request : Request) (asked : List Question) :
    let answers := (Checker.of settings editorConfig? request).answersTo asked
    let cut := texts.flatMap items
    (∀ (i : Nat) default, asked[i]? = some (.list key default) →
      answers[i]? = some ⟨.list, key, cut⟩) ∧
    (∀ (i : Nat) default, asked[i]? = some (.set key default) →
      answers[i]? = some ⟨.set, key, cut.eraseDups⟩) ∧
    (∀ text ∈ texts, trimmed text ∈ cut ↔ IsWhole text) ∧
    (cut = texts.map trimmed ↔ ∀ text ∈ texts, IsWhole text) ∧
    ((∀ item, item ∈ cut.eraseDups ↔ item ∈ texts.map trimmed) ↔ ∀ text ∈ texts, IsWhole text) := by
  intro answers cut
  have hraw := resolve_of_array hsettings htable harray editorConfig? request
  have hcomes {text : String} (h : text ∈ texts) : trimmed text ∈ cut ↔ IsWhole text :=
    trimmed_mem_flatMap_items_iff hblank h
  have htrimmed {text : String} (h : text ∈ texts) : trimmed text ∈ texts.map trimmed :=
    List.mem_map_of_mem h
  refine ⟨fun i default hi => ?_, fun i default hi => ?_, fun text => hcomes,
    ⟨fun hsame text h => ?_, flatMap_items hblank⟩, ⟨fun hsame text h => ?_, fun hwhole item => ?_⟩⟩
  · exact answersTo_of_read hi hraw (congrArg some (items_intercalate texts))
  · refine answersTo_of_read hi hraw ?_
    rw [← show items (",".intercalate texts) = cut from items_intercalate texts]
    rfl
  · exact (hcomes h).1 (hsame ▸ htrimmed h)
  · exact (hcomes h).1 (List.mem_eraseDups.1 ((hsame _).2 (htrimmed h)))
  · rw [List.mem_eraseDups, show cut = _ from flatMap_items hblank hwhole]

/-- Patterns of which one has a comma. -/
def patternTexts : List String := ["Foo.\x7b1,3\x7d", " Bar", "Bar"]

def patternEntries : List (String × TomlValue) :=
  [("contentEmitters", .string "Title"), ("allowedNames", .array (patternTexts.map .string))]

def patternSettings : Settings :=
  { scan := Settings.defaultScan
    options := [("allowedNames", "Foo.\x7b1,3\x7d, Bar,Bar"), ("contentEmitters", "Title")] }

theorem array_answers_are_cut_pattern :
    let checker := Checker.of patternSettings none { root := ".", rules := [] }
    let asked : List Question := [.text "allowedNames" "", .set "allowedNames" [],
      .list "allowedNames" ["None"]]
    Settings.ofToml? [("compose", .table patternEntries)] = some patternSettings ∧
    (checker.answersTo asked)[1]? = some ⟨.set, "allowedNames", ["Foo.\x7b1", "3\x7d", "Bar"]⟩ ∧
    (checker.answersTo asked)[2]? =
      some ⟨.list, "allowedNames", ["Foo.\x7b1", "3\x7d", "Bar", "Bar"]⟩ ∧
    ¬IsWhole "Foo.\x7b1,3\x7d" ∧ trimmed " Bar" ∈ patternTexts.flatMap items := by
  intro checker asked
  have hsettings : Settings.ofToml? [("compose", .table patternEntries)] =
      some patternSettings := by decide +kernel
  have hblank : ∀ text ∈ patternTexts, trimmed text ≠ "" := by decide +kernel
  have harray : patternEntries.lookup "allowedNames" =
      some (.array (patternTexts.map .string)) := rfl
  obtain ⟨hlist, hset, hcomes, -, -⟩ :=
    array_answers_are_cut hsettings rfl harray hblank none ⟨".", [], [], .report, false⟩ asked
  have hbar : " Bar" ∈ patternTexts := by simp [patternTexts]
  exact ⟨hsettings, hset 1 [] rfl, hlist 2 ["None"] rfl, by decide,
    (hcomes _ hbar).2 (by decide)⟩

end

end Checker

end ComposeCheck
