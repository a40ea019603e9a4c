import ComposeCheck.CommandLine.Arguments
import ComposeCheck.Proofs.Directives

/-!
# What a command line says

Words are read from left to right, and an option may have its value in the same word or in the next
one. Written down as a grammar, words are phrases one after the other (`Spelled`), and the reading
of words to their end is exactly that grammar (`scan_eq_iff`). A check then holds what the items
say, each option once (`Holds`): one step for each item, and by induction for all of them.
-/

namespace ComposeCheck

namespace Text

theorem afterLead_eq_some_iff {lead word rest : String} :
    afterLead lead word = some rest ↔ word = lead ++ rest := by
  simp only [afterLead, Option.map_eq_some_iff, dropLead_eq_some_iff,
    ← @String.toList_inj word, String.toList_append]
  constructor
  · rintro ⟨cs, h, rfl⟩
    rw [h, String.toList_ofList]
  · intro h
    exact ⟨_, h, String.ofList_toList⟩

end Text

open Text

namespace Arguments

/-! ### Phrases -/

section
variable (switches : List Switch) (hasVersion : Bool)

/-- A letter asks for a switch, and not for help or for the version. -/
def Asks (letter : Char) (switch : Switch) : Prop :=
  letter ≠ 'h' ∧ ¬(letter = 'V' ∧ hasVersion = true) ∧
    switches.find? (·.letter? = some letter) = some switch

/-- What letters after one dash say: flags, and at the end perhaps an option that takes a value. -/
inductive Letters : List Char → List Item → Option (String × Option String) → Prop
  | nil : Letters [] [] none
  | flag {letter : Char} {switch : Switch} {rest : List Char} {items : List Item}
      {pending : Option (String × Option String)} (h : Asks switches hasVersion letter switch)
      (hflag : switch.takesValue = false) (hrest : Letters rest items pending) :
    Letters (letter :: rest) (.flag switch.name :: items) pending
  | value {letter : Char} {switch : Switch} (rest : List Char)
      (h : Asks switches hasVersion letter switch) (hvalue : switch.takesValue = true) :
    Letters (letter :: rest) [] (some (switch.name, attached rest))

/-- What one word says, or a word with its value behind it. -/
inductive Phrase : List String → List Item → Prop
  | word (text : String) (h : isValue text = true) : Phrase [text] [.word text]
  | flag {name : String} {switch : Switch} (hname : name ≠ "") (hplain : '=' ∉ name.toList)
      (hending : endingOf? hasVersion name = none)
      (h : switches.find? (·.name = name) = some switch) (hflag : switch.takesValue = false) :
    Phrase ["--" ++ name] [.flag name]
  | joined {name : String} {switch : Switch} (text : String) (hplain : '=' ∉ name.toList)
      (h : switches.find? (·.name = name) = some switch) (hvalue : switch.takesValue = true) :
    Phrase ["--" ++ (name ++ "=" ++ text)] [.value name text]
  | apart {name : String} {switch : Switch} {text : String} (hname : name ≠ "")
      (hplain : '=' ∉ name.toList) (hending : endingOf? hasVersion name = none)
      (h : switches.find? (·.name = name) = some switch) (hvalue : switch.takesValue = true)
      (htext : isValue text = true) :
    Phrase ["--" ++ name, text] [.value name text]
  | letters {letters : List Char} {items : List Item} (hne : letters ≠ [])
      (hdash : letters.head? ≠ some '-') (h : Letters switches hasVersion letters items none) :
    Phrase ["-" ++ String.ofList letters] items
  | lettersJoined {letters : List Char} {items : List Item} {name text : String}
      (hdash : letters.head? ≠ some '-')
      (h : Letters switches hasVersion letters items (some (name, some text))) :
    Phrase ["-" ++ String.ofList letters] (items ++ [.value name text])
  | lettersApart {letters : List Char} {items : List Item} {name text : String}
      (hdash : letters.head? ≠ some '-')
      (h : Letters switches hasVersion letters items (some (name, none)))
      (htext : isValue text = true) :
    Phrase ["-" ++ String.ofList letters, text] (items ++ [.value name text])

/-- What words say, phrase by phrase. After two dashes no word is an option. -/
inductive Spelled : List String → List Item → Prop
  | nil : Spelled [] []
  | cons {front words : List String} {first items : List Item}
      (hfirst : Phrase switches hasVersion front first) (hitems : Spelled words items) :
    Spelled (front ++ words) (first ++ items)
  | dashes (words : List String) : Spelled ("--" :: words) (words.map .word)

end

/-- The text of a word that is no option. -/
@[simp] def Item.word? : Item → Option String
  | word text => some text
  | _ => none

/-- The value that is given to an option. -/
@[simp] def Item.valueOf? (option : String) : Item → Option String
  | value name text => if name = option then some text else none
  | _ => none

/-- The words that are no options. -/
def wordsIn (items : List Item) : List String := items.filterMap Item.word?

/-- The values that are given to an option. -/
def valuesOf (option : String) (items : List Item) : List String :=
  items.filterMap (Item.valueOf? option)

/-! ### Reading one word -/

/-- A word is a value, two dashes, a name behind two dashes, or letters behind one. -/
inductive WordShape : String → Prop
  | value (word : String) (h : isValue word = true) : WordShape word
  | dashes : WordShape "--"
  | long {long : String} (h : long ≠ "") : WordShape ("--" ++ long)
  | short {letters : List Char} (hne : letters ≠ []) (hdash : letters.head? ≠ some '-') :
    WordShape ("-" ++ String.ofList letters)

theorem isValue_eq_false_iff {word : String} :
    isValue word = false ↔ ∃ rest, rest ≠ "" ∧ word = "-" ++ rest := by
  have hlead : hasLead "-" word = (afterLead "-" word).isSome := by
    rw [hasLead, afterLead, Option.isSome_map]
  simp only [isValue, Bool.or_eq_false_iff, Bool.not_eq_false', hlead, beq_eq_false_iff_ne,
    Option.isSome_iff_exists, afterLead_eq_some_iff]
  constructor
  · rintro ⟨⟨rest, rfl⟩, hne⟩
    exact ⟨rest, by rintro rfl; exact hne rfl, rfl⟩
  · rintro ⟨rest, hne, rfl⟩
    exact ⟨⟨rest, rfl⟩, by simpa using hne⟩

theorem dashes_append (long : String) : "--" ++ long = "-" ++ ("-" ++ long) := by
  rw [← String.append_assoc]
  rfl

theorem isValue_long (long : String) : isValue ("--" ++ long) = false :=
  isValue_eq_false_iff.2 ⟨"-" ++ long, by simp, dashes_append long⟩

theorem isValue_short {letters : List Char} (hne : letters ≠ []) :
    isValue ("-" ++ String.ofList letters) = false :=
  isValue_eq_false_iff.2 ⟨_, by simpa using hne, rfl⟩

theorem wordShape (word : String) : WordShape word := by
  cases hvalue : isValue word with
  | true => exact .value word hvalue
  | false =>
    obtain ⟨rest, hrest, rfl⟩ := isValue_eq_false_iff.1 hvalue
    rw [← String.ofList_toList (s := rest)]
    by_cases hdash : rest.toList.head? = some '-'
    · obtain ⟨long, hlong⟩ := List.head?_eq_some_iff.1 hdash
      have hword : "-" ++ String.ofList rest.toList = "--" ++ String.ofList long := by
        rw [← String.toList_inj]
        simp [hlong]
      rw [hword]
      by_cases hne : String.ofList long = ""
      · rw [hne]
        exact .dashes
      · exact .long hne
    · exact .short (by simpa using hrest) hdash

theorem cut_eq_some_iff {word name text : String} :
    cut "=" word = some (name, text) ↔ word = name ++ "=" ++ text ∧ '=' ∉ name.toList := by
  have hneedle : "=".toList = ['='] := rfl
  simp only [cut, hneedle, Option.map_eq_some_iff, Prod.exists, splitFirst_singleton_eq_some_iff,
    Prod.mk.injEq, ← @String.toList_inj word, String.toList_append]
  constructor
  · rintro ⟨before, rest, ⟨hword, hbefore⟩, rfl, rfl⟩
    rw [String.toList_ofList, String.toList_ofList]
    exact ⟨by simp [hword], hbefore⟩
  · rintro ⟨hword, hname⟩
    exact ⟨_, _, ⟨by simp [hword], hname⟩, String.ofList_toList, String.ofList_toList⟩

theorem splitValue_eq_some_iff {word name text : String} :
    splitValue word = (name, some text) ↔ word = name ++ "=" ++ text ∧ '=' ∉ name.toList := by
  rw [← cut_eq_some_iff, splitValue]
  split
  case h_1 h => simp [h]
  case h_2 h => simp [h]

theorem splitValue_eq_none_iff {word name : String} :
    splitValue word = (name, none) ↔ word = name ∧ '=' ∉ name.toList := by
  rw [splitValue]
  split
  case h_1 before text h =>
    obtain ⟨rfl, -⟩ := cut_eq_some_iff.1 h
    constructor
    · intro h
      cases h
    · rintro ⟨rfl, hname⟩
      simp at hname
  case h_2 h =>
    simp only [Prod.mk.injEq, and_true]
    refine ⟨?_, And.left⟩
    rintro rfl
    refine ⟨rfl, fun hmem => ?_⟩
    simp only [cut, Option.map_eq_none_iff, splitFirst_eq_none_iff] at h
    obtain ⟨before, after, hname⟩ := List.append_of_mem hmem
    exact h ⟨before, after, by rw [hname]; simp⟩

section
variable {switches : List Switch} {hasVersion upTo : Bool} {items : List Item}
  {words : List String}

theorem readLetters_eq_iff {letters : List Char} {pending : Option (String × Option String)} :
    readLetters switches hasVersion letters = (items, pending, .words) ↔
      Letters switches hasVersion letters items pending := by
  induction letters generalizing items with
  | nil =>
    constructor
    · intro h
      cases h
      exact .nil
    · intro h
      cases h
      rfl
  | cons letter rest ih =>
    rw [readLetters]
    constructor
    · intro h
      split at h
      · cases h
      split at h
      · cases h
      split at h
      · cases h
      case h_2 hhelp hversion _ switch hswitch =>
        split at h
        case isTrue hvalue =>
          cases h
          exact .value rest ⟨hhelp, hversion, hswitch⟩ hvalue
        case isFalse hflag =>
          cases hrest : readLetters switches hasVersion rest with | mk others found =>
          obtain ⟨pending', ending⟩ := found
          rw [hrest] at h
          cases h
          exact .flag ⟨hhelp, hversion, hswitch⟩ (Bool.eq_false_iff.2 hflag)
            (ih.1 hrest)
    · intro h
      cases h with
      | flag h hflag hrest =>
        obtain ⟨hhelp, hversion, hswitch⟩ := h
        rw [if_neg hhelp, if_neg hversion, hswitch]
        simp [hflag, ih.2 hrest]
      | value _ h hvalue =>
        obtain ⟨hhelp, hversion, hswitch⟩ := h
        rw [if_neg hhelp, if_neg hversion, hswitch]
        simp [hvalue]

/-- What is read if `first` has been said before. -/
def Scan.behind (first : List Item) (found : Scan × List String) : Scan × List String :=
  (⟨first ++ found.1.items, found.1.ending⟩, found.2)

theorem behind_behind (first second : List Item) (found : Scan × List String) :
    Scan.behind first (Scan.behind second found) = Scan.behind (first ++ second) found := by
  simp [Scan.behind]

theorem scan_value {word : String} (h : isValue word = true) (words : List String) :
    scan switches hasVersion upTo (word :: words) =
      if upTo = true then (⟨[], .words⟩, word :: words)
      else Scan.behind [.word word] (scan switches hasVersion upTo words) := by
  rw [scan, if_pos h]
  rfl

theorem scan_dashes (words : List String) :
    scan switches hasVersion upTo ("--" :: words) =
      if upTo = true then (.stop (if words.isEmpty then .words else .misuse), [])
      else (⟨words.map .word, .words⟩, []) := by
  rw [scan, if_neg (by decide), if_pos rfl]

theorem scan_long {long : String} (h : long ≠ "") (words : List String) :
    scan switches hasVersion upTo (("--" ++ long) :: words) =
      let (name, value?) := splitValue long
      match endingOf? hasVersion name, switches.find? (·.name = name), value? with
      | some ending, _, none => (.stop ending, [])
      | _, none, _ => (.stop .misuse, [])
      | _, some switch, some value =>
        if switch.takesValue then
          Scan.behind [.value name value] (scan switches hasVersion upTo words)
        else (.stop .misuse, [])
      | _, some switch, none =>
        if switch.takesValue then scan.readValue switches hasVersion name upTo words
        else Scan.behind [.flag name] (scan switches hasVersion upTo words) := by
  rw [scan, if_neg (by simp [isValue_long]), if_neg (by simpa using h),
    afterLead_eq_some_iff.2 rfl]
  rfl

theorem scan_short {letters : List Char} (hne : letters ≠ []) (hdash : letters.head? ≠ some '-')
    (words : List String) :
    scan switches hasVersion upTo (("-" ++ String.ofList letters) :: words) =
      let (items, pending, ending) := readLetters switches hasVersion letters
      Scan.behind items (match ending, pending with
        | .words, none => scan switches hasVersion upTo words
        | .words, some (name, some value) =>
          Scan.behind [.value name value] (scan switches hasVersion upTo words)
        | .words, some (name, none) => scan.readValue switches hasVersion name upTo words
        | ending, _ => (.stop ending, [])) := by
  have hshort (rest : String) : "-" ++ String.ofList letters ≠ "--" ++ rest := by
    intro h
    have h := congrArg String.toList h
    rw [dashes_append, String.toList_append, String.toList_append, List.append_right_inj,
      String.toList_append, String.toList_ofList] at h
    exact hdash (by rw [h]; rfl)
  have hafter : afterLead "--" ("-" ++ String.ofList letters) = none :=
    Option.eq_none_iff_forall_ne_some.2 fun rest h => hshort rest (afterLead_eq_some_iff.1 h)
  have hdrop : ("-" ++ String.ofList letters).toList.drop 1 = letters := by simp
  rw [scan, if_neg (by rw [isValue_short hne]; decide),
    if_neg fun h => hshort "" (h.trans String.append_empty.symm), hafter]
  simp only [hdrop]
  rfl

theorem readValue_cons {name text : String} (h : isValue text = true) (words : List String) :
    scan.readValue switches hasVersion name upTo (text :: words) =
      Scan.behind [.value name text] (scan switches hasVersion upTo words) := by
  rw [scan.readValue, if_pos h]
  rfl

theorem exists_of_readValue {name : String}
    (h : (scan.readValue switches hasVersion name upTo words).1.ending = .words) :
    ∃ text rest, words = text :: rest ∧ isValue text = true ∧
      scan.readValue switches hasVersion name upTo words =
        Scan.behind [.value name text] (scan switches hasVersion upTo rest) := by
  cases words with
  | nil => nomatch h
  | cons text rest =>
    cases htext : isValue text with
    | true => exact ⟨text, rest, rfl, htext, readValue_cons htext rest⟩
    | false =>
      rw [scan.readValue, htext] at h
      nomatch h

/-! ### Reading all words -/

/-- A phrase is read first, and then the words behind it. -/
theorem scan_phrase {front : List String} {first : List Item}
    (h : Phrase switches hasVersion front first) (words : List String) :
    scan switches hasVersion false (front ++ words) =
      Scan.behind first (scan switches hasVersion false words) := by
  cases h with
  | word text h => exact scan_value h words
  | @flag name switch hname hplain hending h hflag =>
    rw [List.singleton_append, scan_long hname, splitValue_eq_none_iff.2 ⟨rfl, hplain⟩]
    simp only [hending, h]
    rw [if_neg (by rw [hflag]; decide)]
  | @joined name switch text hplain h hvalue =>
    rw [List.singleton_append, scan_long (by simp), splitValue_eq_some_iff.2 ⟨rfl, hplain⟩]
    simp only [h]
    rw [if_pos hvalue]
  | @apart name switch text hname hplain hending h hvalue htext =>
    rw [List.cons_append, List.singleton_append, scan_long hname,
      splitValue_eq_none_iff.2 ⟨rfl, hplain⟩]
    simp only [hending, h]
    rw [if_pos hvalue, readValue_cons htext]
  | letters hne hdash h =>
    rw [List.singleton_append, scan_short hne hdash, readLetters_eq_iff.2 h]
  | @lettersJoined letters items name text hdash h =>
    have hne : letters ≠ [] := by rintro rfl; nomatch h
    rw [List.singleton_append, scan_short hne hdash, readLetters_eq_iff.2 h]
    exact behind_behind _ _ _
  | @lettersApart letters items name text hdash h htext =>
    have hne : letters ≠ [] := by rintro rfl; nomatch h
    rw [List.cons_append, List.singleton_append, scan_short hne hdash, readLetters_eq_iff.2 h]
    simp only
    rw [readValue_cons htext, behind_behind]

/-- An option that can be read is the start of a phrase. -/
theorem exists_phrase {word : String} (hvalue : isValue word = false) (hdashes : word ≠ "--")
    (h : (scan switches hasVersion upTo (word :: words)).1.ending = .words) :
    ∃ front first rest, word :: words = front ++ rest ∧ rest.length ≤ words.length ∧
      Phrase switches hasVersion front first ∧
      scan switches hasVersion upTo (word :: words) =
        Scan.behind first (scan switches hasVersion upTo rest) := by
  cases wordShape word with
  | value _ h => exact nomatch hvalue.symm.trans h
  | dashes => exact absurd rfl hdashes
  | @long long hlong =>
    rw [scan_long hlong] at h ⊢
    cases hsplit : splitValue long with | mk name value? =>
    simp only [hsplit] at h ⊢
    split at h
    case h_1 ending _ _ hending =>
      rw [endingOf?] at hending
      split at hending
      · cases hending
        nomatch h
      split at hending
      · cases hending
        nomatch h
      · nomatch hending
    case h_2 => nomatch h
    case h_3 switch text hswitch =>
      obtain ⟨rfl, hplain⟩ := splitValue_eq_some_iff.1 hsplit
      split at h
      case isTrue hvalue =>
        exact ⟨_, _, words, rfl, Nat.le_refl _, .joined text hplain hswitch hvalue, if_pos hvalue⟩
      case isFalse => nomatch h
    case h_4 switch hswitch hending =>
      obtain ⟨rfl, hplain⟩ := splitValue_eq_none_iff.1 hsplit
      have hending : endingOf? hasVersion long = none := Option.eq_none_iff_forall_ne_some.2 hending
      split at h
      case isTrue hvalue =>
        obtain ⟨text, rest, rfl, htext, hread⟩ := exists_of_readValue h
        exact ⟨_, _, rest, rfl, Nat.le_succ _,
          .apart hlong hplain hending hswitch hvalue htext, (if_pos hvalue).trans hread⟩
      case isFalse hflag =>
        exact ⟨_, _, words, rfl, Nat.le_refl _,
          .flag hlong hplain hending hswitch (Bool.eq_false_iff.2 hflag), if_neg hflag⟩
  | @short letters hne hdash =>
    rw [scan_short hne hdash] at h ⊢
    cases hletters : readLetters switches hasVersion letters with | mk items found =>
    obtain ⟨pending, ending⟩ := found
    simp only [hletters] at h ⊢
    split at h
    case h_1 =>
      exact ⟨_, items, words, rfl, Nat.le_refl _,
        .letters hne hdash (readLetters_eq_iff.1 hletters), rfl⟩
    case h_2 name text =>
      exact ⟨_, _, words, rfl, Nat.le_refl _,
        .lettersJoined hdash (readLetters_eq_iff.1 hletters), behind_behind _ _ _⟩
    case h_3 name =>
      obtain ⟨text, rest, rfl, htext, hread⟩ := exists_of_readValue h
      refine ⟨_, _, rest, rfl, Nat.le_succ _,
        .lettersApart hdash (readLetters_eq_iff.1 hletters) htext, ?_⟩
      simp only [hread, behind_behind]
    case h_4 hnone hjoined hapart =>
      obtain rfl : ending = .words := h
      match pending with
      | none => exact absurd rfl (hnone rfl)
      | some (name, some text) => exact absurd rfl (hjoined name text rfl)
      | some (name, none) => exact absurd rfl (hapart name rfl)

/-- Words that make sense are spelled out up to where the reading stops. -/
theorem exists_spelled (h : (scan switches hasVersion upTo words).1.ending = .words) :
    (upTo = false → (scan switches hasVersion upTo words).2 = []) ∧
    ∃ front, words = front ++ (scan switches hasVersion upTo words).2 ∧
      Spelled switches hasVersion front (scan switches hasVersion upTo words).1.items := by
  -- a phrase may take two words, so the induction is on how many there are
  induction hlength : words.length using Nat.strong_induction_on generalizing words with | _ n ih =>
  cases words with
  | nil => exact ⟨fun _ => rfl, [], rfl, .nil⟩
  | cons word words =>
    cases hvalue : isValue word with
    | true =>
      rw [scan_value hvalue] at h ⊢
      split at h
      case isTrue hupTo =>
        rw [if_pos hupTo]
        exact ⟨fun hfalse => absurd (hupTo.symm.trans hfalse) (by decide), [], rfl, .nil⟩
      case isFalse hupTo =>
        rw [if_neg hupTo]
        obtain ⟨hend, front, hwords, hspelled⟩ := ih words.length (by simp [← hlength]) h rfl
        exact ⟨hend, [word] ++ front, congrArg (word :: ·) hwords,
          .cons (.word word hvalue) hspelled⟩
    | false =>
      by_cases hdashes : word = "--"
      · subst hdashes
        rw [scan_dashes] at h ⊢
        split at h
        case isTrue hupTo =>
          rw [if_pos hupTo]
          cases words with
          | nil => exact ⟨fun _ => rfl, ["--"], rfl, .dashes []⟩
          | cons => nomatch h
        case isFalse hupTo =>
          rw [if_neg hupTo]
          exact ⟨fun _ => rfl, _, (List.append_nil _).symm, .dashes words⟩
      · obtain ⟨first, found, rest, hfront, hshort, hphrase, hscan⟩ :=
          exists_phrase hvalue hdashes h
        rw [hscan] at h ⊢
        obtain ⟨hend, front, hwords, hspelled⟩ :=
          ih rest.length (by rw [List.length_cons] at hlength; omega) h rfl
        refine ⟨hend, first ++ front, ?_, .cons hphrase hspelled⟩
        rw [hfront, List.append_assoc]
        exact congrArg _ hwords

theorem scan_spelled (h : Spelled switches hasVersion words items) :
    scan switches hasVersion false words = (⟨items, .words⟩, []) := by
  induction h with
  | nil => rfl
  | cons hfirst _ ih => rw [scan_phrase hfirst, ih]; rfl
  | dashes words => exact scan_dashes words

/-- Words are read to their end if and only if they are phrases, and then as what these say. -/
theorem scan_eq_iff : (scan switches hasVersion false words).1 = ⟨items, .words⟩ ↔
    Spelled switches hasVersion words items := by
  refine ⟨fun h => ?_, fun h => congrArg Prod.fst (scan_spelled h)⟩
  obtain ⟨hend, front, hwords, hspelled⟩ := exists_spelled (congrArg Scan.ending h)
  rw [hend rfl, List.append_nil] at hwords
  rw [h, ← hwords] at hspelled
  exact hspelled

end

/-! ### What a check takes in -/

section
variable {items before : List Item} {item : Item} {draft draft' : CheckDraft}
  {common common' : Common}

/-- How an item of `check` changes what has been read. -/
inductive CheckDraft.Takes (draft : CheckDraft) : Item → CheckDraft → Prop
  | path (text : String) (h : draft.path? = none) :
    Takes draft (.word text) { draft with path? := some text }
  | format (word : String) (format : Format) (h : draft.format? = none)
      (hword : Format.ofWord? word = some format) :
    Takes draft (.value "format" word) { draft with format? := some format }
  | rules (text : String) (h : draft.rules? = none) :
    Takes draft (.value "rules" text) { draft with rules? := some text }
  | preset (name : String) (h : draft.preset? = none) :
    Takes draft (.value "preset" name) { draft with preset? := some name }
  | exclude (pattern : String) :
    Takes draft (.value "exclude" pattern) { draft with exclude := draft.exclude ++ [pattern] }
  | fix (h : draft.fix = false) : Takes draft (.flag "fix") { draft with fix := true }

theorem CheckDraft.takes_of_take? (h : draft.take? item = some draft') :
    draft.Takes item draft' := by
  unfold take? at h
  split at h
  case h_1 text =>
    obtain ⟨hnone, h⟩ := Option.ite_none_left_eq_some.1 h
    cases h
    exact .path text (by simp_all)
  case h_2 word =>
    obtain ⟨hnone, h⟩ := Option.ite_none_left_eq_some.1 h
    obtain ⟨_, hword, rfl⟩ := Option.map_eq_some_iff.1 h
    obtain ⟨format, hformat, hsome⟩ := Option.bind_eq_some_iff.1 hword
    cases hsome
    exact .format word format (by simp_all) hformat
  case h_3 text =>
    obtain ⟨hnone, h⟩ := Option.ite_none_left_eq_some.1 h
    cases h
    exact .rules text (by simp_all)
  case h_4 name =>
    obtain ⟨hnone, h⟩ := Option.ite_none_left_eq_some.1 h
    cases h
    exact .preset name (by simp_all)
  case h_5 pattern =>
    cases h
    exact .exclude pattern
  case h_6 =>
    obtain ⟨hnone, h⟩ := Option.ite_none_left_eq_some.1 h
    cases h
    exact .fix (by simp_all)
  case h_7 => cases h

/-- How an item that every command understands changes what has been read. -/
inductive Common.Takes (common : Common) : Item → Common → Prop
  | verbose (h : common.verbose = false) :
    Takes common (.flag "verbose") { common with verbose := true }
  | config (path : String) (h : common.config? = none) :
    Takes common (.value "config" path) { common with config? := some path }

theorem Common.takes_of_take? (h : common.take? item = some common') :
    common.Takes item common' := by
  unfold take? at h
  split at h
  case h_1 =>
    obtain ⟨hnone, h⟩ := Option.ite_none_left_eq_some.1 h
    cases h
    exact .verbose (by simp_all)
  case h_2 path =>
    obtain ⟨hnone, h⟩ := Option.ite_none_left_eq_some.1 h
    cases h
    exact .config path (by simp_all)
  case h_3 => cases h

/-- What has been read of a `check` is what the items say: of each option the one value that is
given to it, and of patterns all. -/
structure Holds (draft : CheckDraft) (common : Common) (items : List Item) : Prop where
  path : wordsIn items = draft.path?.toList
  format : (valuesOf "format" items).map Format.ofWord? = draft.format?.toList.map some
  rules : valuesOf "rules" items = draft.rules?.toList
  preset : valuesOf "preset" items = draft.preset?.toList
  exclude : valuesOf "exclude" items = draft.exclude
  fix : .flag "fix" ∈ items ↔ draft.fix = true
  verbose : .flag "verbose" ∈ items ↔ common.verbose = true
  config : valuesOf "config" items = common.config?.toList

@[simp] theorem wordsIn_concat (items : List Item) (item : Item) :
    wordsIn (items ++ [item]) = wordsIn items ++ item.word?.toList := by
  cases item <;> simp [wordsIn]

@[simp] theorem valuesOf_concat (option : String) (items : List Item) (item : Item) :
    valuesOf option (items ++ [item]) = valuesOf option items ++ (item.valueOf? option).toList := by
  rw [valuesOf, List.filterMap_append]
  cases item with
  | value name text => by_cases h : name = option <;> simp [valuesOf, h]
  | _ => simp [valuesOf]

theorem holds_nil : Holds {} {} [] := by
  constructor <;> simp [wordsIn, valuesOf]

theorem Holds.take (h : Holds draft common items) (htake : draft.Takes item draft') :
    Holds draft' common (items ++ [item]) := by
  obtain ⟨hpath, hformat, hrules, hpreset, hexclude, hfix, hverbose, hconfig⟩ := h
  cases htake with
  | path text hnone => constructor <;> simp [*]
  | format word format hnone hword => constructor <;> simp [*]
  | rules text hnone => constructor <;> simp [*]
  | preset name hnone => constructor <;> simp [*]
  | exclude pattern => constructor <;> simp [*]
  | fix hnone => constructor <;> simp [*]

theorem Holds.takeCommon (h : Holds draft common items) (htake : common.Takes item common') :
    Holds draft common' (items ++ [item]) := by
  obtain ⟨hpath, hformat, hrules, hpreset, hexclude, hfix, hverbose, hconfig⟩ := h
  cases htake with
  | verbose hnone => constructor <;> simp [*]
  | config path hnone => constructor <;> simp [*]

/-- What holds before an item is taken in and after it holds after all items. -/
theorem takeAll_induction {α : Type} {take? : α → Item → Option α}
    {P : α → Common → List Item → Prop} {draft draft' : α}
    (own : ∀ {draft next : α} {common : Common} {items : List Item} {item : Item},
      P draft common items → take? draft item = some next → P next common (items ++ [item]))
    (shared : ∀ {draft : α} {common next : Common} {items : List Item} {item : Item},
      P draft common items → common.take? item = some next → P draft next (items ++ [item]))
    (h : P draft common before)
    (htake : takeAll take? draft common items = some (draft', common')) :
    P draft' common' (before ++ items) := by
  induction items generalizing draft common before with
  | nil =>
    cases htake
    rwa [List.append_nil]
  | cons item items ih =>
    rw [takeAll] at htake
    rw [List.append_cons]
    split at htake
    case h_1 next hnext => exact ih (own h hnext) htake
    case h_2 =>
      obtain ⟨next, hnext, htake⟩ := Option.bind_eq_some_iff.1 htake
      exact ih (shared h hnext) htake

theorem holds_of_takeAll (htake : takeAll CheckDraft.take? {} {} items = some (draft, common)) :
    Holds draft common items :=
  takeAll_induction (fun h htake => h.take (CheckDraft.takes_of_take? htake))
    (fun h htake => h.takeCommon (Common.takes_of_take? htake)) holds_nil htake

theorem holds_of_takeAll_shared
    (htake : takeAll (fun () _ => none) () {} items = some ((), common)) : Holds {} common items :=
  takeAll_induction (P := fun _ common items => Holds {} common items)
    (fun _ htake => by cases htake)
    (fun h htake => h.takeCommon (Common.takes_of_take? htake)) holds_nil htake

end

/-! ### The command -/

section
variable {words : List String} {command : Command} {common : Common}

theorem of_readCommand {α : Type} {switches : List Switch} {take? : α → Item → Option α}
    {draft : α} {finish : α → Command}
    (h : readCommand switches take? draft finish words = .ok (common, command)) :
    ∃ items draft', (scan (switches ++ commonSwitches) false false words).1 = ⟨items, .words⟩ ∧
      takeAll take? draft {} items = some (draft', common) ∧ command = finish draft' := by
  rw [readCommand] at h
  cases hscan : scan (switches ++ commonSwitches) false false words with | mk found rest =>
  obtain ⟨items, ending⟩ := found
  simp only [hscan] at h
  split at h
  case h_2 draft' common' htake =>
    cases h
    exact ⟨items, draft', rfl, htake, rfl⟩
  all_goals cases h

theorem not_run_of_readCommand {α : Type} {switches : List Switch} {take? : α → Item → Option α}
    {draft : α} {finish : α → Command} {given? : Option String} :
    readCommand switches take? draft finish words ≠ .error (.run given? command) := by
  intro h
  rw [readCommand] at h
  split at h
  split at h <;> cases h

theorem not_run_of_readNamed {given? : Option String} :
    readNamed words ≠ .error (.run given? command) := by
  intro h
  unfold readNamed at h
  split at h
  case h_5 => split at h <;> cases h
  all_goals first | cases h | exact not_run_of_readCommand h

theorem of_readNamed {options : CheckOptions}
    (h : readNamed words = .ok (common, .check options)) : ∃ rest items draft,
      words = "check" :: rest ∧ Spelled (CheckDraft.switches ++ commonSwitches) false rest items ∧
      Holds draft common items ∧ options = draft.finish := by
  unfold readNamed at h
  split at h
  case h_1 rest =>
    obtain ⟨items, draft, hscan, htake, hfinish⟩ := of_readCommand h
    cases hfinish
    exact ⟨rest, items, draft, rfl, scan_eq_iff.1 hscan, holds_of_takeAll htake, rfl⟩
  case h_2 | h_3 =>
    obtain ⟨_, _, -, -, hfinish⟩ := of_readCommand h
    cases hfinish
  case h_5 => split at h <;> cases h
  all_goals cases h

/-- A command line asks for a check: `outer` holds what is said before the name of the command,
where there are only options that every command understands, `draft` and `inner` what is said
behind it. -/
def AsksForCheck (words : List String) (outer : Common) (draft : CheckDraft) (inner : Common) :
    Prop :=
  ∃ front rest before items, words = front ++ "check" :: rest ∧
    Spelled commonSwitches true front before ∧ Holds {} outer before ∧
    Spelled (CheckDraft.switches ++ commonSwitches) false rest items ∧ Holds draft inner items

theorem asksForCheck_of_read {fallback? given? : Option String} {options : CheckOptions}
    (h : read fallback? words = .run given? (.check options)) :
    ∃ outer draft inner, AsksForCheck words outer draft inner ∧
      given? = (inner.config? <|> outer.config? <|> fallback?) ∧ options = draft.finish := by
  rw [read] at h
  cases hscan : scan commonSwitches true true words with | mk found rest =>
  simp only [hscan] at h
  split at h
  case h_1 outer htake hending =>
    obtain ⟨-, front, hwords, hfront⟩ :=
      exists_spelled ((congrArg (·.1.ending) hscan).trans hending)
    rw [hscan] at hwords hfront
    split at h
    case h_1 invocation herror =>
      rw [h] at herror
      exact absurd herror not_run_of_readNamed
    case h_2 inner command hnamed =>
      split at h
      · cases h
      · cases h
        obtain ⟨rest', items, draft, rfl, hspelled, hholds, rfl⟩ := of_readNamed hnamed
        exact ⟨outer, draft, inner, ⟨front, rest', found.items, items, hwords, hfront,
          holds_of_takeAll_shared htake, hspelled, hholds⟩, rfl, rfl⟩
  all_goals cases h

end

end Arguments

end ComposeCheck
