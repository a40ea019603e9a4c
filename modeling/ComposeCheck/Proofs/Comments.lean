import ComposeCheck.Proofs.Directives
import ComposeCheck.Proofs.Family
import ComposeCheck.Proofs.Reading

/-!
# Allow comments and comments

The checker looks for a comment in the text of a line, the grammar knows where the comments are.
On a line whose comment stands where the checker looks (`IsPlain`) both find the same directives
(`isSome_at?_iff_comment`).
-/

namespace ComposeCheck

/-- The text of a node up to its first line feed. -/
def Node.firstLine (n : Node) : List Char := n.text.toList.takeWhile (· != '\n')

/-! ## Prefixes by size -/

section
variable {a b xs ys : List Char}

theorem utf8ByteSize_ofList_append (a b : List Char) : (String.ofList (a ++ b)).utf8ByteSize =
    (String.ofList a).utf8ByteSize + (String.ofList b).utf8ByteSize := by
  rw [String.ofList_append, String.utf8ByteSize_append]

theorem eq_nil_of_utf8ByteSize_eq_zero (h : (String.ofList a).utf8ByteSize = 0) : a = [] := by
  simpa using h

/-- Of two starts of a text the one with fewer bytes is a start of the other. -/
theorem prefix_of_utf8ByteSize_le (ha : a <+: xs) (hb : b <+: xs)
    (h : (String.ofList a).utf8ByteSize ≤ (String.ofList b).utf8ByteSize) : a <+: b := by
  rcases List.prefix_or_prefix_of_prefix ha hb with hab | ⟨rest, rfl⟩
  · exact hab
  · rw [utf8ByteSize_ofList_append] at h
    obtain rfl : rest = [] := eq_nil_of_utf8ByteSize_eq_zero (by omega)
    simp

theorem eq_of_utf8ByteSize_eq (ha : a <+: xs) (hb : b <+: xs)
    (h : (String.ofList a).utf8ByteSize = (String.ofList b).utf8ByteSize) : a = b :=
  (prefix_of_utf8ByteSize_le ha hb (Nat.le_of_eq h)).eq_of_length_le
    (prefix_of_utf8ByteSize_le hb ha (Nat.le_of_eq h.symm)).length_le

end

/-! ## A node in its line -/

/-- A piece of a text in its line: `part` stands before it, and what the piece has before its first
line feed follows. -/
theorem exists_line_of_append {text front mid back : String} (htext : text = front ++ mid ++ back)
    (hmid : mid ≠ "") : ∃ (line : String) (part ending : List Char),
      (Text.lines text)[(Source.ofText text).lineAt front.utf8ByteSize - 1]? = some line ∧
      (Source.ofText text).columnAt front.utf8ByteSize = (String.ofList part).utf8ByteSize + 1 ∧
      (∀ c ∈ ending, c = '\r' ∨ c = '\n') ∧
      part ++ mid.toList.takeWhile (· != '\n') <+: line.toList ++ ending := by
  have hcut : (Source.ofText text).CutsAt front.utf8ByteSize :=
    String.Pos.Raw.isValid_iff_exists_append.2 ⟨front, mid ++ back, by
      rw [← String.append_assoc]; exact htext, rfl⟩
  have hlt : front.utf8ByteSize < text.utf8ByteSize := by
    have : 0 < mid.utf8ByteSize := by
      rw [Nat.pos_iff_ne_zero]
      simpa using hmid
    rw [htext, String.utf8ByteSize_append, String.utf8ByteSize_append]
    omega
  obtain ⟨line, stop, hget, hline, hstop⟩ := Source.exists_isLine hcut hlt
  obtain ⟨before, ending, after, hcut', -, -, hno, hending, hstart, rfl⟩ := hline
  have hsize (a : String) : (String.ofList a.toList).utf8ByteSize = a.utf8ByteSize := by
    rw [String.ofList_toList]
  have hchars : front.toList ++ (mid.toList ++ back.toList) =
      before.toList ++ (line.toList ++ ending.toList ++ after.toList) := by
    simpa [htext] using congrArg String.toList hcut'
  -- The line starts at or before the piece, and the piece before the end of the line.
  obtain ⟨part, hpart⟩ : before.toList <+: front.toList := by
    refine prefix_of_utf8ByteSize_le ⟨_, hchars.symm⟩ ⟨_, rfl⟩ ?_
    rw [hsize, hsize, ← hstart]
    exact Source.lineStart_le text front.utf8ByteSize
  have hfront : front.utf8ByteSize = before.utf8ByteSize + (String.ofList part).utf8ByteSize := by
    rw [← hsize front, ← hpart, utf8ByteSize_ofList_append, hsize]
  rw [← hpart, List.append_assoc, List.append_cancel_left_eq] at hchars
  obtain ⟨suffix, hsuffix⟩ : part <+: line.toList ++ ending.toList := by
    refine prefix_of_utf8ByteSize_le ⟨_, hchars⟩ ⟨_, rfl⟩ ?_
    rw [String.utf8ByteSize_append, String.utf8ByteSize_append] at hstop
    rw [utf8ByteSize_ofList_append line.toList, hsize, hsize]
    omega
  have hne : suffix ≠ [] := by
    rintro rfl
    rw [List.append_nil] at hsuffix
    rw [hsuffix, utf8ByteSize_ofList_append, hsize, hsize] at hfront
    rw [String.utf8ByteSize_append, String.utf8ByteSize_append] at hstop
    omega
  rw [← hsuffix, List.append_assoc, List.append_cancel_left_eq] at hchars
  refine ⟨line, part, ending.toList, hget, ?_, ?_, ?_⟩
  · rw [Source.columnAt_eq, hstart]
    omega
  · rcases hending with rfl | rfl | ⟨rfl, -⟩ <;> simp
  · rw [← hsuffix, List.prefix_append_right_inj]
    have hfirst : mid.toList.takeWhile (· != '\n') <+: suffix ++ after.toList :=
      (List.takeWhile_prefix _).trans ⟨back.toList, hchars⟩
    rcases List.prefix_or_prefix_of_prefix hfirst (List.prefix_append suffix _) with h | h
    · exact h
    -- Without a line feed in the rest of the line the text ends with it.
    have hno : '\n' ∉ suffix := fun hmem => by
      simpa using List.all_eq_true.1 List.all_takeWhile _ (h.subset hmem)
    have hlast : (line.toList ++ ending.toList).getLast? ≠ some '\n' := by
      rw [← hsuffix, List.getLast?_append_of_ne_nil _ hne]
      exact fun hlast => hno (List.mem_of_getLast? hlast)
    rcases hending with rfl | rfl | ⟨rfl, rfl⟩
    · exact absurd (by simp) hlast
    · exact absurd (by simp) hlast
    · rwa [String.toList_empty, List.append_nil] at hfirst

namespace SyntaxTree

variable {parser : Parser} {text : String} {tree : SyntaxTree} {c : Node}

/-- A node with a text in the line that is looked up under its line's number. -/
theorem exists_line_of_mem (hfits : parser.FitsFile text) (hread : read? parser text = some tree)
    (hc : c ∈ tree.rootNode.preorder) (hne : c.firstLine ≠ []) :
    ∃ (line : String) (part ending : List Char), (Text.lines text)[c.line - 1]? = some line ∧
      c.line ≠ 0 ∧ c.column = (String.ofList part).utf8ByteSize + 1 ∧
      (∀ ch ∈ ending, ch = '\r' ∨ ch = '\n') ∧ part ++ c.firstLine <+: line.toList ++ ending := by
  obtain ⟨parse, hparse, -⟩ := Option.bind_eq_some_iff.1 hread
  have hwell := wellFormed_of_read? hfits hparse hread
  have hbelow := (mem_rootNode_preorder hwell hc).2.1
  have hplace : c.place ∈ tree.root.preorder := hbelow.label_mem
  have hle : c.start ≤ c.stop := by
    have hspan := (hwell.nested hbelow).start_le_stop
    rwa [Tree.label_map] at hspan
  have hnode := (mem_rootNode_preorder hwell hc).1
  have hcuts := hwell.cuts hplace
  obtain rfl := read?_eq_some hparse hread
  obtain ⟨hline, hcolumn⟩ : c.line = (Source.ofText text).lineAt c.start ∧
      c.column = (Source.ofText text).columnAt c.start := position_of_mem_number hplace
  obtain ⟨front, back, htext, hstart, -⟩ := hcuts.1.exists_textBetween hcuts.2 hle
  have htext : text = front ++ c.text ++ back := by rwa [Node.text, hnode]
  have hmid : c.text ≠ "" := by
    intro hempty
    rw [Node.firstLine, hempty] at hne
    exact hne rfl
  obtain ⟨line, part, ending, hget, hpart, hending, hfirst⟩ := exists_line_of_append htext hmid
  rw [hstart] at hget hpart
  refine ⟨line, part, ending, ?_, ?_, ?_, hending, hfirst⟩
  · rwa [hline]
  · rw [hline, Source.lineAt_ofText]
    omega
  · exact hcolumn.trans hpart

end SyntaxTree

namespace Allowance

open Text

/-! ## Directives of comments -/

/-- A line whose comment is where the checker looks: at the line's mark a comment starts, which has
its first closing parenthesis on this line or runs up to the end of the line; and a comment that
mentions the checker starts at the mark, with slashes before stars before blanks. -/
structure IsPlain (tree : SyntaxTree) (number : Nat) (line : List Char) : Prop where
  comment_of_mark : "compose-lint:".toList <:+: line → ∀ before, IsMark line before →
    ∃ c ∈ tree.rootNode.preorder, c.isComment = true ∧ c.line = number ∧
      c.column = (String.ofList before).utf8ByteSize + 1 ∧
      (')' ∈ c.firstLine ∨ line <+: before ++ c.firstLine)
  mark_of_comment : ∀ c ∈ tree.rootNode.preorder, c.isComment = true → c.line = number →
    "compose-lint:".toList <:+: c.firstLine →
    (∃ before, IsMark line before ∧ c.column = (String.ofList before).utf8ByteSize + 1) ∧
    ∀ opener lead, (opener = "//".toList ∨ opener = "/*".toList) → IsLead lead →
      opener ++ lead ++ "compose-lint:".toList <+: c.firstLine → IsTidyLead lead

section
variable {directive list lead before line ending : List Char}

theorem IsMark.starts (h : IsMark line before) : before <+: line := by
  obtain ⟨rest, rfl⟩ | ⟨-, ⟨rest, rfl⟩, -⟩ := h.imp_left And.left
  · simp
  · simp

theorem IsMark.unique {before' : List Char} (h : IsMark line before) (h' : IsMark line before') :
    before = before' := by
  rcases h with h | ⟨hno, h⟩ <;> rcases h' with h' | ⟨hno', h'⟩
  · exact h.unique h'
  · obtain ⟨rest, hline⟩ := h.1
    exact absurd ⟨before, rest, hline.symm⟩ hno'
  · obtain ⟨rest, hline⟩ := h'.1
    exact absurd ⟨before', rest, hline.symm⟩ hno
  · exact h.unique h'

theorem IsTidyLead.isLead (h : IsTidyLead lead) : IsLead lead := by
  obtain ⟨slashes, stars, blanks, rfl, hslashes, hstars, hblanks⟩ := h
  intro c hc
  simp only [List.mem_append] at hc
  rcases hc with (hc | hc) | hc
  · exact .inl (hslashes c hc)
  · exact .inr (.inl (hstars c hc))
  · exact .inr (.inr (hblanks c hc))

/-- What stands before the checker's name can only be read in one way. -/
theorem IsLead.eq_of_prefix {opener opener' lead' : List Char} (hlead : IsLead lead)
    (hlead' : IsLead lead') (hopener : opener.length = opener'.length) (rest : List Char)
    (h : opener ++ lead ++ "compose-lint:".toList <+:
      opener' ++ lead' ++ "compose-lint:".toList ++ rest) : lead = lead' := by
  have hcut {cs : List Char} (hcs : IsLead cs) (tail : List Char) :
      (cs ++ ("compose-lint:".toList ++ tail)).takeWhile (· != 'c') = cs := by
    have hother : ∀ c ∈ cs, (c != 'c') = true := fun c hc => bne_iff_ne.2 fun heq => by
      rcases hcs c hc with h | h | h <;> exact absurd (heq ▸ h) (by decide)
    rw [List.takeWhile_append_of_pos hother]
    exact List.append_nil cs
  obtain ⟨tail, htail⟩ := h
  simp only [List.append_assoc] at htail
  rw [← hcut hlead tail, (List.append_inj htail hopener).2, hcut hlead' rest]

theorem IsDirective.mono {Lead Lead' : List Char → Prop} (h : IsDirective Lead directive list)
    (hlead : ∀ lead, Lead lead → Lead' lead) : IsDirective Lead' directive list := by
  obtain ⟨opener, lead, gap, hopener, hl, hrest⟩ := h
  exact ⟨opener, lead, gap, hopener, hlead lead hl, hrest⟩

/-- A directive ends with its only closing parenthesis, and it mentions the checker. -/
theorem IsDirective.exists_concat (h : IsDirective IsLead directive list) :
    ∃ front, directive = front ++ [')'] ∧ ')' ∉ front ∧ "compose-lint:".toList <:+: directive := by
  obtain ⟨opener, lead, gap, hopener, hlead, hgap, hlist, rfl⟩ := h
  refine ⟨_, rfl, ?_, opener ++ lead, gap ++ "allow(".toList ++ list ++ [')'], by simp⟩
  have hnot : ')' ∉ lead := fun hmem => by
    rcases hlead _ hmem with h | h | h <;> exact absurd h (by decide)
  simp only [List.mem_append, not_or]
  refine ⟨⟨⟨⟨⟨?_, hnot⟩, by decide⟩, not_mem_of_blank hgap (by decide)⟩, by decide⟩, hlist⟩
  rcases hopener with rfl | rfl <;> decide

/-- What ends with a closing parenthesis ends before the line does. -/
theorem prefix_of_concat {front : List Char} (h : front ++ [')'] <+: line ++ ending)
    (hending : ∀ c ∈ ending, c = '\r' ∨ c = '\n') : front ++ [')'] <+: line := by
  rcases List.prefix_or_prefix_of_prefix h (List.prefix_append line ending) with h' | ⟨rest, hrest⟩
  · exact h'
  rw [← hrest, List.prefix_append_right_inj] at h
  cases hlast : rest.getLast? with
  | none =>
    rw [List.getLast?_eq_none_iff.1 hlast, List.append_nil] at hrest
    exact hrest ▸ List.prefix_rfl
  | some c =>
    have hc : c = ')' := by
      have := congrArg List.getLast? hrest
      rw [List.getLast?_append, hlast, List.getLast?_concat] at this
      exact Option.some.inj this
    rcases hending c (h.subset (List.mem_of_getLast? hlast)) with heq | heq
    · exact absurd (hc.symm.trans heq) (by decide)
    · exact absurd (hc.symm.trans heq) (by decide)

end

section
variable {parser : Parser} {text : String} {tree : SyntaxTree} {number : Nat} {content : String}
  {before directive list : List Char} {c : Node}

/-- A directive at the mark of a plain line starts a comment. -/
theorem IsPlain.exists_comment (hplain : IsPlain tree number content.toList)
    (hfits : parser.FitsFile text) (hread : SyntaxTree.read? parser text = some tree)
    (hget : (Text.lines text)[number - 1]? = some content) (hmark : IsMark content.toList before)
    (hdirective : IsDirective IsLead directive list)
    (hstarts : before ++ directive <+: content.toList) :
    ∃ c ∈ tree.rootNode.preorder, c.isComment = true ∧ c.line = number ∧
      directive <+: c.firstLine := by
  obtain ⟨front, rfl, hfront, hmention⟩ := hdirective.exists_concat
  have hinfix : front ++ [')'] <:+: content.toList :=
    (List.suffix_append before _).isInfix.trans hstarts.isInfix
  obtain ⟨c, hc, hcomment, rfl, hcolumn, hclosed | hrun⟩ :=
    hplain.comment_of_mark (hmention.trans hinfix) before hmark
  · refine ⟨c, hc, hcomment, rfl, ?_⟩
    obtain ⟨_, part, ending, hget', -, hpart, -, hfirst⟩ :=
      SyntaxTree.exists_line_of_mem hfits hread hc (List.ne_nil_of_mem hclosed)
    obtain rfl := Option.some.inj (hget.symm.trans hget')
    have hstarts : before ++ (front ++ [')']) <+: content.toList ++ ending :=
      hstarts.trans (List.prefix_append _ _)
    obtain rfl : part = before := eq_of_utf8ByteSize_eq ((List.prefix_append _ _).trans hfirst)
      ((List.prefix_append _ _).trans hstarts) (by omega)
    rcases List.prefix_or_prefix_of_prefix hstarts hfirst with h | h
    · rwa [List.prefix_append_right_inj] at h
    · -- The comment has the closing parenthesis that only ends the directive.
      rw [List.prefix_append_right_inj, List.prefix_concat_iff] at h
      rcases h with h | h
      · exact h ▸ List.prefix_rfl
      · exact absurd (h.subset hclosed) hfront
  · exact ⟨c, hc, hcomment, rfl, (List.prefix_append_right_inj before).1 (hstarts.trans hrun)⟩

/-- A directive that starts a comment stands at the mark of its line, if that is plain. -/
theorem exists_mark_of_comment (hfits : parser.FitsFile text)
    (hread : SyntaxTree.read? parser text = some tree) (hc : c ∈ tree.rootNode.preorder)
    (hcomment : c.isComment = true) (hdirective : IsDirective IsLead directive list)
    (hstarts : directive <+: c.firstLine)
    (hplain : ∀ content, c.line ≠ 0 → (Text.lines text)[c.line - 1]? = some content →
      IsPlain tree c.line content.toList) :
    c.line ≠ 0 ∧ ∃ content before, (Text.lines text)[c.line - 1]? = some content ∧
      IsMark content.toList before ∧ IsDirective IsTidyLead directive list ∧
      before ++ directive <+: content.toList := by
  obtain ⟨front, hconcat, -, hmention⟩ := hdirective.exists_concat
  have hne : c.firstLine ≠ [] := by
    rintro hnil
    rw [hnil, List.prefix_nil, hconcat] at hstarts
    simp at hstarts
  obtain ⟨content, part, ending, hget, hzero, hpart, hending, hfirst⟩ :=
    SyntaxTree.exists_line_of_mem hfits hread hc hne
  obtain ⟨⟨before, hmark, hcolumn⟩, htidy⟩ := (hplain content hzero hget).mark_of_comment c
    hc hcomment rfl (hmention.trans hstarts.isInfix)
  obtain rfl : part = before := eq_of_utf8ByteSize_eq ((List.prefix_append _ _).trans hfirst)
    (hmark.starts.trans (List.prefix_append _ _)) (by omega)
  refine ⟨hzero, content, part, hget, hmark, ?_, ?_⟩
  · obtain ⟨opener, lead, gap, hopener, hlead, hgap, hlist, rfl⟩ := hdirective
    have hlead' := htidy opener lead hopener hlead (List.IsPrefix.trans (by simp) hstarts)
    exact ⟨opener, lead, gap, hopener, hlead', hgap, hlist, rfl⟩
  · have hwhole : part ++ directive <+: content.toList ++ ending :=
      ((List.prefix_append_right_inj part).2 hstarts).trans hfirst
    rw [hconcat, ← List.append_assoc] at hwhole ⊢
    exact prefix_of_concat hwhole hending

/-- What allows a finding: a directive at the mark of its line or of the line above. On plain lines
these are the directives that comments start with. -/
theorem isSome_at?_iff_comment (hfits : parser.FitsFile text)
    (hread : SyntaxTree.read? parser text = some tree) (number : Nat) (ids : List String) :
    ((at? (Text.lines text) number ids).isSome = true ↔
      ∃ line content, (line = number - 1 ∨ line = number) ∧ line ≠ 0 ∧
        (Text.lines text)[line - 1]? = some content ∧
        ∃ before directive list, IsMark content.toList before ∧
          IsDirective IsTidyLead directive list ∧ before ++ directive <+: content.toList ∧
          Lists list ids) ∧
    ((∀ line content, (line = number - 1 ∨ line = number) → line ≠ 0 →
        (Text.lines text)[line - 1]? = some content → IsPlain tree line content.toList) →
      ((at? (Text.lines text) number ids).isSome = true ↔
        ∃ c ∈ tree.rootNode.preorder, c.isComment = true ∧
          (c.line = number - 1 ∨ c.line = number) ∧
          ∃ directive list, IsDirective IsLead directive list ∧ directive <+: c.firstLine ∧
            Lists list ids)) := by
  refine ⟨isSome_at?_iff, fun hplain => isSome_at?_iff.trans ⟨?_, ?_⟩⟩
  · rintro ⟨line, content, hline, hzero, hget, before, directive, list, hmark, hdirective, hstarts,
      hlists⟩
    have hloose := hdirective.mono fun _ => IsTidyLead.isLead
    obtain ⟨c, hc, hcomment, rfl, hfirst⟩ := (hplain line content hline hzero hget).exists_comment
      hfits hread hget hmark hloose hstarts
    exact ⟨c, hc, hcomment, hline, directive, list, hloose, hfirst, hlists⟩
  · rintro ⟨c, hc, hcomment, hline, directive, list, hdirective, hstarts, hlists⟩
    obtain ⟨hzero, content, before, hget, hmark, htidy, hwhole⟩ :=
      exists_mark_of_comment hfits hread hc hcomment hdirective hstarts
        fun content hzero hget => hplain c.line content hline hzero hget
    exact ⟨c.line, content, hline, hzero, hget, before, directive, list, hmark, htidy, hwhole,
      hlists⟩

/-- A link in a string hides the comment behind it. -/
example : at? (Text.lines "val u = \"http://a.b\" // compose-lint: allow(all)") 1 [] = none := by
  decide +kernel

/-- A string reads as a comment. -/
example : (at? (Text.lines "val s = \"// compose-lint: allow(all)\"") 1 []).isSome = true := by
  decide +kernel

end

/-! ## A plain line -/

def remarkFile : String := "val u = 1 // compose-lint: allow(all)\n"

def remarkRoot : ParseTree :=
  let property : ParseTree := .node ⟨"property_declaration", true, false, 0, 9⟩
    [.node ⟨"val", false, false, 0, 3⟩ [], .node ⟨"variable_declaration", true, false, 4, 5⟩ [],
      .node ⟨"=", false, false, 6, 7⟩ [], .node ⟨"number_literal", true, false, 8, 9⟩ []]
  .node ⟨"source_file", true, false, 0, 38⟩
    [property, .node ⟨"line_comment", true, true, 10, 37⟩ []]

def remarkParser : Parser := fun text =>
  if text = remarkFile then some ⟨remarkRoot, false⟩ else none

theorem fitsOn_remarkParser (text : String) : remarkParser.FitsOn text := by
  intro parse hparse
  rw [remarkParser] at hparse
  split at hparse
  case isFalse => cases hparse
  case isTrue htext =>
    subst htext
    obtain rfl := Option.some.inj hparse
    exact ⟨by decide +kernel, by decide +kernel⟩

def remarkTree : SyntaxTree :=
  (SyntaxTree.read? remarkParser remarkFile).get (by decide +kernel)

/-- The comment of this line has one blank before its directive. -/
theorem isPlain_remarkTree {line : Nat} {content : String} (hline : line = 1 - 1 ∨ line = 1)
    (hzero : line ≠ 0) (hget : (Text.lines remarkFile)[line - 1]? = some content) :
    IsPlain remarkTree line content.toList := by
  obtain rfl := hline.resolve_left hzero
  have hcontent : (Text.lines remarkFile)[1 - 1]? =
      some "val u = 1 // compose-lint: allow(all)" := by
    decide +kernel
  obtain rfl := Option.some.inj (hcontent.symm.trans hget)
  have hcut : splitFirst "//".toList "val u = 1 // compose-lint: allow(all)".toList =
      some ("val u = 1 ".toList, " compose-lint: allow(all)".toList) := by
    decide +kernel
  have hmark : IsMark "val u = 1 // compose-lint: allow(all)".toList "val u = 1 ".toList :=
    .inl (splitFirst_eq_some_iff.1 hcut).2
  have hcomments : ∀ c ∈ remarkTree.rootNode.preorder, c.isComment = true →
      c.column = ("val u = 1 ").utf8ByteSize + 1 ∧
        c.firstLine = "//".toList ++ [' '] ++ "compose-lint:".toList ++ " allow(all)".toList := by
    decide +kernel
  refine ⟨fun _ before hbefore => ?_, fun c hc hcomment _ _ => ⟨⟨_, hmark, ?_⟩, ?_⟩⟩
  · obtain rfl := hmark.unique hbefore
    have hcomment : ∃ c ∈ remarkTree.rootNode.preorder, c.isComment = true ∧ c.line = 1 ∧
        c.column = (String.ofList "val u = 1 ".toList).utf8ByteSize + 1 ∧ ')' ∈ c.firstLine := by
      decide +kernel
    obtain ⟨c, hc, hcomment, hline, hcolumn, hclosed⟩ := hcomment
    exact ⟨c, hc, hcomment, hline, hcolumn, .inl hclosed⟩
  · rw [String.ofList_toList]
    exact (hcomments c hc hcomment).1
  · intro opener lead hopener hlead hstarts
    rw [(hcomments c hc hcomment).2] at hstarts
    have hblank : IsTidyLead [' '] := ⟨[], [], [' '], rfl, by simp, by simp, by simp [isBlank]⟩
    have hlength : opener.length = "//".toList.length := by
      rcases hopener with rfl | rfl <;> decide +kernel
    rwa [hlead.eq_of_prefix hblank.isLead hlength " allow(all)".toList hstarts]

/-- The comment allows every rule on its line. -/
theorem isSome_at?_iff_comment_remark : remarkParser.FitsFile remarkFile ∧
    SyntaxTree.read? remarkParser remarkFile = some remarkTree ∧
    (∀ line content, (line = 1 - 1 ∨ line = 1) → line ≠ 0 →
      (Text.lines remarkFile)[line - 1]? = some content →
        IsPlain remarkTree line content.toList) ∧
    ∃ c ∈ remarkTree.rootNode.preorder, c.isComment = true ∧ (c.line = 1 - 1 ∨ c.line = 1) ∧
      ∃ directive list, IsDirective IsLead directive list ∧ directive <+: c.firstLine ∧
        Lists list ["modifier-missing"] := by
  have hfits : remarkParser.FitsFile remarkFile :=
    ⟨fitsOn_remarkParser _, fun _ _ _ _ => fitsOn_remarkParser _⟩
  have hread : SyntaxTree.read? remarkParser remarkFile = some remarkTree :=
    (Option.some_get _).symm
  have hplain : ∀ line content, (line = 1 - 1 ∨ line = 1) → line ≠ 0 →
      (Text.lines remarkFile)[line - 1]? = some content → IsPlain remarkTree line content.toList :=
    fun _ _ => isPlain_remarkTree
  refine ⟨hfits, hread, hplain, ?_⟩
  exact ((isSome_at?_iff_comment hfits hread 1 ["modifier-missing"]).2 hplain).1 (by decide +kernel)

end Allowance

end ComposeCheck
