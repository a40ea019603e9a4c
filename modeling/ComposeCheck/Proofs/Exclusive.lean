import ComposeCheck.Proofs.Handing
import ComposeCheck.Proofs.Settling
import ComposeCheck.Rules.ModifierReused

/-!
# Branches that exclude each other

Two nodes exclude each other if some condition above keeps them in different branches
(`Node.KeepsApart`). Only one node above both has them in different children, the nearest one: it is
enough to look there (`areExclusive_iff`), and from either node one looks at the same place. So
calls that share a modifier are never found alone.
-/

namespace ComposeCheck

namespace Node

/-- A node is this one or lies below it. -/
def Within (n m : Node) : Prop := Relation.ReflTransGen (fun n m => n.parent? = some m) n m

/-- A condition has two nodes in different branches: an `if` in two named children of which none is
the condition, a `when` in two entries. -/
def KeepsApart (above a b : Node) : Prop :=
  ∃ left ∈ above.namedChildren, ∃ right ∈ above.namedChildren,
    left ≠ right ∧ a.Within left ∧ b.Within right ∧
      (above.kind = "if_expression" ∧ above.firstNamedChild? ≠ some left ∧
          above.firstNamedChild? ≠ some right ∨
        above.kind = "when_expression" ∧ left.kind = "when_entry" ∧ right.kind = "when_entry")

section
variable {n m p q a b c d left right : Node} {front back : List Node}

theorem within_iff : n.Within m ↔ n = m ∨ n.Under m := by
  rw [Within, Relation.reflTransGen_iff_eq_or_transGen, eq_comm]
  rfl

theorem Within.trans_under (h : n.Within m) (hm : m.Under p) : n.Under p :=
  Relation.TransGen.trans_right h hm

theorem Within.total (hm : n.Within m) (hp : n.Within p) : m.Within p ∨ p.Within m :=
  Relation.ReflTransGen.total_of_right_unique
    (fun _ _ _ h h' => Option.some.inj (h.symm.trans h')) hm hp

theorem parent?_of_mem_namedChildren (h : c ∈ p.namedChildren) : c.parent? = some p :=
  parent?_of_mem_children (List.mem_filter.1 h).1

/-- What lies above a child lies above its parent, but for the child itself. -/
theorem Within.eq_or_within_parent (hc : c.parent? = some p) (h : c.Within q) :
    q = c ∨ p.Within q := by
  rcases Relation.ReflTransGen.cases_head h with rfl | ⟨parent, hparent, hway⟩
  · exact .inl rfl
  · exact .inr (Option.some.inj (hc.symm.trans hparent) ▸ hway)

theorem not_within_of_under (h : n.Under p) : ¬p.Within n := fun hp =>
  not_under_self (hp.trans_under h)

/-- A node lies within one child of a node at most. -/
theorem eq_of_within_children (hc : c.parent? = some p) (hd : d.parent? = some p)
    (hn : n.Within c) (hn' : n.Within d) : c = d := by
  rcases hn.total hn' with h | h
  · exact ((h.eq_or_within_parent hc).resolve_right (not_within_of_under (.single hd))).symm
  · exact (h.eq_or_within_parent hd).resolve_right (not_within_of_under (.single hc))

theorem of_ancestors_eq_cons (h : n.ancestors = p :: back) :
    n.parent? = some p ∧ p.ancestors = back := by
  obtain ⟨source, t, path⟩ := n
  cases path with
  | nil => cases h
  | cons frame path =>
    cases h
    exact ⟨rfl, rfl⟩

/-- The way up from a node goes on as the way up from every node on it. -/
theorem ancestors_of_eq_append (h : n.ancestors = front ++ q :: back) : q.ancestors = back := by
  induction front generalizing n with
  | nil => exact (of_ancestors_eq_cons h).2
  | cons c front ih => exact ih (of_ancestors_eq_cons h).2

/-- If two nodes lie within different children of a node, the nearest node above the one that has
the other below it is this one. -/
theorem find?_ancestors (hleft : left.parent? = some p) (hright : right.parent? = some p)
    (hne : left ≠ right) (ha : a.Within left) (hb : b.Within right) {isAbove : Node → Bool}
    (habove : ∀ q, a.Under q → (isAbove q = true ↔ b.Under q)) :
    a.ancestors.find? isAbove = some p := by
  have hap : a.Under p := ha.trans_under (.single hleft)
  have hbp : b.Under p := hb.trans_under (.single hright)
  have hfound : (a.ancestors.find? isAbove).isSome = true :=
    List.find?_isSome.2 ⟨p, mem_ancestors_iff.2 hap, (habove p hap).2 hbp⟩
  obtain ⟨q, hq⟩ := Option.isSome_iff_exists.1 hfound
  obtain ⟨hqb, front, back, hsplit, hfront⟩ := List.find?_eq_some_iff_append.1 hq
  have haq : a.Under q := mem_ancestors_iff.1 (List.mem_of_find?_eq_some hq)
  have hbq : b.Under q := (habove q haq).1 hqb
  rw [hq]
  have hmem : p ∈ front ++ q :: back := hsplit ▸ mem_ancestors_iff.2 hap
  rcases List.mem_append.1 hmem with hbefore | hbehind
  · have hnot := hfront p hbefore
    rw [(habove p hap).2 hbp] at hnot
    cases hnot
  rcases List.mem_cons.1 hbehind with rfl | hbehind
  · rfl
  -- a nearer node would lie within the child of the one, and the other is not there
  exfalso
  have hqp : q.Under p := mem_ancestors_iff.1 (ancestors_of_eq_append hsplit ▸ hbehind)
  have hqleft : q.Within left := by
    rcases ha.total haq.to_reflTransGen with h | h
    · rcases h.eq_or_within_parent hleft with rfl | h
      · exact .refl
      · exact absurd h (not_within_of_under hqp)
    · exact h
  have hbleft : b.Within left := hbq.to_reflTransGen.trans hqleft
  exact hne (eq_of_within_children hleft hright hbleft hb)

theorem KeepsApart.symm (h : p.KeepsApart a b) : p.KeepsApart b a := by
  obtain ⟨left, hleft, right, hright, hne, ha, hb, hkind⟩ := h
  refine ⟨right, hright, left, hleft, hne.symm, hb, ha, hkind.imp ?_ ?_⟩
  · rintro ⟨hif, hl, hr⟩
    exact ⟨hif, hr, hl⟩
  · rintro ⟨hwhen, hl, hr⟩
    exact ⟨hwhen, hr, hl⟩

end

end Node

namespace Rules

open Node

section
variable {tree : SyntaxTree} {a b p c left right : Node}

theorem mem_of_mem_namedChildren (hp : p ∈ tree.rootNode.preorder) (hc : c ∈ p.namedChildren) :
    c ∈ tree.rootNode.preorder :=
  mem_preorder_trans hp (mem_preorder_of_mem_children (List.mem_filter.1 hc).1)

theorem branchOf?_eq_some (hn : tree.root.NumberedFrom 0) (hp : p ∈ tree.rootNode.preorder)
    (ha : a ∈ tree.rootNode.preorder) :
    branchOf? p a = some c ↔ c ∈ p.namedChildren ∧ a.Within c := by
  have hwithin {d : Node} (hd : d ∈ p.namedChildren) :
      (d == a || d.isAncestorOf a) = true ↔ a.Within d := by
    have hmem := mem_of_mem_namedChildren hp hd
    rw [Bool.or_eq_true, SyntaxTree.beq_iff_of_mem hn hmem ha,
      SyntaxTree.isAncestorOf_iff hn hmem ha, within_iff, eq_comm]
  have hfind {d : Node} (h : branchOf? p a = some d) : d ∈ p.namedChildren ∧ a.Within d := by
    have hd := List.mem_of_find?_eq_some h
    have hholds := List.find?_some h
    exact ⟨hd, (hwithin hd).1 hholds⟩
  refine ⟨hfind, fun ⟨hc, hac⟩ => ?_⟩
  have hfound : (branchOf? p a).isSome = true := List.find?_isSome.2 ⟨c, hc, (hwithin hc).2 hac⟩
  obtain ⟨d, hd⟩ := Option.isSome_iff_exists.1 hfound
  obtain ⟨hmem, had⟩ := hfind hd
  rw [hd, eq_of_within_children (parent?_of_mem_namedChildren hmem)
    (parent?_of_mem_namedChildren hc) had hac]

theorem isAncestorOf_eq_false_of_apart (hn : tree.root.NumberedFrom 0)
    (ha : a ∈ tree.rootNode.preorder) (hb : b ∈ tree.rootNode.preorder)
    (hleft : left.parent? = some p) (hright : right.parent? = some p) (hne : left ≠ right)
    (haleft : a.Within left) (hbright : b.Within right) : a.isAncestorOf b = false := by
  rw [Bool.eq_false_iff]
  intro h
  have hba := (SyntaxTree.isAncestorOf_iff hn ha hb).1 h
  exact hne (eq_of_within_children hleft hright (hba.to_reflTransGen.trans haleft) hbright)

/-- Whether a node tells two of its named children apart as branches. -/
def tellsApart (above left right : Node) : Bool :=
  if above.kind = "if_expression" then
    !(left == right) && !above.firstNamedChild?.any fun c => c == left || c == right
  else if above.kind = "when_expression" then
    !(left == right) && left.kind == "when_entry" && right.kind == "when_entry"
  else false

theorem tellsApart_iff (hn : tree.root.NumberedFrom 0) (hp : p ∈ tree.rootNode.preorder)
    (hleft : left ∈ p.namedChildren) (hright : right ∈ p.namedChildren) :
    tellsApart p left right = true ↔ left ≠ right ∧
      (p.kind = "if_expression" ∧ p.firstNamedChild? ≠ some left ∧
          p.firstNamedChild? ≠ some right ∨
        p.kind = "when_expression" ∧ left.kind = "when_entry" ∧ right.kind = "when_entry") := by
  have hl := mem_of_mem_namedChildren hp hleft
  have hr := mem_of_mem_namedChildren hp hright
  have hfirst : (p.firstNamedChild?.any fun c => c == left || c == right) = true ↔
      p.firstNamedChild? = some left ∨ p.firstNamedChild? = some right := by
    cases hc : p.firstNamedChild? with
    | none => simp
    | some c =>
      have hmem := mem_of_mem_namedChildren hp (List.mem_of_mem_head? hc)
      rw [Option.any_some, Bool.or_eq_true, SyntaxTree.beq_iff_of_mem hn hmem hl,
        SyntaxTree.beq_iff_of_mem hn hmem hr, Option.some.injEq, Option.some.injEq]
  have hsame := SyntaxTree.beq_iff_of_mem hn hl hr
  have hkinds : "if_expression" ≠ "when_expression" := by decide
  rw [tellsApart]
  split
  case isTrue hif =>
    rw [Bool.and_eq_true, Bool.not_eq_true', Bool.not_eq_true', Bool.eq_false_iff,
      Bool.eq_false_iff, Ne, hsame, Ne, hfirst, not_or]
    simp [hif, hkinds]
  case isFalse hif =>
    split
    case isTrue hwhen =>
      rw [Bool.and_eq_true, Bool.and_eq_true, Bool.not_eq_true', Bool.eq_false_iff, Ne, hsame,
        beq_iff_eq, beq_iff_eq]
      simp [hwhen, and_assoc]
    case isFalse hwhen => simp [hif, hwhen]

theorem areExclusive_iff (hn : tree.root.NumberedFrom 0) (ha : a ∈ tree.rootNode.preorder)
    (hb : b ∈ tree.rootNode.preorder) :
    areExclusive a b = true ↔ ∃ above : Node, above.KeepsApart a b := by
  constructor
  · intro h
    rw [areExclusive] at h
    split at h
    · cases h
    split at h
    · cases h
    case h_2 common hcommon =>
    split at h
    case h_2 => cases h
    case h_1 left right hleft hright =>
    have hp := SyntaxTree.mem_of_under ha (mem_ancestors_iff.1 (List.mem_of_find?_eq_some hcommon))
    obtain ⟨hleft, haleft⟩ := (branchOf?_eq_some hn hp ha).1 hleft
    obtain ⟨hright, hbright⟩ := (branchOf?_eq_some hn hp hb).1 hright
    obtain ⟨hne, hkind⟩ := (tellsApart_iff hn hp hleft hright).1 h
    exact ⟨common, left, hleft, right, hright, hne, haleft, hbright, hkind⟩
  · rintro ⟨p, left, hleft, right, hright, hne, haleft, hbright, hkind⟩
    have hpl := parent?_of_mem_namedChildren hleft
    have hpr := parent?_of_mem_namedChildren hright
    have hp := SyntaxTree.mem_of_under ha (haleft.trans_under (.single hpl))
    have hnear : a.ancestors.find? (·.isAncestorOf b) = some p :=
      find?_ancestors hpl hpr hne haleft hbright fun q hq =>
        SyntaxTree.isAncestorOf_iff hn (SyntaxTree.mem_of_under ha hq) hb
    rw [areExclusive, isAncestorOf_eq_false_of_apart hn ha hb hpl hpr hne haleft hbright,
      isAncestorOf_eq_false_of_apart hn hb ha hpr hpl hne.symm hbright haleft, hnear]
    dsimp only
    rw [(branchOf?_eq_some hn hp ha).2 ⟨hleft, haleft⟩,
      (branchOf?_eq_some hn hp hb).2 ⟨hright, hbright⟩]
    exact (tellsApart_iff hn hp hleft hright).2 ⟨hne, hkind⟩

theorem areExclusive_comm (hn : tree.root.NumberedFrom 0) (ha : a ∈ tree.rootNode.preorder)
    (hb : b ∈ tree.rootNode.preorder) : areExclusive a b = areExclusive b a := by
  rw [Bool.eq_iff_iff, areExclusive_iff hn ha hb, areExclusive_iff hn hb ha]
  exact exists_congr fun p => ⟨KeepsApart.symm, KeepsApart.symm⟩

end

/-! ### Calls that share the modifier -/

theorem mem_withOthers_iff {α : Type} {c : α} {before after others : List α} :
    (c, others) ∈ withOthers before after ↔
      ∃ front back, after = front ++ c :: back ∧ others = before ++ front ++ back := by
  induction after generalizing before with
  | nil => simp [withOthers]
  | cons a after ih =>
    rw [withOthers, List.mem_cons, ih, Prod.mk.injEq]
    constructor
    · rintro (⟨rfl, rfl⟩ | ⟨front, back, rfl, rfl⟩)
      · exact ⟨[], after, rfl, by rw [List.append_nil]⟩
      · exact ⟨a :: front, back, rfl, by rw [List.append_cons before a front]⟩
    · rintro ⟨_ | ⟨a', front⟩, back, hafter, rfl⟩
      · obtain ⟨rfl, rfl⟩ := List.cons.inj hafter
        exact .inl ⟨rfl, by rw [List.append_nil]⟩
      · obtain ⟨rfl, rfl⟩ := List.cons.inj hafter
        exact .inr ⟨front, back, rfl, by rw [List.append_cons before a front]⟩

theorem map_fst_withOthers {α : Type} {before after : List α} :
    (withOthers before after).map (·.1) = after := by
  induction after generalizing before with
  | nil => rfl
  | cons a after ih => rw [withOthers, List.map_cons, ih]

theorem map_fst_filter_withOthers_sublist {α : Type} (keep : α × List α → Bool) (cs : List α) :
    (((withOthers [] cs).filter keep).map (·.1)).Sublist cs := by
  have hsub : ((withOthers [] cs).filter keep).Sublist (withOthers [] cs) := List.filter_sublist
  have hfirst := hsub.map (·.1)
  rwa [map_fst_withOthers] at hfirst

/-- If all entries are different, the others are those that differ from the entry. -/
theorem mem_map_fst_filter_withOthers_iff {α : Type} {c : α} {cs : List α} (p : α → α → Bool)
    (hnodup : cs.Nodup) :
    c ∈ ((withOthers [] cs).filter fun (c, others) => others.any (p c)).map (·.1) ↔
      c ∈ cs ∧ ∃ d ∈ cs, d ≠ c ∧ p c d = true := by
  have hother {front back : List α} {d : α} (hcs : cs = front ++ c :: back) :
      d ∈ front ++ back ↔ d ∈ cs ∧ d ≠ c := by
    have hnot := (List.nodup_middle.1 (hcs ▸ hnodup)).notMem
    rw [hcs, List.mem_append, List.mem_append, List.mem_cons]
    constructor
    · intro h
      refine ⟨h.imp_right .inr, ?_⟩
      rintro rfl
      exact hnot (List.mem_append.2 h)
    · rintro ⟨h, hne⟩
      exact h.imp_right fun h => h.resolve_left hne
  simp only [List.mem_map, List.mem_filter, List.any_eq_true]
  constructor
  · rintro ⟨⟨_, others⟩, ⟨hmem, d, hd, hp⟩, rfl⟩
    obtain ⟨front, back, hcs, rfl⟩ := mem_withOthers_iff.1 hmem
    rw [List.nil_append, hother hcs] at hd
    exact ⟨hcs ▸ List.mem_append_right _ List.mem_cons_self, d, hd.1, hd.2, hp⟩
  · rintro ⟨hc, d, hd, hne, hp⟩
    obtain ⟨front, back, hcs⟩ := List.append_of_mem hc
    exact ⟨(c, front ++ back), ⟨mem_withOthers_iff.2 ⟨front, back, hcs, by rw [List.nil_append]⟩,
      d, (hother hcs).2 ⟨hd, hne⟩, hp⟩, rfl⟩

section
variable {tree : SyntaxTree} {f : FunctionDecl} {backend : Backend} {memo : Memo}

/-- The calls that receive the modifier of a function. -/
def sharers (f : FunctionDecl) (backend : Backend) (memo : Memo) : List Node :=
  (f.modifierUsages backend memo).1.map (·.call.node)

theorem sharers_eq (f : FunctionDecl) (backend : Backend) (memo : Memo) :
    sharers f backend memo = [] ∨
      ∃ body, f.body? = some body ∧
        (sharers f backend memo).Sublist ((plainUpperCalls body).map (·.node)) := by
  cases hbody : f.body? with
  | none =>
    left
    rw [sharers, FunctionDecl.modifierUsages, OptionM.bind_eq, hbody]
    rfl
  | some body =>
    cases hname : ((ModifierTypes.read backend memo).1.parameterOf? f).bind (·.name?) with
    | none =>
      left
      rw [sharers, FunctionDecl.modifierUsages, OptionM.bind_eq, hbody, hname]
      rfl
    | some name =>
      right
      refine ⟨body, rfl, ?_⟩
      have hcalls := FunctionDecl.map_call_modifierUsages hbody hname
      rw [sharers, ← Function.comp_def, ← List.map_map, hcalls]
      exact List.filter_sublist.map _

theorem nodup_sharers (hn : tree.root.NumberedFrom 0) (hf : f.node ∈ tree.rootNode.preorder) :
    (sharers f backend memo).Nodup ∧
      ∀ c ∈ sharers f backend memo, c ∈ tree.rootNode.preorder := by
  rcases sharers_eq f backend memo with hnil | ⟨body, hbody, hsub⟩
  · rw [hnil]
    exact ⟨List.nodup_nil, fun c hc => absurd hc List.not_mem_nil⟩
  · have hmem : body ∈ tree.rootNode.preorder :=
      mem_preorder_trans hf (mem_preorder_of_childOfKind? hbody)
    have hcalls : ((Call.allIn body).map (·.node)).Sublist body.descendants :=
      map_filterMap_sublist (fun _ _ => Call.node_of_ofNode?) _
    have hsub := (hsub.trans (List.filter_sublist.map _)).trans hcalls
    exact ⟨hsub.nodup (SyntaxTree.nodup_descendants hn hmem), fun c hc =>
      mem_preorder_trans hmem (mem_preorder_of_mem_descendants (hsub.subset hc))⟩

theorem reported_modifierReused (f : FunctionDecl) (occasion : Occasion) (backend : Backend)
    (memo : Memo) :
    (modifierReused.report (.composable f) occasion backend memo).1.findings.map (·.node) =
      ((withOthers [] (sharers f backend memo)).filter fun (c, others) =>
        others.any fun d => !areExclusive c d).map (·.1) := by
  exact List.map_map

end

/-- Two nodes exclude each other, in either order, iff a condition above has them in different
branches. Of the calls that receive the modifier of a function those are reported that some other
one does not exclude, so a single one never is. -/
theorem exclusive_iff_kept_apart {parser : Parser} {text : String} {tree : SyntaxTree}
    (hread : SyntaxTree.read? parser text = some tree) :
    (∀ a ∈ tree.rootNode.preorder, ∀ b ∈ tree.rootNode.preorder,
      areExclusive a b = areExclusive b a ∧
      (areExclusive a b = true ↔ ∃ above : Node, above.KeepsApart a b)) ∧
    ∀ f : FunctionDecl, f.node ∈ tree.rootNode.preorder →
      ∀ (occasion : Occasion) (backend : Backend) (memo : Memo),
      let calls := (f.modifierUsages backend memo).1.map (·.call.node)
      let reported :=
        (modifierReused.report (.composable f) occasion backend memo).1.findings.map (·.node)
      calls.Nodup ∧ reported.Sublist calls ∧
      (∀ c, c ∈ reported ↔
        c ∈ calls ∧ ∃ d ∈ calls, d ≠ c ∧ ¬∃ above : Node, above.KeepsApart c d) ∧
      reported.length ≠ 1 := by
  have hn := SyntaxTree.numberedFrom_of_read? hread
  refine ⟨fun a ha b hb => ⟨areExclusive_comm hn ha hb, areExclusive_iff hn ha hb⟩,
    fun f hf occasion backend memo => ?_⟩
  intro calls reported
  have hnodup : calls.Nodup := (nodup_sharers hn hf).1
  have hmem : ∀ c ∈ calls, c ∈ tree.rootNode.preorder := (nodup_sharers hn hf).2
  have hreported : reported = _ := reported_modifierReused f occasion backend memo
  have hiff (c : Node) : c ∈ reported ↔
      c ∈ calls ∧ ∃ d ∈ calls, d ≠ c ∧ ¬∃ above : Node, above.KeepsApart c d := by
    rw [hreported]
    refine (mem_map_fst_filter_withOthers_iff (fun c d => !areExclusive c d) hnodup).trans ?_
    refine and_congr_right fun hc => exists_congr fun d => and_congr_right fun hd =>
      and_congr_right fun _ => ?_
    rw [Bool.not_eq_true', Bool.eq_false_iff, Ne, areExclusive_iff hn (hmem c hc) (hmem d hd)]
  refine ⟨hnodup, hreported ▸ map_fst_filter_withOthers_sublist _ _, hiff, fun hlength => ?_⟩
  · -- the call that keeps it from being alone is reported as well
    obtain ⟨c, hc⟩ := List.length_eq_one_iff.1 hlength
    obtain ⟨hcall, d, hd, hne, hnot⟩ := (hiff c).1 (hc ▸ List.mem_singleton.2 rfl)
    have hreport := (hiff d).2 ⟨hd, c, hcall, hne.symm, fun ⟨p, hp⟩ => hnot ⟨p, hp.symm⟩⟩
    rw [hc] at hreport
    exact hne (List.mem_singleton.1 hreport)

section
open ParseTree

/-- A function that hands its modifier to two calls in one branch and to a third in the other. -/
def forkFile : String :=
  "fun A(modifier: Modifier) \x7b\n    if (wide) \x7b\n        Row(modifier)\n" ++
    "        Icon(modifier)\n    \x7d else Text(modifier)\n\x7d"

def forkRoot : ParseTree :=
  let call (start open_ : Nat) : ParseTree := named "call_expression" start (open_ + 10)
    [name start open_, named "value_arguments" open_ (open_ + 10)
      [token "(" open_ (open_ + 1),
        named "value_argument" (open_ + 1) (open_ + 9) [name (open_ + 1) (open_ + 9)],
        token ")" (open_ + 9) (open_ + 10)]]
  let parameters := named "function_value_parameters" 5 25 [token "(" 5 6,
    named "parameter" 6 24 [name 6 14, token ":" 14 15, typeName 16 24], token ")" 24 25]
  let fork := named "if_expression" 32 114 [token "if" 32 34, token "(" 35 36, name 36 40,
    token ")" 40 41, named "block" 42 94 [token "\x7b" 42 43, call 52 55, call 74 78,
      token "\x7d" 93 94], token "else" 95 99, call 100 104]
  named "source_file" 0 116 [named "function_declaration" 0 116 [token "fun" 0 3, name 4 5,
    parameters, named "function_body" 26 116 [named "block" 26 116
      [token "\x7b" 26 27, fork, token "\x7d" 115 116]]]]

def forkParser : Parser := fun text => if text = forkFile then some ⟨forkRoot, false⟩ else none

def forkTree : SyntaxTree := (SyntaxTree.read? forkParser forkFile).get (by decide +kernel)

def forkFunction : FunctionDecl := (FunctionDecl.allIn forkTree.rootNode).head (by decide +kernel)

def forkReported : List Node :=
  (modifierReused.report (.composable forkFunction) .plain (fun _ => none) .empty).1.findings.map
    (·.node)

/-- The calls in one branch are reported, each because of the other; the third is not. -/
theorem exclusive_iff_kept_apart_fork :
    SyntaxTree.read? forkParser forkFile = some forkTree ∧
    forkFunction.node ∈ forkTree.rootNode.preorder ∧
    forkReported.map (·.text) = ["Row(modifier)", "Icon(modifier)"] ∧
    ∃ text row icon : Node,
      (forkFunction.modifierUsages (fun _ => none) .empty).1.map (·.call.node) =
        [text, row, icon] ∧
      (∃ above : Node, above.KeepsApart text row) ∧ (∃ above : Node, above.KeepsApart text icon) ∧
      (¬∃ above : Node, above.KeepsApart row icon) ∧
      ∀ c, c ∈ forkReported ↔ c ∈ [text, row, icon] ∧
        ∃ d ∈ [text, row, icon], d ≠ c ∧ ¬∃ above : Node, above.KeepsApart c d := by
  have hread : SyntaxTree.read? forkParser forkFile = some forkTree := (Option.some_get _).symm
  have hf : forkFunction.node ∈ forkTree.rootNode.preorder :=
    FunctionDecl.mem_preorder_of_mem_allIn (List.head_mem _)
  have hreported : forkReported.map (·.text) = ["Row(modifier)", "Icon(modifier)"] := by
    decide +kernel
  have hcalls : ((forkFunction.modifierUsages (fun _ => none) .empty).1.map (·.call.node)).map
      (fun c => (c.text, ((forkFunction.modifierUsages (fun _ => none) .empty).1.map
        (·.call.node)).map (areExclusive c))) =
      [("Text(modifier)", [false, true, true]), ("Row(modifier)", [true, false, false]),
        ("Icon(modifier)", [true, false, false])] := by
    decide +kernel
  obtain ⟨hexclusive, hshared⟩ := exclusive_iff_kept_apart hread
  obtain ⟨-, -, hiff, -⟩ := hshared forkFunction hf .plain (fun _ => none) .empty
  have hmem : ∀ c ∈ sharers forkFunction (fun _ => none) .empty, c ∈ forkTree.rootNode.preorder :=
    (nodup_sharers (SyntaxTree.numberedFrom_of_read? hread) hf).2
  rw [sharers] at hmem
  obtain ⟨text, _, hall, htext, hrest⟩ := List.map_eq_cons_iff.1 hcalls
  obtain ⟨row, _, rfl, hrow, hrest⟩ := List.map_eq_cons_iff.1 hrest
  obtain ⟨icon, _, rfl, hicon, hrest⟩ := List.map_eq_cons_iff.1 hrest
  obtain rfl := List.map_eq_nil_iff.1 hrest
  simp only [hall, List.mem_cons, List.not_mem_nil, or_false, forall_eq_or_imp, forall_eq,
    List.map_cons, List.map_nil, Prod.mk.injEq, List.cons.injEq, and_true] at hmem htext hrow
  obtain ⟨hmemText, hmemRow, hmemIcon⟩ := hmem
  obtain ⟨-, -, hrowApart, hiconApart⟩ := htext
  obtain ⟨-, -, -, htogether⟩ := hrow
  rw [hall] at hiff
  refine ⟨hread, hf, hreported, text, row, icon, hall, ?_, ?_, ?_, hiff⟩
  · exact (hexclusive text hmemText row hmemRow).2.1 hrowApart
  · exact (hexclusive text hmemText icon hmemIcon).2.1 hiconApart
  · rw [← (hexclusive row hmemRow icon hmemIcon).2, htogether]
    exact Bool.false_ne_true

end

end Rules

end ComposeCheck
