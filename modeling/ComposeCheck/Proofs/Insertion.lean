import ComposeCheck.Dispatch
import ComposeCheck.Proofs.EditPlaces
import ComposeCheck.Proofs.Settling
import ComposeCheck.Proofs.Weaving
import Mathlib.Data.List.Induction

/-!
# Parameters that are added to a list

Reading a parameter list takes its children one after the other, so what is read of the children
with others put between them can be told from what was read before. The last parameter of a list
splits its children (`exists_last`), and behind it there is at most one default
(`passes_or_exists_default`).
-/

namespace ComposeCheck

namespace Parameter

/-- What has been read behind these children of a list. -/
def read (children : List Node) : Reading := children.foldl Reading.step ⟨[], none, false⟩

/-- The parameters that are read from these children of a list. -/
def among (children : List Node) : List Parameter := (read children).found.reverse

section
variable {children front back cs : List Node} {c d : Node} {p last : Parameter}
  {earlier : List Parameter} {state : Reading} {modifiers? : Option Node} {awaits : Bool}

theorem read_append : read (front ++ back) = back.foldl Reading.step (read front) :=
  List.foldl_append

/-! ### One child -/

theorem isComment_eq_false {kind : String} (h : c.kind = kind)
    (hkind : (kind == "line_comment" || kind == "block_comment") = false) :
    c.isComment = false := by
  rwa [Node.isComment, Shape.isComment, show c.place.kind = kind from h]

theorem kind_of_isToken {token : String} (h : c.isToken token = true) :
    c.named = false ∧ c.kind = token := by
  rwa [Node.isToken, Bool.and_eq_true, Bool.not_eq_true', beq_iff_eq] at h

theorem step_parameter (h : c.kind = "parameter") : state.step c =
    ⟨⟨c, none, state.modifiers?⟩ :: state.found, none, state.awaitsDefault⟩ := by
  rw [Reading.step, if_neg (by rw [isComment_eq_false h (by decide)]; decide),
    if_neg (by rw [h]; decide), if_pos h]

theorem step_equals (h : c.isToken "=" = true) :
    state.step c = { state with awaitsDefault := true } := by
  have hkind := (kind_of_isToken h).2
  rw [Reading.step, if_neg (by rw [isComment_eq_false hkind (by decide)]; decide),
    if_neg (by rw [hkind]; decide), if_neg (by rw [hkind]; decide), if_pos h]

theorem step_break {token : String} (h : c.isToken token = true)
    (htoken : token ∈ [",", "(", ")"]) : state.step c = { state with awaitsDefault := false } := by
  have hkind := (kind_of_isToken h).2
  have hother : ∀ token ∈ [",", "(", ")"], token ≠ "parameter_modifiers" ∧ token ≠ "parameter" ∧
      token ≠ "=" ∧ (token == "line_comment" || token == "block_comment") = false := by decide
  obtain ⟨hmodifiers, hparameter, hequals, hcomment⟩ := hother token htoken
  have hbreak : (c.isToken "," || c.isToken "(" || c.isToken ")") = true := by
    simp only [List.mem_cons, List.not_mem_nil, or_false] at htoken
    rcases htoken with rfl | rfl | rfl <;> simp [h]
  rw [Reading.step, if_neg (by rw [isComment_eq_false hkind hcomment]; decide),
    if_neg (by rwa [hkind]), if_neg (by rwa [hkind]),
    if_neg fun heq => hequals (hkind.symm.trans (kind_of_isToken heq).2), if_pos hbreak]

theorem step_comment (h : c.isComment = true) : state.step c = state := by
  rw [Reading.step, if_pos h]

theorem step_modifiers (h : c.kind = "parameter_modifiers") :
    state.step c = { state with modifiers? := some c } := by
  rw [Reading.step, if_neg (by rw [isComment_eq_false h (by decide)]; decide), if_pos h]

/-- A node that can stand behind an `=` as a default. -/
structure IsDefault (c : Node) : Prop where
  named : c.named = true
  notComment : c.isComment = false
  notParameter : c.kind ≠ "parameter"
  notModifiers : c.kind ≠ "parameter_modifiers"

/-- A default behind an `=` is that of the parameter before it. -/
theorem step_default (h : IsDefault c) : Reading.step ⟨p :: earlier, modifiers?, true⟩ c =
    ⟨{ p with default? := some c } :: earlier, modifiers?, false⟩ := by
  have htoken (token : String) : ¬c.isToken token = true := fun ht =>
    Bool.false_ne_true ((kind_of_isToken ht).1.symm.trans h.named)
  rw [Reading.step, if_neg (Bool.eq_false_iff.1 h.notComment), if_neg h.notModifiers,
    if_neg h.notParameter, if_neg (htoken _), if_neg (by simp [htoken]),
    if_pos (by rw [h.named]; rfl)]

theorem isDefault_of_call (hkind : c.kind = "call_expression") (hnamed : c.named = true) :
    IsDefault c :=
  ⟨hnamed, isComment_eq_false hkind (by decide), by rw [hkind]; decide, by rw [hkind]; decide⟩

/-- A child that is no parameter is passed over, or it is the default of the parameter before it.
Which of them depends only on whether an `=` waits. -/
theorem passes_or_isDefault (h : c.kind ≠ "parameter") (awaits : Bool) :
    (∃ awaits', ∀ p earlier modifiers?, ∃ modifiers?',
      Reading.step ⟨p :: earlier, modifiers?, awaits⟩ c = ⟨p :: earlier, modifiers?', awaits'⟩) ∨
    (awaits = true ∧ ∀ p earlier modifiers?, Reading.step ⟨p :: earlier, modifiers?, awaits⟩ c =
      ⟨{ p with default? := some c } :: earlier, modifiers?, false⟩) := by
  by_cases hcomment : c.isComment = true
  · exact .inl ⟨awaits, fun p earlier m => ⟨m, by rw [Reading.step, if_pos hcomment]⟩⟩
  by_cases hmodifiers : c.kind = "parameter_modifiers"
  · exact .inl ⟨awaits, fun p earlier m => ⟨some c, by
      rw [Reading.step, if_neg hcomment, if_pos hmodifiers]⟩⟩
  by_cases hequals : c.isToken "=" = true
  · exact .inl ⟨true, fun p earlier m => ⟨m, by
      rw [Reading.step, if_neg hcomment, if_neg hmodifiers, if_neg h, if_pos hequals]⟩⟩
  by_cases hbreak : (c.isToken "," || c.isToken "(" || c.isToken ")") = true
  · exact .inl ⟨false, fun p earlier m => ⟨m, by
      rw [Reading.step, if_neg hcomment, if_neg hmodifiers, if_neg h, if_neg hequals,
        if_pos hbreak]⟩⟩
  by_cases hdefault : (awaits && c.named) = true
  · refine .inr ⟨(Bool.and_eq_true_iff.1 hdefault).1, fun p earlier m => ?_⟩
    rw [Reading.step, if_neg hcomment, if_neg hmodifiers, if_neg h, if_neg hequals, if_neg hbreak,
      if_pos hdefault]
  · exact .inl ⟨awaits, fun p earlier m => ⟨m, by
      rw [Reading.step, if_neg hcomment, if_neg hmodifiers, if_neg h, if_neg hequals,
        if_neg hbreak, if_neg hdefault]⟩⟩

/-- Before the first parameter a child that is no parameter is passed over. -/
theorem found_step_of_nil (h : c.kind ≠ "parameter") (hfound : state.found = []) :
    (state.step c).found = [] := by
  rw [Reading.step]
  repeat' split
  all_goals simp_all

/-! ### Behind the last parameter -/

/-- Children that leave the parameters before them as they are. -/
def Passes (awaits : Bool) (cs : List Node) : Prop :=
  ∃ awaits', ∀ p earlier modifiers?, ∃ modifiers?',
    cs.foldl Reading.step ⟨p :: earlier, modifiers?, awaits⟩ =
      ⟨p :: earlier, modifiers?', awaits'⟩

/-- Children that end with the default of the parameter before them. -/
def Gives (awaits : Bool) (mid : List Node) (d : Node) : Prop :=
  ∀ p earlier modifiers?, ∃ q modifiers?',
    mid.foldl Reading.step ⟨p :: earlier, modifiers?, awaits⟩ =
        ⟨q :: earlier, modifiers?', true⟩ ∧
      (mid ++ [d]).foldl Reading.step ⟨p :: earlier, modifiers?, awaits⟩ =
        ⟨{ p with default? := some d } :: earlier, modifiers?', false⟩

theorem passes_or_exists_default (h : ∀ c ∈ cs, c.kind ≠ "parameter") (awaits : Bool) :
    Passes awaits cs ∨
      ∃ mid d rest, cs = mid ++ d :: rest ∧ Gives awaits mid d ∧ Passes false rest := by
  induction cs using List.reverseRecOn with
  | nil => exact .inl ⟨awaits, fun p earlier m => ⟨m, rfl⟩⟩
  | append_singleton cs c ih =>
    have hc := h c (List.mem_append_right _ (List.mem_singleton_self c))
    rcases ih fun d hd => h d (List.mem_append_left _ hd) with
      ⟨awaits', hpass⟩ | ⟨mid, d, rest, rfl, hgives, awaits', hpass⟩
    · rcases passes_or_isDefault hc awaits' with ⟨awaits'', hstep⟩ | ⟨rfl, hstep⟩
      · refine .inl ⟨awaits'', fun p earlier m => ?_⟩
        obtain ⟨m', h₁⟩ := hpass p earlier m
        obtain ⟨m'', h₂⟩ := hstep p earlier m'
        exact ⟨m'', by rw [List.foldl_append, h₁, List.foldl_cons, h₂, List.foldl_nil]⟩
      · refine .inr ⟨cs, c, [], rfl, fun p earlier m => ?_, false, fun p earlier m => ⟨m, rfl⟩⟩
        obtain ⟨m', h₁⟩ := hpass p earlier m
        exact ⟨p, m', h₁, by rw [List.foldl_append, h₁, List.foldl_cons, hstep, List.foldl_nil]⟩
    · rcases passes_or_isDefault hc awaits' with ⟨awaits'', hstep⟩ | ⟨rfl, hstep⟩
      · refine .inr ⟨mid, d, rest ++ [c], by simp, hgives, awaits'', fun p earlier m => ?_⟩
        obtain ⟨m', h₁⟩ := hpass p earlier m
        obtain ⟨m'', h₂⟩ := hstep p earlier m'
        exact ⟨m'', by rw [List.foldl_append, h₁, List.foldl_cons, h₂, List.foldl_nil]⟩
      · refine .inr ⟨mid ++ d :: rest, c, [], rfl, fun p earlier m => ?_, false,
          fun p earlier m => ⟨m, rfl⟩⟩
        obtain ⟨-, m', -, h₁⟩ := hgives p earlier m
        obtain ⟨m'', h₂⟩ := hpass { p with default? := some d } earlier m'
        have hmid : (mid ++ d :: rest).foldl Reading.step ⟨p :: earlier, m, awaits⟩ =
            ⟨{ p with default? := some d } :: earlier, m'', true⟩ := by
          rw [List.append_cons, List.foldl_append, h₁, h₂]
        exact ⟨_, m'', hmid, by
          rw [List.foldl_append, hmid, List.foldl_cons, hstep, List.foldl_nil]⟩

/-- The last parameter splits the children of a list; its modifiers wait before it. -/
theorem exists_last (h : among children = earlier ++ [last]) : ∃ front back,
    children = front ++ last.node :: back ∧ last.node.kind = "parameter" ∧
      among front = earlier ∧ (read front).modifiers? = last.modifiers? ∧
      ∀ c ∈ back, c.kind ≠ "parameter" := by
  induction children using List.reverseRecOn generalizing last with
  | nil => exact absurd h.symm (by simp [among, read])
  | append_singleton cs c ih =>
    rw [among, read_append, List.foldl_cons, List.foldl_nil] at h
    by_cases hc : c.kind = "parameter"
    · rw [step_parameter hc, List.reverse_cons] at h
      obtain ⟨hearlier, hlast⟩ := List.append_inj' h rfl
      obtain rfl := List.singleton_inj.1 hlast
      exact ⟨cs, [], rfl, hc, hearlier, rfl, fun _ hmem => absurd hmem List.not_mem_nil⟩
    -- the last parameter was read before this child, maybe without its default
    have hbefore : ∃ last', among cs = earlier ++ [last'] ∧ last'.node = last.node ∧
        last'.modifiers? = last.modifiers? := by
      rw [among]
      generalize read cs = state at h ⊢
      obtain ⟨found, m, awaits⟩ := state
      cases found with
      | nil =>
        rw [found_step_of_nil hc rfl] at h
        exact absurd h.symm (by simp)
      | cons p before =>
        rw [List.reverse_cons]
        rcases passes_or_isDefault hc awaits with ⟨awaits', hstep⟩ | ⟨rfl, hstep⟩
        · obtain ⟨m', hstep⟩ := hstep p before m
          rw [hstep, List.reverse_cons] at h
          exact ⟨last, h, rfl, rfl⟩
        · rw [hstep, List.reverse_cons] at h
          obtain ⟨rfl, hlast⟩ := List.append_inj' h rfl
          obtain rfl := List.singleton_inj.1 hlast
          exact ⟨p, rfl, rfl, rfl⟩
    obtain ⟨last', hbefore, hnode, hmodifiers⟩ := hbefore
    obtain ⟨front, back, rfl, hkind, hfront, hwaiting, hback⟩ := ih hbefore
    rw [hnode] at hkind ⊢
    refine ⟨front, back ++ [c], by simp, hkind, hfront, hwaiting.trans hmodifiers, fun d hd => ?_⟩
    rcases List.mem_append.1 hd with hd | hd
    · exact hback d hd
    · rwa [List.mem_singleton.1 hd]

/-- Whether children come in an order that the grammar allows: an `=` waits neither where a
parameter comes nor while modifiers wait. -/
def isOrderlyFrom : Reading → List Node → Bool
  | _, [] => true
  | state, c :: cs =>
    (!state.awaitsDefault || (c.kind != "parameter" && state.modifiers?.isNone)) &&
      isOrderlyFrom (state.step c) cs

/-- Whether the children of a parameter list come in such an order. -/
def isOrderly (children : List Node) : Bool := isOrderlyFrom ⟨[], none, false⟩ children

theorem of_isOrderlyFrom (h : isOrderlyFrom state (front ++ c :: back) = true)
    (hawaits : (front.foldl Reading.step state).awaitsDefault = true) :
    c.kind ≠ "parameter" ∧ (front.foldl Reading.step state).modifiers? = none := by
  induction front generalizing state with
  | nil =>
    rw [List.foldl_nil] at hawaits
    rw [List.nil_append, isOrderlyFrom, hawaits, Bool.and_eq_true, Bool.not_true, Bool.false_or,
      Bool.and_eq_true, bne_iff_ne, Option.isNone_iff_eq_none] at h
    exact h.1
  | cons d front ih =>
    rw [List.cons_append, isOrderlyFrom, Bool.and_eq_true] at h
    exact ih h.2 hawaits

end

/-! ### Added parameters -/

/-- A parameter that is added to a list: its node, an `=`, the call that is its default, and the
comma that sets it apart. -/
structure Added where
  node : Node
  equals : Node
  default : Node
  comma : Node
  isParameter : node.kind = "parameter"
  isEquals : equals.isToken "=" = true
  isCall : default.kind = "call_expression"
  isNamed : default.named = true
  isComma : comma.isToken "," = true

namespace Added

def parameter (a : Added) : Parameter := ⟨a.node, some a.default, none⟩

def text (a : Added) : String := a.node.text ++ " = " ++ a.default.text

def pieces (a : Added) : List Node := [a.node, a.equals, a.default]

/-- The children for parameters that are added in front of one. -/
def leading (added : List Added) : List Node := added.flatMap fun a => a.pieces ++ [a.comma]

/-- The children for parameters that are added behind one. -/
def trailing (added : List Added) : List Node := added.flatMap fun a => a.comma :: a.pieces

end Added

/-- Parameters of which the first carries these modifiers. -/
def carrying (modifiers? : Option Node) : List Parameter → List Parameter
  | [] => []
  | p :: ps => { p with modifiers? } :: ps

section
variable {found earlier : List Parameter} {modifiers? : Option Node} {awaits : Bool}
  {added : List Added} {a : Added} {p last : Parameter} {children front back : List Node}

theorem foldl_pieces : a.pieces.foldl Reading.step ⟨found, modifiers?, awaits⟩ =
    ⟨⟨a.node, some a.default, modifiers?⟩ :: found, none, false⟩ := by
  rw [Added.pieces, List.foldl_cons, List.foldl_cons, List.foldl_cons, List.foldl_nil,
    step_parameter a.isParameter, step_equals a.isEquals,
    step_default (isDefault_of_call a.isCall a.isNamed)]

theorem step_comma : Reading.step ⟨found, modifiers?, awaits⟩ a.comma =
    ⟨found, modifiers?, false⟩ := step_break a.isComma (by decide)

theorem foldl_trailing : (Added.trailing added).foldl Reading.step ⟨found, none, false⟩ =
    ⟨(added.map Added.parameter).reverse ++ found, none, false⟩ := by
  induction added generalizing found with
  | nil => rfl
  | cons a added ih =>
    rw [Added.trailing, List.flatMap_cons, List.foldl_append, List.foldl_cons, step_comma,
      foldl_pieces]
    exact ih.trans (by simp [Added.parameter])

/-- Modifiers that wait where parameters are added in front end up on the first of them. -/
theorem foldl_leading (a : Added) (added : List Added) :
    (Added.leading (a :: added)).foldl Reading.step ⟨found, modifiers?, awaits⟩ =
      ⟨(carrying modifiers? ((a :: added).map Added.parameter)).reverse ++ found, none, false⟩ := by
  induction added generalizing a found modifiers? awaits with
  | nil =>
    rw [Added.leading, List.flatMap_cons, List.flatMap_nil, List.append_nil, List.foldl_append,
      foldl_pieces, List.foldl_cons, step_comma]
    rfl
  | cons b added ih =>
    rw [Added.leading, List.flatMap_cons, List.foldl_append, List.foldl_append, foldl_pieces,
      List.foldl_cons, step_comma, List.foldl_nil]
    refine (ih b).trans ?_
    simp [carrying, Added.parameter]

theorem read_trailing (h : read front = ⟨p :: earlier, none, false⟩) (hpass : Passes false back)
    (added : List Added) : among (front ++ (Added.trailing added ++ back)) =
      (p :: earlier).reverse ++ added.map Added.parameter := by
  obtain ⟨awaits', hpass⟩ := hpass
  have hne : (added.map Added.parameter).reverse ++ p :: earlier ≠ [] := by simp
  obtain ⟨q, others, hfound⟩ := List.exists_cons_of_ne_nil hne
  obtain ⟨m, hback⟩ := hpass q others none
  rw [among, read_append, h, List.foldl_append, foldl_trailing, hfound, hback, ← hfound,
    List.reverse_append, List.reverse_reverse]

/-- Around the last parameter of an orderly list: no `=` waits where it comes, and it keeps the one
default that is read behind it, if there is one. -/
theorem exists_last_of_orderly (horderly : isOrderly children = true)
    (h : among children = earlier ++ [last]) : ∃ front back,
      children = front ++ last.node :: back ∧ last.node.kind = "parameter" ∧
        read front = ⟨earlier.reverse, last.modifiers?, false⟩ ∧
        (last.default? = none ∧ Passes false back ∨ ∃ mid d rest, last.default? = some d ∧
          back = mid ++ d :: rest ∧ Gives false mid d ∧ Passes false rest) := by
  obtain ⟨front, back, rfl, hkind, hfront, hwaiting, hback⟩ := exists_last h
  have hawaits : (read front).awaitsDefault = false :=
    Bool.eq_false_iff.2 fun hawaits => (of_isOrderlyFrom horderly hawaits).1 hkind
  have hread : read front = ⟨earlier.reverse, last.modifiers?, false⟩ := by
    rw [← hfront, ← hwaiting, ← hawaits, among, List.reverse_reverse]
  refine ⟨front, back, rfl, hkind, hread, ?_⟩
  rw [among, read_append, hread, List.foldl_cons, step_parameter hkind] at h
  rcases passes_or_exists_default hback false with hpass | ⟨mid, d, rest, rfl, hgives, hpass⟩
  · have ⟨_, hread'⟩ := hpass
    obtain ⟨m, hread'⟩ := hread' ⟨last.node, none, last.modifiers?⟩ earlier.reverse none
    rw [hread', List.reverse_cons, List.reverse_reverse, List.append_cancel_left_eq,
      List.singleton_inj] at h
    exact .inl ⟨by rw [← h], hpass⟩
  · obtain ⟨-, m, -, hd⟩ := hgives ⟨last.node, none, last.modifiers?⟩ earlier.reverse none
    have ⟨_, hread'⟩ := hpass
    obtain ⟨m', hread'⟩ := hread' ⟨last.node, some d, last.modifiers?⟩ earlier.reverse m
    rw [List.append_cons, List.foldl_append, hd, hread', List.reverse_cons, List.reverse_reverse,
      List.append_cancel_left_eq, List.singleton_inj] at h
    exact .inr ⟨mid, d, rest, by rw [← h], rfl, hgives, hpass⟩

/-- Parameters that are added in front of the last one take its modifiers. -/
theorem exists_among_leading (horderly : isOrderly children = true)
    (h : among children = earlier ++ [last]) : ∃ front back,
      children = front ++ last.node :: back ∧ ∀ a added,
        among (front ++ (Added.leading (a :: added) ++ last.node :: back)) =
          earlier ++ carrying last.modifiers? ((a :: added).map Added.parameter) ++
            [{ last with modifiers? := none }] := by
  obtain ⟨front, back, rfl, hkind, hread, hdefault⟩ := exists_last_of_orderly horderly h
  refine ⟨front, back, rfl, fun a added => ?_⟩
  rw [among, read_append, hread, List.foldl_append, foldl_leading, List.foldl_cons,
    step_parameter hkind]
  dsimp only
  rcases hdefault with ⟨hnone, _, hpass⟩ | ⟨mid, d, rest, hsome, rfl, hgives, _, hpass⟩
  · obtain ⟨m, hback⟩ := hpass ⟨last.node, none, none⟩ _ none
    rw [hback, hnone, List.reverse_cons, List.reverse_append, List.reverse_reverse,
      List.reverse_reverse]
  · obtain ⟨-, m, -, hd⟩ := hgives ⟨last.node, none, none⟩ _ none
    obtain ⟨m', hrest⟩ := hpass ⟨last.node, some d, none⟩ _ m
    rw [List.append_cons, List.foldl_append, hd, hrest, hsome, List.reverse_cons,
      List.reverse_append, List.reverse_reverse, List.reverse_reverse]

/-- Parameters that are added behind the last one leave all others as they are. -/
theorem exists_among_trailing (horderly : isOrderly children = true)
    (h : among children = earlier ++ [last]) : ∃ front back,
      children = front ++ last.default?.getD last.node :: back ∧ ∀ added,
        among (front ++ last.default?.getD last.node :: (Added.trailing added ++ back)) =
          earlier ++ [last] ++ added.map Added.parameter := by
  obtain ⟨front, back, rfl, hkind, hread, hdefault⟩ := exists_last_of_orderly horderly h
  have hnode : read (front ++ [last.node]) =
      ⟨⟨last.node, none, last.modifiers?⟩ :: earlier.reverse, none, false⟩ := by
    rw [read_append, hread, List.foldl_cons, step_parameter hkind, List.foldl_nil]
  rcases hdefault with ⟨hnone, hpass⟩ | ⟨mid, d, rest, hsome, rfl, hgives, hpass⟩
  · refine ⟨front, back, by rw [hnone, Option.getD_none], fun added => ?_⟩
    rw [hnone, Option.getD_none, List.append_cons, read_trailing hnode hpass, List.reverse_cons,
      List.reverse_reverse, ← hnone]
  · rw [hsome, Option.getD_some]
    refine ⟨front ++ last.node :: mid, rest, by simp, fun added => ?_⟩
    obtain ⟨q, m, hmid, hd⟩ :=
      hgives ⟨last.node, none, last.modifiers?⟩ earlier.reverse none
    have hmid' : read (front ++ last.node :: mid) = ⟨q :: earlier.reverse, m, true⟩ := by
      rw [List.append_cons, read_append, hnode, hmid]
    -- nothing waits at the default but its `=`
    obtain rfl : m = none := by
      have hsplit : front ++ last.node :: (mid ++ d :: rest) =
          front ++ last.node :: mid ++ d :: rest := by simp
      rw [hsplit] at horderly
      have hwaits := of_isOrderlyFrom horderly (congrArg Reading.awaitsDefault hmid')
      exact (congrArg Reading.modifiers? hmid').symm.trans hwaits.2
    have hread' : read (front ++ last.node :: mid ++ [d]) =
        ⟨⟨last.node, some d, last.modifiers?⟩ :: earlier.reverse, none, false⟩ := by
      have hsplit : front ++ last.node :: mid ++ [d] = front ++ [last.node] ++ (mid ++ [d]) := by
        simp
      rw [hsplit, read_append, hnode, hd]
    rw [List.append_cons, read_trailing hread' hpass, List.reverse_cons, List.reverse_reverse,
      ← hsome]

/-- In an empty list the added parameters are all there are. -/
theorem among_parenthesized {opening closing : Node} (hopening : opening.isToken "(" = true)
    (hclosing : closing.isToken ")" = true) (a : Added) (added : List Added) :
    among (opening :: (a.pieces ++ Added.trailing added ++ [closing])) =
      (a :: added).map Added.parameter := by
  rw [among, read, List.foldl_cons, step_break hopening (by decide), List.foldl_append,
    List.foldl_append, foldl_pieces, foldl_trailing, List.foldl_cons,
    step_break hclosing (by decide)]
  simp [Added.parameter]

end

/-! ### Children that are put next to one -/

/-- Children with a group put in front of one of them. -/
def insertBefore (anchor : Node) (group children : List Node) : List Node :=
  children.flatMap fun c => if c == anchor then group ++ [c] else [c]

/-- Children with a group put behind one of them. -/
def insertBehind (anchor : Node) (group children : List Node) : List Node :=
  children.flatMap fun c => if c == anchor then c :: group else [c]

section
variable {anchor : Node} {front back group : List Node} {added : List Added}

theorem flatMap_eq_self {cs : List Node} (group : Node → List Node)
    (h : ∀ c ∈ cs, c.id ≠ anchor.id) :
    (cs.flatMap fun c => if c == anchor then group c else [c]) = cs := by
  induction cs with
  | nil => rfl
  | cons c cs ih =>
    rw [List.flatMap_cons, if_neg fun hc => h c List.mem_cons_self (Node.beq_iff.1 hc),
      ih fun d hd => h d (List.mem_cons_of_mem c hd)]
    rfl

theorem insertBefore_eq (h : ∀ c ∈ front ++ back, c.id ≠ anchor.id) :
    insertBefore anchor group (front ++ anchor :: back) = front ++ (group ++ anchor :: back) := by
  rw [insertBefore, List.flatMap_append, List.flatMap_cons,
    flatMap_eq_self _ fun c hc => h c (List.mem_append_left back hc),
    flatMap_eq_self _ fun c hc => h c (List.mem_append_right front hc),
    if_pos (Node.beq_iff.2 rfl), List.append_assoc]
  rfl

theorem insertBehind_eq (h : ∀ c ∈ front ++ back, c.id ≠ anchor.id) :
    insertBehind anchor group (front ++ anchor :: back) = front ++ anchor :: (group ++ back) := by
  rw [insertBehind, List.flatMap_append, List.flatMap_cons,
    flatMap_eq_self _ fun c hc => h c (List.mem_append_left back hc),
    flatMap_eq_self _ fun c hc => h c (List.mem_append_right front hc),
    if_pos (Node.beq_iff.2 rfl)]
  rfl

/-- What is read of a list once an edit has put added parameters next to one of its children or in
the place of all. -/
def reread (list : Node) (added : List Added) : List Edit → List Parameter
  | [.prepend anchor _] => among (insertBefore anchor (Added.leading added) list.children)
  | [.append anchor _] => among (insertBehind anchor (Added.trailing added) list.children)
  | [.replace _ _] => added.map Added.parameter
  | _ => allIn list

theorem carrying_eq_self_iff {modifiers? : Option Node} (hadded : added ≠ []) :
    carrying modifiers? (added.map Added.parameter) = added.map Added.parameter ↔
      modifiers? = none := by
  obtain ⟨a, rest, rfl⟩ := List.exists_cons_of_ne_nil hadded
  refine ⟨fun h => ?_, fun h => by rw [h]; rfl⟩
  exact congrArg Parameter.modifiers? (List.head_eq_of_cons_eq h)

end

end Parameter

section
open SyntaxTree
open Parameter (Added)

variable {tree : SyntaxTree} {f : FunctionDecl} {list : Node} {rewrites : Rewrites}

theorem FunctionDecl.parameters_eq (hlist : f.parameterList? = some list) :
    f.parameters = Parameter.allIn list := by
  rw [parameters, hlist]
  rfl

theorem Rules.addParameters_of_nil {text : String} (hlist : f.parameterList? = some list)
    (h : f.parameters = []) : addParameters f text = [.replace list ("(" ++ text ++ ")")] := by
  rw [addParameters, hlist, h]
  rfl

/-- The edit that adds parameters next to the last one. -/
def Rules.additionTo (last : Parameter) (text : String) : Edit :=
  if last.isFunctionTyped then .prepend last.node (text ++ ", ")
  else .append (last.default?.getD last.node) (", " ++ text)

theorem Rules.addParameters_of_last {text : String} {earlier : List Parameter} {last : Parameter}
    (hlist : f.parameterList? = some list) (h : f.parameters = earlier ++ [last]) :
    addParameters f text = [additionTo last text] := by
  rw [addParameters, hlist, h, List.getLast?_concat, additionTo]
  dsimp only
  split <;> rfl

theorem Rules.node_additionTo_mem {text : String} {last : Parameter}
    (h : last ∈ Parameter.allIn list) : (additionTo last text).node ∈ list.children := by
  obtain ⟨hnode, hdefault⟩ := Parameter.of_mem_allIn h
  rw [additionTo]
  split
  · exact hnode
  · cases hd : last.default? with
    | none => exact hnode
    | some default => exact hdefault default hd

section
variable {earlier : List Parameter} {last : Parameter} {added : List Added} {text : String}

theorem Parameter.reread_of_nil (hlist : f.parameterList? = some list) (h : f.parameters = []) :
    reread list added (Rules.addParameters f text) = added.map Added.parameter := by
  rw [Rules.addParameters_of_nil hlist h, reread]

/-- In front of a function-typed parameter the first added one takes its modifiers. -/
theorem Parameter.reread_of_isFunctionTyped (hwell : tree.WellFormed)
    (hmem : list ∈ tree.rootNode.preorder) (hlist : f.parameterList? = some list)
    (horderly : isOrderly list.children = true) (h : f.parameters = earlier ++ [last])
    (htyped : last.isFunctionTyped = true) (hadded : added ≠ []) :
    reread list added (Rules.addParameters f text) =
      earlier ++ carrying last.modifiers? (added.map Added.parameter) ++
        [{ last with modifiers? := none }] := by
  obtain ⟨a, rest, rfl⟩ := List.exists_cons_of_ne_nil hadded
  obtain ⟨front, back, hchildren, hread⟩ :=
    exists_among_leading horderly ((FunctionDecl.parameters_eq hlist).symm.trans h)
  rw [Rules.addParameters_of_last hlist h, Rules.additionTo, if_pos htyped, reread, hchildren,
    insertBefore_eq fun d hd => SyntaxTree.id_ne_of_children hwell hmem hchildren hd, hread]

/-- Behind the last parameter the added ones stand for themselves. -/
theorem Parameter.reread_of_not_isFunctionTyped (hwell : tree.WellFormed)
    (hmem : list ∈ tree.rootNode.preorder) (hlist : f.parameterList? = some list)
    (horderly : isOrderly list.children = true) (h : f.parameters = earlier ++ [last])
    (htyped : last.isFunctionTyped = false) :
    reread list added (Rules.addParameters f text) =
      earlier ++ [last] ++ added.map Added.parameter := by
  obtain ⟨front, back, hchildren, hread⟩ :=
    exists_among_trailing horderly ((FunctionDecl.parameters_eq hlist).symm.trans h)
  rw [Rules.addParameters_of_last hlist h, Rules.additionTo,
    if_neg (Bool.eq_false_iff.1 htyped), reread, hchildren,
    insertBehind_eq fun d hd => SyntaxTree.id_ne_of_children hwell hmem hchildren hd, hread]

end

/-- Parameters that are added to a list without parameters or behind the last one stand there for
themselves, and everything else in the list stays as it is. In front of a function-typed last
parameter they stand behind its modifiers: those then belong to the first of them. -/
theorem added_parameters_stand_apart (hwell : tree.WellFormed)
    (hf : f.node ∈ tree.rootNode.preorder) (hlist : f.parameterList? = some list)
    (horderly : Parameter.isOrderly list.children = true) (hfree : rewrites.find? list.id = none)
    {added : List Added} (hadded : added ≠ []) :
    let text := ", ".intercalate (added.map Added.text)
    let after := (Rules.addParameters f text).foldl Edit.apply rewrites
    (f.parameters = [] → list.currentText after = "(" ++ text ++ ")" ∧
      Parameter.reread list added (Rules.addParameters f text) = added.map Added.parameter ∧
      ∀ a rest opening closing, added = a :: rest → opening.isToken "(" = true →
        closing.isToken ")" = true →
        Parameter.among (opening :: (a.pieces ++ Added.trailing rest ++ [closing])) =
          added.map Added.parameter) ∧
    ∀ earlier last, f.parameters = earlier ++ [last] →
      (∀ r ∈ [rewrites, after], list.currentText r =
        Node.weave list.source (Node.currentText r) list.start list.stop list.children) ∧
      (last.isFunctionTyped = false →
        let anchor := last.default?.getD last.node
        (∀ c ∈ list.children, c.currentText after =
          if c == anchor then anchor.currentText rewrites ++ (", " ++ text)
          else c.currentText rewrites) ∧
        Parameter.reread list added (Rules.addParameters f text) =
          f.parameters ++ added.map Added.parameter) ∧
      (last.isFunctionTyped = true →
        (∀ c ∈ list.children, c.currentText after =
          if c == last.node then text ++ ", " ++ last.node.currentText rewrites
          else c.currentText rewrites) ∧
        Parameter.reread list added (Rules.addParameters f text) =
          earlier ++ Parameter.carrying last.modifiers? (added.map Added.parameter) ++
            [{ last with modifiers? := none }] ∧
        (Parameter.reread list added (Rules.addParameters f text) =
          earlier ++ added.map Added.parameter ++ [last] ↔ last.modifiers? = none)) := by
  intro text after
  have hmem : list ∈ tree.rootNode.preorder :=
    Node.mem_preorder_trans hf (Node.mem_preorder_of_childOfKind? hlist)
  refine ⟨fun hnone => ⟨?_, Parameter.reread_of_nil hlist hnone, ?_⟩, fun earlier last hlast => ?_⟩
  · have hafter : after = rewrites.set list.id ("(" ++ text ++ ")") := by
      simp only [after, Rules.addParameters_of_nil hlist hnone]
      rfl
    rw [hafter]
    exact currentText_set hwell hmem
  · rintro a rest opening closing rfl hopening hclosing
    exact Parameter.among_parenthesized hopening hclosing a rest
  have hread : Parameter.allIn list = earlier ++ [last] :=
    (FunctionDecl.parameters_eq hlist).symm.trans hlast
  have hedit : (Rules.additionTo last text).node ∈ list.children :=
    Rules.node_additionTo_mem (hread ▸ List.mem_append_right _ (List.mem_singleton_self last))
  have hafter : after = (Rules.additionTo last text).apply rewrites := by
    simp only [after, Rules.addParameters_of_last hlist hlast]
    rfl
  have htexts {c : Node} (hc : c ∈ list.children) : c.currentText after =
      if c == (Rules.additionTo last text).node then (Rules.additionTo last text).newText rewrites
      else c.currentText rewrites := by
    rw [hafter]
    exact currentText_apply_child hwell hmem hedit hc
  refine ⟨?_, fun htyped => ⟨fun c hc => ?_, ?_⟩, fun htyped => ⟨fun c hc => ?_, ?_⟩⟩
  · rw [List.forall_mem_cons, List.forall_mem_singleton, hafter]
    exact ⟨currentText_eq_weave hwell hmem hfree,
      currentText_apply_eq_weave hwell hmem hedit hfree⟩
  · rw [htexts hc, Rules.additionTo, if_neg (Bool.eq_false_iff.1 htyped)]
    rfl
  · rw [Parameter.reread_of_not_isFunctionTyped hwell hmem hlist horderly hlast htyped, hlast]
  · rw [htexts hc, Rules.additionTo, if_pos htyped]
    rfl
  · rw [Parameter.reread_of_isFunctionTyped hwell hmem hlist horderly hlast htyped hadded]
    refine ⟨rfl, fun heq => ?_, fun hnone => ?_⟩
    · obtain ⟨hcarrying, -⟩ := List.append_inj' heq rfl
      exact (Parameter.carrying_eq_self_iff hadded).1 (List.append_cancel_left hcarrying)
    · rw [(Parameter.carrying_eq_self_iff hadded).2 hnone,
        show ({ last with modifiers? := none } : Parameter) = last by rw [← hnone]]

end

section
open ParseTree

/-- The tree of `viewModel<VM>()`. -/
def ParseTree.fetch (start : Nat) : ParseTree := named "call_expression" start (start + 15)
  [name start (start + 9), named "type_arguments" (start + 9) (start + 13)
    [token "<" (start + 9) (start + 10),
      named "type_projection" (start + 10) (start + 12) [typeName (start + 10) (start + 12)],
      token ">" (start + 12) (start + 13)],
    named "value_arguments" (start + 13) (start + 15)
      [token "(" (start + 13) (start + 14), token ")" (start + 14) (start + 15)]]

/-- A function-typed last parameter with a modifier, and a state holder that is fetched. -/
def varargFile : String := "@Composable\nfun A(vararg slots: () -> Unit) \x7b\n" ++
  "    val vm = viewModel<VM>()\n\x7d\n"

def varargRoot : ParseTree :=
  let modifiers := named "modifiers" 0 11 [composableMarker 0]
  let parameters := named "function_value_parameters" 17 43 [token "(" 17 18,
    named "parameter_modifiers" 18 24 [named "parameter_modifier" 18 24 [token "vararg" 18 24]],
    named "parameter" 25 42 [name 25 30, token ":" 30 31, plainFunction 32], token ")" 42 43]
  let property := named "property_declaration" 50 74 [token "val" 50 53,
    named "variable_declaration" 54 56 [name 54 56], token "=" 57 58, fetch 59]
  named "source_file" 0 77 [named "function_declaration" 0 76 [modifiers, token "fun" 12 15,
    name 16 17, parameters, named "function_body" 44 76 [named "block" 44 76
      [token "\x7b" 44 45, property, token "\x7d" 75 76]]]]

def varargTree : SyntaxTree :=
  ⟨.ofText varargFile, SyntaxTree.number (.ofText varargFile) 0 varargRoot, false⟩

theorem wellFormed_varargTree : varargTree.WellFormed :=
  SyntaxTree.wellFormed_number ⟨by decide +kernel, by decide +kernel⟩

/-- A list with the parameter for the state holder and a comma behind it. -/
def holderFile : String := "(vm: VM = viewModel<VM>(),)"

def holderList : Node :=
  let root := named "function_value_parameters" 0 27 [token "(" 0 1,
    named "parameter" 1 7 [name 1 3, token ":" 3 4, typeName 5 7], token "=" 8 9, fetch 10,
    token "," 25 26, token ")" 26 27]
  ⟨.ofText holderFile, SyntaxTree.number (.ofText holderFile) 0 root, []⟩

/-- The parameter for the state holder. -/
def holder : Parameter.Added where
  node := holderList.children.get ⟨1, by decide +kernel⟩
  equals := holderList.children.get ⟨2, by decide +kernel⟩
  default := holderList.children.get ⟨3, by decide +kernel⟩
  comma := holderList.children.get ⟨4, by decide +kernel⟩
  isParameter := by decide +kernel
  isEquals := by decide +kernel
  isCall := by decide +kernel
  isNamed := by decide +kernel
  isComma := by decide +kernel

def varargRun : Run :=
  (dispatch varargTree (.of "" "A.kt" varargFile) [⟨Rules.viewModelInjection, .error⟩] .fix
    (fun _ => none) .empty).1

/-- The parameter for the state holder becomes `vararg`, and the other one no longer is. -/
theorem added_parameters_stand_apart_vararg :
    varargTree.WellFormed ∧ ∃ (f : FunctionDecl) (list : Node) (last : Parameter),
      f.node ∈ varargTree.rootNode.preorder ∧ f.parameterList? = some list ∧
      Parameter.isOrderly list.children = true ∧
      f.parameters = [last] ∧ last.isFunctionTyped = true ∧ last.isVararg = true ∧
      (∃ first other,
        Parameter.reread list [holder] (Rules.addParameters f holder.text) = [first, other] ∧
        first.node = holder.node ∧ first.isVararg = true ∧
        other.node = last.node ∧ other.isVararg = false) ∧
      list.currentText ((Rules.addParameters f holder.text).foldl Edit.apply .none) =
        "(vararg vm: VM = viewModel<VM>(), slots: () -> Unit)" ∧
      varargTree.render varargRun.rewrites = "@Composable\n" ++
        "fun A(vararg vm: VM = viewModel<VM>(), slots: () -> Unit) \x7b\n    \n\x7d\n" := by
  have hfile : (FunctionDecl.allIn varargTree.rootNode).map (fun f =>
      (f.parameterList?.map fun list => (Parameter.isOrderly list.children,
        list.currentText ((Rules.addParameters f holder.text).foldl Edit.apply .none)),
        f.parameters.map fun p => (p.isFunctionTyped, p.isVararg))) =
      [(some (true, "(vararg vm: VM = viewModel<VM>(), slots: () -> Unit)"), [(true, true)])] := by
    decide +kernel
  have hrender : varargTree.render varargRun.rewrites = "@Composable\n" ++
        "fun A(vararg vm: VM = viewModel<VM>(), slots: () -> Unit) \x7b\n    \n\x7d\n" := by
    decide +kernel
  obtain ⟨f, _, hfound, hf, -⟩ := List.map_eq_cons_iff.1 hfile
  obtain ⟨hlist, hparameters⟩ := Prod.mk.inj hf
  obtain ⟨list, hlist, hread⟩ := Option.map_eq_some_iff.1 hlist
  obtain ⟨horderly, htext⟩ := Prod.mk.inj hread
  obtain ⟨last, _, hlast, hp, hrest⟩ := List.map_eq_cons_iff.1 hparameters
  obtain rfl := List.map_eq_nil_iff.1 hrest
  obtain ⟨htyped, hvararg⟩ := Prod.mk.inj hp
  have hnode : f.node ∈ varargTree.rootNode.preorder :=
    FunctionDecl.mem_preorder_of_mem_allIn (hfound ▸ List.mem_cons_self)
  have hfree : Rewrites.find? .none list.id = none := rfl
  have hholder : [holder] ≠ [] := List.cons_ne_nil _ _
  obtain ⟨-, hadded⟩ := added_parameters_stand_apart wellFormed_varargTree hnode hlist horderly
    hfree hholder
  obtain ⟨-, -, hinserted⟩ := hadded [] last hlast
  obtain ⟨-, hreread, -⟩ := hinserted htyped
  exact ⟨wellFormed_varargTree, f, list, last, hnode, hlist, horderly, hlast, htyped, hvararg,
    ⟨_, _, hreread, rfl, hvararg, rfl, rfl⟩, htext, hrender⟩

end

end ComposeCheck
