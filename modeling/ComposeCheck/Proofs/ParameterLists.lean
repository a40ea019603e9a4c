import ComposeCheck.Proofs.Insertion

/-!
# Parameter lists are read back

A parameter is spelled by its modifiers, its node, and an `=` with its default (`Parameter.Spells`);
a list is spelled by its parameters with commas between them, and perhaps one behind the last
(`Parameter.Lists`). Between two parameters nothing waits: no modifiers for a parameter to come and
no `=` for its default. From there the children of a parameter give that parameter and leave nothing
waiting (`foldl_spells`), so that a list is read as what it spells (`foldl_lists`). Comments change
nothing, wherever they stand.
-/

namespace ComposeCheck

namespace Parameter

/-- The children of a list that spell one parameter. -/
inductive Spells : Parameter → List Node → Prop
  | plain {modifiers? : Option Node} {node : Node}
      (hmodifiers : ∀ m ∈ modifiers?, m.kind = "parameter_modifiers")
      (hnode : node.kind = "parameter") :
      Spells ⟨node, none, modifiers?⟩ (modifiers?.toList ++ [node])
  | withDefault {modifiers? : Option Node} {node equals default : Node}
      (hmodifiers : ∀ m ∈ modifiers?, m.kind = "parameter_modifiers")
      (hnode : node.kind = "parameter") (hequals : equals.isToken "=" = true)
      (hdefault : IsDefault default) :
      Spells ⟨node, some default, modifiers?⟩ (modifiers?.toList ++ [node, equals, default])

/-- The children of a list that spell its parameters, one after the other. A comma stands behind
each but the last, and there one may stand. -/
inductive Lists : List Parameter → List Node → Prop
  | nil : Lists [] []
  | last {p : Parameter} {cs : List Node} (h : Spells p cs) : Lists [p] cs
  | cons {p : Parameter} {ps : List Parameter} {comma : Node} {cs ds : List Node}
      (h : Spells p cs) (hcomma : comma.isToken "," = true) (others : Lists ps ds) :
      Lists (p :: ps) (cs ++ comma :: ds)

section
variable {list opening closing : Node} {p : Parameter} {ps found : List Parameter}
  {cs : List Node} {state : Reading}

theorem foldl_step_filter (cs : List Node) (state : Reading) :
    (cs.filter fun c => !c.isComment).foldl Reading.step state = cs.foldl Reading.step state := by
  induction cs generalizing state with
  | nil => rfl
  | cons c cs ih =>
    cases hc : c.isComment with
    | true =>
      rw [List.filter_cons_of_neg (by rw [hc]; decide), ih, List.foldl_cons, step_comment hc]
    | false =>
      rw [List.filter_cons_of_pos (by rw [hc]; decide), List.foldl_cons, ih, List.foldl_cons]

theorem foldl_modifiers {modifiers? : Option Node}
    (h : ∀ m ∈ modifiers?, m.kind = "parameter_modifiers") :
    modifiers?.toList.foldl Reading.step ⟨found, none, false⟩ = ⟨found, modifiers?, false⟩ := by
  cases modifiers? with
  | none => rfl
  | some m => exact step_modifiers (h m rfl)

/-- Where nothing waits, the children of a parameter give it and leave nothing waiting. -/
theorem foldl_spells (h : Spells p cs) :
    cs.foldl Reading.step ⟨found, none, false⟩ = ⟨p :: found, none, false⟩ := by
  cases h with
  | plain hmodifiers hnode =>
    rw [List.foldl_append, foldl_modifiers hmodifiers, List.foldl_cons, step_parameter hnode,
      List.foldl_nil]
  | withDefault hmodifiers hnode hequals hdefault =>
    rw [List.foldl_append, foldl_modifiers hmodifiers, List.foldl_cons, step_parameter hnode,
      List.foldl_cons, step_equals hequals, List.foldl_cons, step_default hdefault, List.foldl_nil]

theorem foldl_lists (h : Lists ps cs) :
    cs.foldl Reading.step ⟨found, none, false⟩ = ⟨ps.reverse ++ found, none, false⟩ := by
  induction h generalizing found with
  | nil => rfl
  | last h => exact foldl_spells h
  | cons h hcomma _ ih =>
    rw [List.foldl_append, foldl_spells h, List.foldl_cons, step_break hcomma (by decide), ih]
    simp

/-- Parameters that are laid out between parentheses, with commas between them and comments
anywhere, are read back: these and no others, in their order, each with its own modifiers and its
own default. -/
theorem allIn_reads_back (hlists : Lists ps cs) (hopening : opening.isToken "(" = true)
    (hclosing : closing.isToken ")" = true)
    (hchildren : (list.children.filter fun c => !c.isComment) = opening :: (cs ++ [closing])) :
    allIn list = ps := by
  have hread : list.children.foldl Reading.step ⟨[], none, false⟩ =
      ⟨ps.reverse ++ [], none, false⟩ := by
    rw [← foldl_step_filter, hchildren, List.foldl_cons, step_break hopening (by decide),
      List.foldl_append, foldl_lists hlists, List.foldl_cons, step_break hclosing (by decide),
      List.foldl_nil]
  rw [allIn, hread, List.append_nil, List.reverse_reverse]

end

end Parameter

section
open ParseTree

/-- A list with modifiers, a default and comments beside it, and a comma behind the last
parameter. -/
def remarkedFile : String := "(vararg a: A /**/ = /**/ b, c: C, /**/)"

def remarkedList : Node :=
  let remark (start : Nat) : ParseTree :=
    .node ⟨"block_comment", true, true, start, start + 4⟩ []
  let root := named "function_value_parameters" 0 39 [token "(" 0 1,
    named "parameter_modifiers" 1 7 [named "parameter_modifier" 1 7 [token "vararg" 1 7]],
    named "parameter" 8 12 [name 8 9, token ":" 9 10, typeName 11 12], remark 13,
    token "=" 18 19, remark 20, name 25 26, token "," 26 27,
    named "parameter" 28 32 [name 28 29, token ":" 29 30, typeName 31 32], token "," 32 33,
    remark 34, token ")" 38 39]
  ⟨.ofText remarkedFile, SyntaxTree.number (.ofText remarkedFile) 0 root, []⟩

def remarkedChild (i : Fin 12) : Node := remarkedList.children.get (Fin.cast (by decide +kernel) i)

/-- The parameters of the list: the first with its modifiers and its default, the second without. -/
def remarkedParameters : List Parameter :=
  [⟨remarkedChild 2, some (remarkedChild 6), some (remarkedChild 1)⟩, ⟨remarkedChild 8, none, none⟩]

/-- The comments on both sides of the `=` keep the default from no parameter. -/
theorem Parameter.allIn_reads_back_remarked :
    (remarkedList.children.map Node.isComment).count true = 3 ∧
    allIn remarkedList = remarkedParameters := by
  have hmodifiers : ∀ m ∈ some (remarkedChild 1), m.kind = "parameter_modifiers" := by
    rintro m ⟨⟩
    decide +kernel
  have hdefault : IsDefault (remarkedChild 6) :=
    ⟨by decide +kernel, by decide +kernel, by decide +kernel, by decide +kernel⟩
  have hequals : (remarkedChild 4).isToken "=" = true := by decide +kernel
  have hcommas : ∀ i ∈ [(7 : Fin 12), 9], (remarkedChild i).isToken "," = true := by
    decide +kernel
  have hfirst : Spells ⟨remarkedChild 2, some (remarkedChild 6), some (remarkedChild 1)⟩
      [remarkedChild 1, remarkedChild 2, remarkedChild 4, remarkedChild 6] :=
    .withDefault hmodifiers (by decide +kernel) hequals hdefault
  have hsecond : Spells ⟨remarkedChild 8, none, none⟩ [remarkedChild 8] :=
    .plain (fun _ h => nomatch h) (by decide +kernel)
  have hlists : Lists remarkedParameters _ :=
    .cons hfirst (hcommas 7 (by decide)) (.cons hsecond (hcommas 9 (by decide)) .nil)
  have hopening : (remarkedChild 0).isToken "(" = true := by decide +kernel
  have hclosing : (remarkedChild 11).isToken ")" = true := by decide +kernel
  exact ⟨by decide +kernel, allIn_reads_back hlists hopening hclosing rfl⟩

end

end ComposeCheck
