import ComposeCheck.Proofs.Derivations

/-!
# Markers on the types of lambdas

A lambda is composable iff something on the way of its type says so
(`isComposableLambda_iff_tells`): the marker on a function type, on its receiver or on a wrapper, or
what the options or an interface say of a name. A marker on a name is not looked at: what is written
before a name makes no difference to the type.
-/

namespace ComposeCheck.LambdaTypes

section
variable {types : LambdaTypes} {type inner last m : Node}

/-- Whether a type on the way says by itself that the lambda is composable. -/
def tells (types : LambdaTypes) (type : Node) : Bool :=
  if type.kind = "function_type" then isMarkedFunction type
  else if type.isTypeWrapper then isMarked type
  else type.simpleTypeName?.bind types.named? == some true

/-- Whether a type carries the marker, a function type also on its receiver. -/
def carriesMarker (type : Node) : Bool :=
  if type.kind = "function_type" then isMarkedFunction type else isMarked type

theorem tells_of_function (h : type.kind = "function_type") :
    types.tells type = isMarkedFunction type := if_pos h

theorem tells_of_wrapper (h : type.isTypeWrapper = true) : types.tells type = isMarked type := by
  rw [tells, if_neg (kind_ne_of_isTypeWrapper h).1, if_pos h]

theorem tells_of_name (h : type.kind = "user_type") :
    types.tells type = (type.simpleTypeName?.bind types.named? == some true) := by
  have hwrapper : ¬type.isTypeWrapper = true := fun hw => (kind_ne_of_isTypeWrapper hw).2 h
  rw [tells, if_neg (by rw [h]; decide), if_neg hwrapper]

/-- Off the names, a marker tells that the lambda is composable. -/
theorem tells_of_carriesMarker (hlambda : types.isLambda type = true)
    (hname : type.kind ≠ "user_type") (h : carriesMarker type = true) :
    types.tells type = true := by
  rw [carriesMarker] at h
  split at h
  case isTrue hkind => rwa [tells_of_function hkind]
  case isFalse hkind =>
    by_cases hwrapper : type.isTypeWrapper = true
    · rwa [tells_of_wrapper hwrapper]
    · rw [isLambda, resolve_of_other hkind (Bool.eq_false_iff.2 hwrapper) hname] at hlambda
      cases hlambda

/-- The end of the way decides by what it says itself. -/
theorem isComposableLambda_of_end (h : types.next? type = none)
    (hlambda : types.isLambda type = true) :
    types.isComposableLambda type = types.tells type := by
  rw [isLambda] at hlambda
  rw [isComposableLambda]
  by_cases hfunction : type.kind = "function_type"
  · rw [resolve_of_function hfunction, tells_of_function hfunction]
    cases isMarkedFunction type <;> rfl
  by_cases hwrapper : type.isTypeWrapper = true
  · rw [next?_of_wrapper hwrapper] at h
    rw [resolve_of_wrapper hwrapper, h] at hlambda
    cases hlambda
  by_cases hname : type.kind = "user_type"
  · rw [next?_of_name hname] at h
    rw [resolve_of_name hname] at hlambda ⊢
    rw [tells_of_name hname]
    cases hkey : type.simpleTypeName? with
    | none => rfl
    | some key =>
      rw [hkey, Option.bind_some] at h hlambda
      rw [Option.bind_some, Option.bind_some]
      cases hnamed : types.named? key with
      | some composable => rfl
      | none =>
        rw [hnamed, Option.isSome_none, if_neg Bool.false_ne_true] at h
        rw [hnamed, h] at hlambda
        cases hlambda
  · rw [resolve_of_other hfunction (Bool.eq_false_iff.2 hwrapper) hname] at hlambda
    cases hlambda

/-- A type that leaves the decision to another can only add its own marker. -/
theorem isComposableLambda_of_leads (h : types.Leads type inner)
    (hlambda : types.isLambda inner = true) :
    types.isComposableLambda type = (types.isComposableLambda inner || types.tells type) := by
  rw [Leads] at h
  obtain ⟨composable, hinner⟩ := Option.isSome_iff_exists.1 hlambda
  rw [isComposableLambda, isComposableLambda, hinner]
  by_cases hwrapper : type.isTypeWrapper = true
  · rw [next?_of_wrapper hwrapper] at h
    rw [resolve_of_wrapper hwrapper, h, Option.bind_some, hinner, tells_of_wrapper hwrapper]
    cases composable <;> cases isMarked type <;> rfl
  by_cases hname : type.kind = "user_type"
  · rw [next?_of_name hname] at h
    obtain ⟨key, hkey, h⟩ := Option.bind_eq_some_iff.1 h
    split at h
    · cases h
    case isFalse hnamed =>
      rw [Option.not_isSome_iff_eq_none] at hnamed
      rw [resolve_of_name hname, tells_of_name hname, hkey, Option.bind_some, Option.bind_some,
        hnamed, Option.none_or, h, Option.bind_some, hinner]
      cases composable <;> rfl
  · rw [next?_of_other (Bool.eq_false_iff.2 hwrapper) hname] at h
    cases h

/-- What makes a lambda composable further on makes it composable from the start. -/
theorem isComposableLambda_of_reflTransGen (h : Relation.ReflTransGen types.Leads type m)
    (hm : types.isComposableLambda m = true) : types.isComposableLambda type = true := by
  induction h using Relation.ReflTransGen.head_induction_on with
  | refl => exact hm
  | @head first next hstep hway ih =>
    have hlambda : types.isLambda next = true := by
      rw [isComposableLambda, beq_iff_eq] at ih
      rw [isLambda, ih]
      rfl
    rw [isComposableLambda_of_leads hstep hlambda, ih, Bool.true_or]

theorem isComposableLambda_of_tells (hlambda : types.isLambda m = true)
    (h : types.tells m = true) : types.isComposableLambda m = true := by
  cases hnext : types.next? m with
  | none => rw [isComposableLambda_of_end hnext hlambda, h]
  | some next =>
    have hnextLambda : types.isLambda next = true := (isLambda_of_leads hnext).symm.trans hlambda
    rw [isComposableLambda_of_leads hnext hnextLambda, h, Bool.or_true]

theorem exists_tells_of_isComposableLambda (h : Relation.ReflTransGen types.Leads type last)
    (hend : types.next? last = none) (hlambda : types.isLambda last = true)
    (hcomposable : types.isComposableLambda type = true) :
    ∃ m, Relation.ReflTransGen types.Leads type m ∧ types.tells m = true := by
  induction h using Relation.ReflTransGen.head_induction_on with
  | refl => exact ⟨last, .refl, (isComposableLambda_of_end hend hlambda).symm.trans hcomposable⟩
  | @head first next hstep hway ih =>
    rw [isComposableLambda_of_leads hstep ((isLambda_of_reflTransGen hway).trans hlambda),
      Bool.or_eq_true] at hcomposable
    rcases hcomposable with hnext | htells
    · obtain ⟨m, hm, htells⟩ := ih hnext
      exact ⟨m, .head hstep hm, htells⟩
    · exact ⟨first, .refl, htells⟩

theorem isComposableLambda_iff_tells : types.isComposableLambda type = true ↔
    types.isLambda type = true ∧
      ∃ m, Relation.ReflTransGen types.Leads type m ∧ types.tells m = true := by
  constructor
  · intro h
    have hlambda : types.isLambda type = true := by
      rw [isComposableLambda, beq_iff_eq] at h
      rw [isLambda, h]
      rfl
    obtain ⟨last, hway, hend⟩ := exists_end_of_resolveWith hlambda fun _ _ hlookup => hlookup
    exact ⟨hlambda, exists_tells_of_isComposableLambda hway hend
      ((isLambda_of_reflTransGen hway).symm.trans hlambda) h⟩
  · rintro ⟨hlambda, m, hway, htells⟩
    exact isComposableLambda_of_reflTransGen hway (isComposableLambda_of_tells
      ((isLambda_of_reflTransGen hway).symm.trans hlambda) htells)

end

/-- A lambda is composable iff a type on its way tells so. Every marker on the way counts that does
not stand on a name; a name resolves to the same whatever stands before it. -/
theorem markers_count_off_names (types : LambdaTypes) (type : Node) :
    (types.isComposableLambda type = true ↔ types.isLambda type = true ∧
      ∃ m, Relation.ReflTransGen types.Leads type m ∧ types.tells m = true) ∧
    (types.isLambda type = true → ∀ m, Relation.ReflTransGen types.Leads type m →
      m.kind ≠ "user_type" → carriesMarker m = true → types.isComposableLambda type = true) ∧
    ∀ other : Node, type.kind = "user_type" → other.kind = "user_type" →
      other.simpleTypeName? = type.simpleTypeName? → types.resolve other = types.resolve type := by
  refine ⟨isComposableLambda_iff_tells, fun hlambda m hway hname hmarked => ?_,
    fun other htype hother hname => ?_⟩
  · have hm : types.isLambda m = true := (isLambda_of_reflTransGen hway).symm.trans hlambda
    exact isComposableLambda_iff_tells.2
      ⟨hlambda, m, hway, tells_of_carriesMarker hm hname hmarked⟩
  · rw [resolve_of_name hother, resolve_of_name htype, hname]

section
open ParseTree

/-- An alias of a plain function type, with a marker before its name and without, and a marker on a
wrapper. -/
def slotsFile : String := "typealias Callback = () -> Unit\n\n" ++
  "fun A(a: @Composable Callback, b: Callback, c: @Composable (() -> Unit)?) \x7b\x7d\n"

def slotsRoot : ParseTree :=
  let marker (start : Nat) : ParseTree :=
    named "type_modifiers" start (start + 11) [composableMarker start]
  let parameters := named "function_value_parameters" 38 106 [token "(" 38 39,
    letterParameter 39 (named "user_type" 42 62 [marker 42, name 54 62]), token "," 62 63,
    letterParameter 64 (typeName 67 75), token "," 75 76,
    letterParameter 77 (named "nullable_type" 80 105 [marker 80,
      named "parenthesized_type" 92 104 [token "(" 92 93, plainFunction 93, token ")" 103 104],
      token "?" 104 105]), token ")" 105 106]
  named "source_file" 0 110 [named "type_alias" 0 31 [token "typealias" 0 9, name 10 18,
      token "=" 19 20, plainFunction 21],
    named "function_declaration" 33 109 [token "fun" 33 36, name 37 38, parameters,
      named "function_body" 107 109 [named "block" 107 109
        [token "\x7b" 107 108, token "\x7d" 108 109]]]]

def slotsTree : SyntaxTree :=
  ⟨.ofText slotsFile, SyntaxTree.number (.ofText slotsFile) 0 slotsRoot, false⟩

def slotsTypes : LambdaTypes := collect slotsTree.rootNode [] []

def slotsList : Node :=
  (slotsTree.rootNode.descendantOfKind? "function_value_parameters").getD slotsTree.rootNode

/-- The marked name is a lambda, but not a composable one, as it is without the marker; the marked
wrapper is composable. -/
theorem markers_count_off_names_slots :
    ∃ a b c, (Parameter.allIn slotsList).filterMap Parameter.type? = [a, b, c] ∧
      (isMarked a = true ∧ slotsTypes.isLambda a = true ∧
        slotsTypes.isComposableLambda a = false ∧ slotsTypes.resolve a = slotsTypes.resolve b) ∧
      c.kind ≠ "user_type" ∧ carriesMarker c = true ∧ slotsTypes.isComposableLambda c = true := by
  have htypes : ((Parameter.allIn slotsList).filterMap Parameter.type?).map (fun type =>
      (type.kind, isMarked type)) =
        [("user_type", true), ("user_type", false), ("nullable_type", true)] := by
    decide +kernel
  have hnames : (((Parameter.allIn slotsList).filterMap Parameter.type?).take 2).map
      Node.simpleTypeName? = [some "Callback", some "Callback"] := by
    decide +kernel
  have hresolved : ((Parameter.allIn slotsList).filterMap Parameter.type?).map (fun type =>
      (slotsTypes.resolveIn 30 [] type, decide (reach slotsTypes.aliases type ≤ 30))) =
        [(some (some false), true), (some (some false), true), (some (some true), true)] := by
    decide +kernel
  obtain ⟨a, _, hlist, ha, hrest⟩ := List.map_eq_cons_iff.1 htypes
  obtain ⟨b, _, rfl, hb, hrest⟩ := List.map_eq_cons_iff.1 hrest
  obtain ⟨c, _, rfl, hc, hrest⟩ := List.map_eq_cons_iff.1 hrest
  obtain rfl := List.map_eq_nil_iff.1 hrest
  rw [hlist] at hnames hresolved
  simp only [Prod.mk.injEq, List.map_cons, List.map_nil, List.take_succ_cons, List.take_zero,
    List.cons.injEq, decide_eq_true_eq, and_true] at ha hb hc hnames hresolved
  obtain ⟨⟨hstepsA, hreachA⟩, -, hstepsC, hreachC⟩ := hresolved
  have hresolveA := resolve_of_resolveIn hreachA hstepsA
  have hlambdaC : slotsTypes.isLambda c = true := by
    rw [isLambda, resolve_of_resolveIn hreachC hstepsC]
    rfl
  have hnameC : c.kind ≠ "user_type" := by
    rw [hc.1]
    decide
  have hmarkedC : carriesMarker c = true := by
    rw [carriesMarker, if_neg (by rw [hc.1]; decide), hc.2]
  obtain ⟨-, -, hsame⟩ := markers_count_off_names slotsTypes b
  obtain ⟨-, hcounts, -⟩ := markers_count_off_names slotsTypes c
  refine ⟨a, b, c, hlist, ⟨ha.2, ?_, ?_, hsame a hb.1 ha.1 (hnames.1.trans hnames.2.symm)⟩, hnameC,
    hmarkedC, hcounts hlambdaC c .refl hnameC hmarkedC⟩
  · rw [isLambda, hresolveA]
    rfl
  · rw [isComposableLambda, hresolveA]
    rfl

end

end ComposeCheck.LambdaTypes
