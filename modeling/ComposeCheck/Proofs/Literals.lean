import ComposeCheck.Proofs.Plans
import ComposeCheck.Rules.MutableStateAutoboxing
import ComposeCheck.Tree.Parse

/-!
# The types of integer literals

The language types an integer literal without a suffix by its value: it is an `Int` if it fits and a
`Long` if not. State without a box is made by the factory for the type of its literal, which the fix
tells from the suffix alone (`factoryFor?_of_spells`).
-/

namespace ComposeCheck

/-- How the digits of an integer are written. -/
inductive Radix where
  | binary
  | decimal
  | hexadecimal

namespace Radix

def size : Radix → Nat
  | binary => 2
  | decimal => 10
  | hexadecimal => 16

/-- What stands before the digits. -/
def leads : Radix → List (List Char)
  | binary => [['0', 'b'], ['0', 'B']]
  | decimal => [[]]
  | hexadecimal => [['0', 'x'], ['0', 'X']]

def IsDigit (radix : Radix) (c : Char) : Prop := ∃ value < radix.size, Text.hexValue? c = some value

end Radix

/-- The types between which the language chooses for an integer literal. -/
inductive IntegerType where
  | int
  | long
  | unsigned

/-- An integer literal: digits that may have underscores between them, and a suffix. -/
structure IntegerLiteral where
  radix : Radix
  lead : List Char
  places : List Char
  suffix : List Char
  lead_mem : lead ∈ radix.leads
  digit_of_mem : ∀ c ∈ places, c = '_' ∨ radix.IsDigit c
  places_ne_nil : places ≠ []
  suffix_mem : suffix ∈
    [[], ['l'], ['L'], ['u'], ['U'], ['u', 'l'], ['u', 'L'], ['U', 'l'], ['U', 'L']]

namespace IntegerLiteral

variable (literal : IntegerLiteral)

def text : List Char := literal.lead ++ literal.places ++ literal.suffix

def value : Nat := Text.valueOf literal.radix.size (literal.places.filter (· ≠ '_'))

def IsUnsigned : Prop := 'u' ∈ literal.suffix ∨ 'U' ∈ literal.suffix

instance : Decidable literal.IsUnsigned := inferInstanceAs (Decidable (_ ∨ _))

/-- The type that the language gives to the literal. -/
def type : IntegerType :=
  if literal.IsUnsigned then .unsigned
  else if literal.suffix = [] ∧ literal.value ≤ 2147483647 then .int
  else .long

end IntegerLiteral

/-- The factory for state of a type, if there is one without a box. -/
def IntegerType.factory? : IntegerType → Option String
  | int => some "mutableIntStateOf"
  | long => some "mutableLongStateOf"
  | unsigned => none

/-- The factory that the suffix of a literal names. -/
def IntegerLiteral.suffixFactory? (literal : IntegerLiteral) : Option String :=
  if literal.IsUnsigned then none
  else if literal.suffix = [] then some "mutableIntStateOf"
  else some "mutableLongStateOf"

/-! ### The characters of a literal -/

/-- The letters that make a suffix. -/
def suffixLetters : List Char := ['u', 'U', 'l', 'L']

theorem Radix.IsDigit.not_mem_suffixLetters {radix : Radix} {c : Char} (h : radix.IsDigit c) :
    c ∉ suffixLetters := by
  obtain ⟨value, -, hvalue⟩ := h
  intro hmem
  simp only [suffixLetters, List.mem_cons, List.not_mem_nil, or_false] at hmem
  rcases hmem with rfl | rfl | rfl | rfl <;> cases hvalue

theorem Radix.not_mem_suffixLetters_of_mem_leads {radix : Radix} {lead : List Char}
    (h : lead ∈ radix.leads) : ∀ c ∈ lead, c ∉ suffixLetters := by
  have hall : radix.leads.all (fun lead => lead.all fun c => !suffixLetters.contains c) = true := by
    cases radix <;> decide
  simpa using List.all_eq_true.1 hall lead h

namespace IntegerLiteral

variable {literal : IntegerLiteral}

theorem not_mem_suffixLetters_of_mem_places {c : Char} (h : c ∈ literal.places) :
    c ∉ suffixLetters := by
  rcases literal.digit_of_mem c h with rfl | hdigit
  · decide
  · exact hdigit.not_mem_suffixLetters

theorem mem_text_iff {c : Char} (h : c ∈ suffixLetters) :
    c ∈ literal.text ↔ c ∈ literal.suffix := by
  simp only [text, List.mem_append]
  constructor
  · rintro ((hlead | hplace) | hsuffix)
    · exact absurd h (Radix.not_mem_suffixLetters_of_mem_leads literal.lead_mem c hlead)
    · exact absurd h (not_mem_suffixLetters_of_mem_places hplace)
    · exact hsuffix
  · exact .inr

theorem getLast?_text_of_suffix_ne_nil (h : literal.suffix ≠ []) :
    literal.text.getLast? = literal.suffix.getLast? := by
  rw [text, List.getLast?_append, List.getLast?_eq_some_getLast h, Option.some_or]

theorem getLast?_text_of_suffix_eq_nil (h : literal.suffix = []) :
    ∃ c ∉ suffixLetters, literal.text.getLast? = some c := by
  refine ⟨literal.places.getLast literal.places_ne_nil,
    not_mem_suffixLetters_of_mem_places (List.getLast_mem _), ?_⟩
  rw [text, h, List.append_nil, List.getLast?_append,
    List.getLast?_eq_some_getLast literal.places_ne_nil, Option.some_or]

/-- Among the signed literals, those with a suffix are the ones that end with its letter. -/
theorem ends_iff (h : ¬ literal.IsUnsigned) :
    (literal.text.getLast? = some 'l' ∨ literal.text.getLast? = some 'L') ↔
      literal.suffix ≠ [] := by
  by_cases hnil : literal.suffix = []
  · obtain ⟨c, hc, hlast⟩ := getLast?_text_of_suffix_eq_nil hnil
    rw [hlast]
    constructor
    · rintro (heq | heq) <;> cases heq <;> exact absurd hc (by decide)
    · exact fun hne => absurd hnil hne
  · rw [getLast?_text_of_suffix_ne_nil hnil]
    have hmem := literal.suffix_mem
    simp only [List.mem_cons, List.not_mem_nil, or_false] at hmem
    rw [IsUnsigned] at h
    rcases hmem with heq | heq | heq | heq | heq | heq | heq | heq | heq <;>
      rw [heq] at h hnil ⊢ <;> simp at h hnil ⊢

end IntegerLiteral

namespace Rules

/-- An expression is this integer, with or without a sign. -/
def Spells (expression : Node) (literal : IntegerLiteral) : Prop :=
  ∃ number ∈ unsigned? expression,
    number.kind = "number_literal" ∧ number.text.toList = literal.text

instance (expression : Node) (literal : IntegerLiteral) : Decidable (Spells expression literal) :=
  inferInstanceAs (Decidable (∃ number ∈ unsigned? expression, _))

/-- A call puts this integer into a box: it is `mutableStateOf` of the integer and of nothing else,
and leaves the type to the argument. -/
structure Boxes (call : Call) (literal : IntegerLiteral) : Prop where
  name : call.name? = some "mutableStateOf"
  receiver : call.receiver?.isNone
  head : ∃ head ∈ call.callee.parent?, (head.childOfKind? "type_arguments").isNone
  single : call.arguments.length = 1
  argument : ∀ argument ∈ call.arguments, ∃ expression ∈ argument.expression?,
    Spells expression literal

variable {call : Call} {literal : IntegerLiteral} {expression : Node}

theorem factoryFor?_of_spells (h : Spells expression literal) :
    factoryFor? expression = literal.suffixFactory? := by
  obtain ⟨number, hnumber, hkind, htext⟩ := h
  have hunsigned : (literal.text.contains 'u' || literal.text.contains 'U') = true ↔
      literal.IsUnsigned := by
    simp [IntegerLiteral.IsUnsigned,
      IntegerLiteral.mem_text_iff (by decide : 'u' ∈ suffixLetters),
      IntegerLiteral.mem_text_iff (by decide : 'U' ∈ suffixLetters)]
  simp only [factoryFor?, Option.mem_def.1 hnumber, Option.bind_eq_bind, Option.bind_some, hkind,
    htext, IntegerLiteral.suffixFactory?, hunsigned, if_true]
  split
  · rfl
  case isFalse hsigned =>
    simp only [Bool.or_eq_true, beq_iff_eq, IntegerLiteral.ends_iff hsigned, ite_not]

theorem suffixFactory?_eq_iff : literal.suffixFactory? = literal.type.factory? ↔
    (literal.suffix = [] → literal.value ≤ 2147483647) := by
  unfold IntegerLiteral.suffixFactory? IntegerLiteral.type
  by_cases hu : literal.IsUnsigned
  · have hne : literal.suffix ≠ [] := by
      rintro hnil
      simp [IntegerLiteral.IsUnsigned, hnil] at hu
    simp [hu, hne, IntegerType.factory?]
  · by_cases hnil : literal.suffix = [] <;> by_cases hvalue : literal.value ≤ 2147483647 <;>
      simp [hu, hnil, hvalue, IntegerType.factory?]

theorem betterFactory?_of_boxes (h : Boxes call literal) :
    betterFactory? call = literal.suffixFactory? := by
  obtain ⟨head, hhead, huntyped⟩ := h.head
  obtain ⟨argument, hargument⟩ := List.length_eq_one_iff.1 h.single
  obtain ⟨expression, hexpression, hspells⟩ := h.argument argument (by simp [hargument])
  rw [Option.mem_def] at hhead hexpression
  simp [betterFactory?, h.name, Option.isNone_iff_eq_none.1 h.receiver, hhead,
    Option.isNone_iff_eq_none.1 huntyped, hargument, hexpression, factoryFor?_of_spells hspells]

theorem fixes_mutableStateAutoboxing (root : Node) (occasion : Occasion) (backend : Backend)
    (memo : Memo) :
    ((mutableStateAutoboxing.report (.file root) occasion backend memo).1.findings.map
      fun finding => (finding.node, finding.fix?)) =
      (Call.allIn root).filterMap fun call => (betterFactory? call).map fun factory =>
        (call.callee, some [.replace call.callee factory]) := by
  have hcarries : (mutableStateAutoboxing.visit (.file root)).CarriesOut _ :=
    RuleM.carriesOut_offerAll
  rw [hcarries.report_eq]
  show ((Call.allIn root).filterMap _).map _ = _
  rw [List.map_filterMap]
  congr
  funext call
  cases betterFactory? call <;> rfl

/-- The suffix alone chooses the factory for an integer, which is the one for its type if and only
if the integer has a suffix or fits an `Int`. Where a call puts the integer into a box, this factory
takes the place of what is called. -/
theorem integer_factory (literal : IntegerLiteral) :
    (∀ expression, Spells expression literal →
      factoryFor? expression = literal.suffixFactory? ∧
      (factoryFor? expression = literal.type.factory? ↔
        (literal.suffix = [] → literal.value ≤ 2147483647))) ∧
    (∀ call, Boxes call literal → betterFactory? call = literal.suffixFactory?) ∧
    ∀ root occasion backend memo,
      ((mutableStateAutoboxing.report (.file root) occasion backend memo).1.findings.map
        fun finding => (finding.node, finding.fix?)) =
        (Call.allIn root).filterMap fun call => (betterFactory? call).map fun factory =>
          (call.callee, some [.replace call.callee factory]) := by
  refine ⟨fun expression h => ?_, fun call => betterFactory?_of_boxes,
    fixes_mutableStateAutoboxing⟩
  have hfactory := factoryFor?_of_spells h
  exact ⟨hfactory, hfactory ▸ suffixFactory?_eq_iff⟩

/-- A number of a `Long` in a box. -/
def distanceFile : String := "val x = mutableStateOf(3000000000)"

def distanceParser : Parser := fun text =>
  if text = distanceFile then
    let named (kind : String) (start stop : Nat) (ts : List ParseTree) : ParseTree :=
      .node ⟨kind, true, false, start, stop⟩ ts
    let token (kind : String) (start : Nat) : ParseTree :=
      .node ⟨kind, false, false, start, start + kind.length⟩ []
    let argument := named "value_argument" 23 33 [named "number_literal" 23 33 []]
    let call := named "call_expression" 8 34 [named "identifier" 8 22 [],
      named "value_arguments" 22 34 [token "(" 22, argument, token ")" 33]]
    let name := named "variable_declaration" 4 5 [named "identifier" 4 5 []]
    some ⟨named "source_file" 0 34
      [named "property_declaration" 0 34 [token "val" 0, name, token "=" 6, call]], false⟩
  else none

def distanceTree : SyntaxTree :=
  (SyntaxTree.read? distanceParser distanceFile).get (by decide +kernel)

def distanceCall : Call := (Call.allIn distanceTree.rootNode).get ⟨0, by decide +kernel⟩

def threeBillion : IntegerLiteral where
  radix := .decimal
  lead := []
  places := "3000000000".toList
  suffix := []
  lead_mem := by decide
  digit_of_mem := by
    have hall : "3000000000".toList.all (fun c => c == '0' || c == '3') = true := by decide
    intro c hc
    have hdigit := List.all_eq_true.1 hall c hc
    rw [Bool.or_eq_true, beq_iff_eq, beq_iff_eq] at hdigit
    rcases hdigit with rfl | rfl
    · exact .inr ⟨0, by decide, rfl⟩
    · exact .inr ⟨3, by decide, rfl⟩
  places_ne_nil := by decide
  suffix_mem := by decide

def distanceNumber : Node := distanceTree.rootNode.preorder.get ⟨11, by decide +kernel⟩

theorem integer_factory_distance :
    Spells distanceNumber threeBillion ∧ Boxes distanceCall threeBillion ∧
    threeBillion.type = .long ∧
    betterFactory? distanceCall = some "mutableIntStateOf" ∧
    factoryFor? distanceNumber ≠ threeBillion.type.factory? := by
  have hspells : Spells distanceNumber threeBillion := by decide +kernel
  have hboxes : Boxes distanceCall threeBillion :=
    ⟨by decide +kernel, by decide +kernel, by decide +kernel, by decide +kernel, by decide +kernel⟩
  obtain ⟨hliteral, hcall, -⟩ := integer_factory threeBillion
  exact ⟨hspells, hboxes, rfl, hcall distanceCall hboxes,
    fun h => absurd ((hliteral distanceNumber hspells).2.1 h rfl) (by decide)⟩

end Rules

end ComposeCheck
