import ComposeCheck.Proofs.Derivations
import ComposeCheck.Proofs.Messages

/-!
# Defaults objects that are not visible enough

The uses of defaults objects are gone through composable by composable, and a use counts if the
composable is more visible than the object (`mem_hiddenDefaults_iff`). Of the uses that count, each
object keeps its first (`mem_ids_firstOfEach`), so a use that does not count keeps none from being
reported. Where no two defaults objects have one name, an object is found by its name
(`lookup_defaultsObjects`), and it is reported once if there is a use that counts, wherever it
stands (`defaults_objects_reported_once`).
-/

namespace ComposeCheck

namespace FunctionDecl

variable {root : Node} {f : FunctionDecl}

theorem mem_allIn_iff : f ∈ allIn root ↔
    f.node.Under root ∧ f.node.kind = "function_declaration" := by
  rw [allIn, List.mem_filterMap, ← Node.mem_descendants_iff]
  constructor
  · rintro ⟨n, hn, hf⟩
    unfold ofNode? at hf
    split at hf
    case isTrue hkind =>
      cases hf
      exact ⟨hn, hkind⟩
    case isFalse => cases hf
  · rintro ⟨hf, hkind⟩
    exact ⟨f.node, hf, if_pos hkind⟩

/-- The components of a file are its composables. -/
theorem mem_componentsIn_iff : f ∈ EmissionCounter.componentsIn root ↔
    f.node.Under root ∧ f.node.kind = "function_declaration" ∧ f.isComposable = true := by
  rw [EmissionCounter.componentsIn, List.mem_mergeSort, List.mem_filter, mem_allIn_iff, and_assoc]

end FunctionDecl

namespace Rules

/-- An object of a file with a name that ends in `Defaults`. -/
def IsDefaultsObject (root : Node) (name : String) (object : Node) : Prop :=
  object.Under root ∧ object.kind = "object_declaration" ∧
    (∃ identifier, object.childOfKind? "identifier" = some identifier ∧ identifier.text = name) ∧
    Text.hasTail "Defaults" name = true

/-- A name occurs as a reference in a node. -/
def Mentions (n : Node) (name : String) : Prop :=
  ∃ identifier ∈ n.preorder, identifier.kind = "identifier" ∧ identifier.text = name ∧
    identifier.isReference = true

/-- A composable of a file uses an object of this name in the default of a parameter, and it is more
visible than the object. -/
structure Exposes (root : Node) (f : FunctionDecl) (name : String) (object : Node) : Prop where
  inFile : f.node.Under root
  isFunction : f.node.kind = "function_declaration"
  isComposable : f.isComposable = true
  wider : (Visibility.ofDeclaration object).rank < f.visibility.rank
  uses : ∃ p ∈ f.parameters, ∃ default ∈ p.default?, Mentions default name

section
variable {root object default : Node} {name : String} {f : FunctionDecl} {i : Nat}
  {objects : List (String × Node)} {components : List FunctionDecl}
  {seen entries : List (Node × FunctionDecl)}

theorem mem_defaultsObjects_iff :
    (name, object) ∈ defaultsObjects root ↔ IsDefaultsObject root name object := by
  unfold defaultsObjects IsDefaultsObject Node.descendantsOfKind
  rw [List.mem_reverse, List.mem_filterMap]
  constructor
  · rintro ⟨n, hn, hobject⟩
    obtain ⟨hunder, hkind⟩ := List.mem_filter.1 hn
    obtain ⟨identifier, hidentifier, hobject⟩ := Option.bind_eq_some_iff.1 hobject
    dsimp only at hobject
    split at hobject
    case isTrue htail =>
      cases hobject
      exact ⟨Node.mem_descendants_iff.1 hunder, beq_iff_eq.1 hkind, ⟨_, hidentifier, rfl⟩, htail⟩
    case isFalse => cases hobject
  · rintro ⟨hunder, hkind, ⟨identifier, hidentifier, rfl⟩, htail⟩
    refine ⟨object, List.mem_filter.2 ⟨Node.mem_descendants_iff.2 hunder, beq_iff_eq.2 hkind⟩, ?_⟩
    exact Option.bind_eq_some_iff.2 ⟨identifier, hidentifier, if_pos htail⟩

/-- Where no two defaults objects have this name, the one that has it is found by it. -/
theorem lookup_defaultsObjects
    (hdistinct : ∀ a b, IsDefaultsObject root name a → IsDefaultsObject root name b → a = b) :
    (defaultsObjects root).lookup name = some object ↔ IsDefaultsObject root name object := by
  rw [lookup_eq_some_iff_mem fun a b ha hb => hdistinct a b (mem_defaultsObjects_iff.1 ha)
    (mem_defaultsObjects_iff.1 hb), mem_defaultsObjects_iff]

theorem mem_objectsUsed_iff : object ∈ objectsUsed objects default ↔
    ∃ name, Mentions default name ∧ objects.lookup name = some object := by
  rw [objectsUsed, List.mem_filterMap]
  simp only [default.descendants_perm.mem_iff, Option.ite_none_right_eq_some, Bool.and_eq_true,
    beq_iff_eq]
  constructor
  · rintro ⟨n, hn, ⟨hkind, hreads⟩, hobject⟩
    exact ⟨n.text, ⟨n, hn, hkind, rfl, hreads⟩, hobject⟩
  · rintro ⟨_, ⟨n, hn, hkind, rfl, hreads⟩, hobject⟩
    exact ⟨n, hn, ⟨hkind, hreads⟩, hobject⟩

theorem mem_hiddenDefaults_iff : (object, f) ∈ hiddenDefaults objects components ↔
    f ∈ components ∧ (Visibility.ofDeclaration object).rank < f.visibility.rank ∧
      ∃ p ∈ f.parameters, ∃ default ∈ p.default?, object ∈ objectsUsed objects default := by
  rw [hiddenDefaults, List.mem_flatMap]
  simp only [List.mem_filterMap, List.mem_flatMap, Option.ite_none_right_eq_some, Option.some.injEq,
    Prod.mk.injEq]
  constructor
  · rintro ⟨g, hg, used, ⟨default, ⟨p, hp, hdefault⟩, hused⟩, hwider, rfl, rfl⟩
    exact ⟨hg, hwider, p, hp, default, hdefault, hused⟩
  · rintro ⟨hf, hwider, p, hp, default, hdefault, hused⟩
    exact ⟨f, hf, object, ⟨default, ⟨p, hp, hdefault⟩, hused⟩, hwider, rfl, rfl⟩

/-! ### The first of each -/

/-- Those that are seen already are left out, and of the others every one has a first. -/
theorem mem_ids_firstOfEach : i ∈ (firstOfEach seen entries).map (·.1.id) ↔
    i ∈ entries.map (·.1.id) ∧ i ∉ seen.map (·.1.id) := by
  induction entries generalizing seen with
  | nil => simp [firstOfEach]
  | cons entry entries ih =>
    have hseen : seen.any (fun other => other.1 == entry.1) = true ↔
        entry.1.id ∈ seen.map (·.1.id) := by
      simp [Node.beq_iff]
    rw [firstOfEach]
    split
    case isTrue h =>
      rw [hseen] at h
      rw [ih, List.map_cons, List.mem_cons]
      refine and_congr_left fun hnot => ⟨.inr, fun hi => hi.resolve_left ?_⟩
      rintro rfl
      exact hnot h
    case isFalse h =>
      rw [hseen] at h
      rw [List.map_cons, List.mem_cons, ih, List.map_cons, List.mem_cons, List.map_cons,
        List.mem_cons, not_or]
      constructor
      · rintro (rfl | ⟨hi, -, hnot⟩)
        · exact ⟨.inl rfl, h⟩
        · exact ⟨.inr hi, hnot⟩
      · rintro ⟨hi, hnot⟩
        by_cases heq : i = entry.1.id
        · exact .inl heq
        · exact .inr ⟨hi.resolve_left heq, heq, hnot⟩

theorem nodup_ids_firstOfEach : ((firstOfEach seen entries).map (·.1.id)).Nodup := by
  induction entries generalizing seen with
  | nil => exact List.nodup_nil
  | cons entry entries ih =>
    rw [firstOfEach]
    split
    · exact ih
    · refine List.nodup_cons.2 ⟨fun h => ?_, ih⟩
      exact (mem_ids_firstOfEach.1 h).2 List.mem_cons_self

/-! ### Uses that count -/

theorem mem_hiddenDefaults_iff_exposes
    (hdistinct : ∀ name a b, IsDefaultsObject root name a → IsDefaultsObject root name b → a = b) :
    (object, f) ∈ hiddenDefaults (defaultsObjects root) (EmissionCounter.componentsIn root) ↔
      ∃ name, IsDefaultsObject root name object ∧ Exposes root f name object := by
  rw [mem_hiddenDefaults_iff, FunctionDecl.mem_componentsIn_iff]
  simp only [mem_objectsUsed_iff, lookup_defaultsObjects (hdistinct _)]
  constructor
  · rintro ⟨⟨hunder, hkind, hcomposable⟩, hwider, p, hp, default, hdefault, name, hname, hobject⟩
    exact ⟨name, hobject, hunder, hkind, hcomposable, hwider, p, hp, default, hdefault, hname⟩
  · rintro ⟨name, hobject, hunder, hkind, hcomposable, hwider, p, hp, default, hdefault, hname⟩
    exact ⟨⟨hunder, hkind, hcomposable⟩, hwider, p, hp, default, hdefault, name, hname, hobject⟩

end

/-- The rule speaks of the file as a whole only. Where the defaults objects of a file have different
names, an object is reported exactly if a composable that is more visible uses it in the default of
a parameter. It is reported once, and the message names such a composable. -/
theorem defaults_objects_reported_once {parser : Parser} {text : String} {tree : SyntaxTree}
    (hread : SyntaxTree.read? parser text = some tree)
    (hdistinct : ∀ name a b, IsDefaultsObject tree.rootNode name a →
      IsDefaultsObject tree.rootNode name b → a = b)
    (occasion : Occasion) (backend : Backend) (memo : Memo) :
    let findings :=
      (defaultsVisibility.report (.file tree.rootNode) occasion backend memo).1.findings
    (∀ object, object ∈ findings.map (·.node) ↔
      ∃ name f, IsDefaultsObject tree.rootNode name object ∧
        Exposes tree.rootNode f name object) ∧
    (findings.map (·.node)).Nodup ∧
    (∀ finding ∈ findings, ∃ name f, IsDefaultsObject tree.rootNode name finding.node ∧
      Exposes tree.rootNode f name finding.node ∧
      finding.message = hiddenDefaultsMessage finding.node f) ∧
    ∀ visit, (∀ root, visit ≠ .file root) →
      (defaultsVisibility.report visit occasion backend memo).1.findings = [] := by
  intro findings
  have hn := SyntaxTree.numberedFrom_of_read? hread
  let hidden := hiddenDefaults (defaultsObjects tree.rootNode)
    (EmissionCounter.componentsIn tree.rootNode)
  have hfindings : findings = (firstOfEach [] hidden).map fun entry =>
      ⟨entry.1, hiddenDefaultsMessage entry.1 entry.2, none⟩ := rfl
  have hnodes : findings.map (·.node) = (firstOfEach [] hidden).map (·.1) := by
    rw [hfindings, List.map_map]
    rfl
  have hfirst {object : Node} {f : FunctionDecl} (h : (object, f) ∈ firstOfEach [] hidden) :
      object ∈ tree.rootNode.preorder ∧ ∃ name, IsDefaultsObject tree.rootNode name object ∧
        Exposes tree.rootNode f name object :=
    ⟨(mem_preorder_of_mem_hiddenDefaults (mem_of_mem_firstOfEach h)).1,
      (mem_hiddenDefaults_iff_exposes hdistinct).1 (mem_of_mem_firstOfEach h)⟩
  refine ⟨fun object => ?_, ?_, fun finding hfinding => ?_, fun visit hvisit => ?_⟩
  · rw [hnodes, List.mem_map]
    constructor
    · rintro ⟨⟨_, f⟩, h, rfl⟩
      obtain ⟨-, name, hobject⟩ := hfirst h
      exact ⟨name, f, hobject⟩
    · rintro ⟨name, f, hobject⟩
      have hmem : (object, f) ∈ hidden :=
        (mem_hiddenDefaults_iff_exposes hdistinct).2 ⟨name, hobject⟩
      have hid : object.id ∈ (firstOfEach [] hidden).map (·.1.id) :=
        mem_ids_firstOfEach.2 ⟨List.mem_map.2 ⟨_, hmem, rfl⟩, List.not_mem_nil⟩
      -- the use that is reported may be another one than this
      obtain ⟨⟨other, g⟩, hother, hid⟩ := List.mem_map.1 hid
      exact ⟨(other, g), hother, SyntaxTree.node_eq_of_id_eq hn (hfirst hother).1
        (mem_preorder_of_mem_hiddenDefaults hmem).1 hid⟩
  · rw [hnodes]
    refine .of_map Node.id ?_
    rw [List.map_map]
    exact nodup_ids_firstOfEach
  · obtain ⟨⟨object, f⟩, h, rfl⟩ := List.mem_map.1 (hfindings ▸ hfinding)
    obtain ⟨-, name, hobject, hexposes⟩ := hfirst h
    exact ⟨name, f, hobject, hexposes, rfl⟩
  · cases visit with
    | file root => exact absurd rfl (hvisit root)
    | type | function | composable => rfl

/-- In a file with a single object no two have one name. -/
theorem distinct_of_single {parser : Parser} {text : String} {tree : SyntaxTree}
    (hread : SyntaxTree.read? parser text = some tree) {i : Nat}
    (h : ∀ n ∈ tree.rootNode.preorder, n.kind = "object_declaration" → n.id = i)
    (name : String) (a b : Node) (ha : IsDefaultsObject tree.rootNode name a)
    (hb : IsDefaultsObject tree.rootNode name b) : a = b := by
  have hmema := Node.mem_preorder_of_under ha.1
  have hmemb := Node.mem_preorder_of_under hb.1
  exact SyntaxTree.node_eq_of_id_eq (SyntaxTree.numberedFrom_of_read? hread) hmema hmemb
    ((h a hmema ha.2.1).trans (h b hmemb hb.2.1).symm)

section
open ParseTree

/-- A private object, and three composables that use it, each more visible than the one before. -/
def cardFile : String := "private object ADefaults \x7b\x7d\n" ++
  "@Composable private fun P(x: T = ADefaults) \x7b\x7d\n" ++
  "@Composable internal fun Q(x: T = ADefaults) \x7b\x7d\n" ++
  "@Composable public fun R(x: T = ADefaults) \x7b\x7d\n"

/-- The tree of a composable with this word for its visibility. -/
def cardFunction (start : Nat) (word : String) : ParseTree :=
  let behind := start + 12 + word.length
  named "function_declaration" start (behind + 27)
    [named "modifiers" start behind
      [composableMarker start, named "visibility_modifier" (start + 12) behind []],
    token "fun" (behind + 1) (behind + 4), name (behind + 5) (behind + 6),
    named "function_value_parameters" (behind + 6) (behind + 24)
      [token "(" (behind + 6) (behind + 7),
      letterParameter (behind + 7) (typeName (behind + 10) (behind + 11)),
      token "=" (behind + 12) (behind + 13), name (behind + 14) (behind + 23),
      token ")" (behind + 23) (behind + 24)],
    named "function_body" (behind + 25) (behind + 27) []]

def cardParser : Parser := fun text =>
  if text = cardFile then
    let object := named "object_declaration" 0 27
      [named "modifiers" 0 7 [named "visibility_modifier" 0 7 []], token "object" 8 14,
        name 15 24, named "class_body" 25 27 []]
    some ⟨named "source_file" 0 169
      [object, cardFunction 28 "private", cardFunction 75 "internal", cardFunction 123 "public"],
      false⟩
  else none

def cardTree : SyntaxTree := (SyntaxTree.read? cardParser cardFile).get (by decide +kernel)

def cardFindings : List Finding :=
  (defaultsVisibility.report (.file cardTree.rootNode) .plain (fun _ => none) .empty).1.findings

/-- The first composable is no more visible than the object and says nothing; the second is named,
and the third no longer. -/
theorem defaults_objects_reported_once_card :
    SyntaxTree.read? cardParser cardFile = some cardTree ∧
    (∀ name a b, IsDefaultsObject cardTree.rootNode name a →
      IsDefaultsObject cardTree.rootNode name b → a = b) ∧
    cardFindings.map (fun finding => (finding.node.text, finding.message)) =
      [("private object ADefaults \x7b\x7d",
        "`ADefaults` is private but is used by the internal composable `Q`. Defaults objects " ++
          "should be at least as visible as the composables using them.")] ∧
    ∀ finding ∈ cardFindings, ∃ name f, Exposes cardTree.rootNode f name finding.node ∧
      finding.message = hiddenDefaultsMessage finding.node f := by
  have hread : SyntaxTree.read? cardParser cardFile = some cardTree := (Option.some_get _).symm
  have hsorted : EmissionCounter.componentsIn cardTree.rootNode = sketchComponents cardTree :=
    List.mergeSort_of_pairwise (by decide +kernel)
  have hsingle : ∀ n ∈ cardTree.rootNode.preorder, n.kind = "object_declaration" → n.id = 1 := by
    decide +kernel
  have hdistinct := distinct_of_single hread hsingle
  obtain ⟨-, -, hmessages, -⟩ :=
    defaults_objects_reported_once hread hdistinct .plain (fun _ => none) .empty
  refine ⟨hread, hdistinct, ?_, fun finding hfinding => ?_⟩
  · show ((firstOfEach [] (hiddenDefaults _ (EmissionCounter.componentsIn _))).map _).map _ = _
    rw [hsorted]
    decide +kernel
  · obtain ⟨name, f, -, hexposes, hmessage⟩ := hmessages finding hfinding
    exact ⟨name, f, hexposes, hmessage⟩

end

end Rules

end ComposeCheck
