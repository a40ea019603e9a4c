import ComposeCheck.Files.Tree
import ComposeCheck.Proofs.FilePaths
import Mathlib.Data.List.Nodup

/-!
# What is written to a tree of files

In a proper tree the entries of a directory have different names, so the names that lead to a file
lead to it alone. Changing contents file by file (`mapFiles`) leaves everything else as it is: the
same paths lead to the same places (`locate?_mapFiles`). Overwriting one file is such a change
(`overwrite_eq`).
-/

namespace ComposeCheck

namespace FileTree

mutual

/-- The entries of each directory have names, different ones. -/
def Proper : FileTree → Prop
  | file _ => True
  | directory entries => (entries.map (·.1)).Nodup ∧ ProperEntries entries

def ProperEntries : List (String × FileTree) → Prop
  | [] => True
  | (name, tree) :: entries => IsName name ∧ Proper tree ∧ ProperEntries entries

end

mutual

/-- Changes the contents of files, each by the names that lead to it. -/
def mapFiles (f : List String → Content → Content) : FileTree → FileTree
  | file content => file (f [] content)
  | directory entries => directory (mapEntries f entries)

def mapEntries (f : List String → Content → Content) :
    List (String × FileTree) → List (String × FileTree)
  | [] => []
  | (name, tree) :: entries =>
    (name, mapFiles (fun names => f (name :: names)) tree) :: mapEntries f entries

end

section
variable {tree child : FileTree} {entries : List (String × FileTree)} {name : String}
  {names : List String} {content : Content} {f g : List String → Content → Content}

theorem ProperEntries.of_mem (h : ProperEntries entries) (hmem : (name, tree) ∈ entries) :
    IsName name ∧ tree.Proper := by
  induction entries with
  | nil => cases hmem
  | cons entry entries ih =>
    rcases List.mem_cons.1 hmem with rfl | hmem
    · exact ⟨h.1, h.2.1⟩
    · exact ih h.2.2 hmem

theorem lookup_iff (hnodup : (entries.map (·.1)).Nodup) :
    entries.lookup name = some tree ↔ (name, tree) ∈ entries := by
  induction entries with
  | nil => simp
  | cons entry entries ih =>
    obtain ⟨other, t⟩ := entry
    obtain ⟨hother, hnodup⟩ := List.nodup_cons.1 hnodup
    rw [List.lookup_cons, List.mem_cons]
    by_cases h : name = other
    · subst h
      have hmem : (name, tree) ∉ entries := fun hmem =>
        hother (List.mem_map.2 ⟨(name, tree), hmem, rfl⟩)
      simp [hmem, eq_comm]
    · have hbeq : (name == other) = false := beq_false_of_ne h
      simp [hbeq, h, ih hnodup]

theorem Proper.child? (h : tree.Proper) (hchild : tree.child? name = some child) :
    IsName name ∧ child.Proper := by
  cases tree with
  | file content => cases hchild
  | directory entries => exact h.2.of_mem ((lookup_iff h.1).1 hchild)

theorem Proper.find? (h : tree.Proper) (hfind : tree.find? names = some child) : child.Proper := by
  induction names generalizing tree with
  | nil =>
    obtain rfl := Option.some.inj hfind
    exact h
  | cons name names ih =>
    obtain ⟨next, hnext, hfind⟩ := Option.bind_eq_some_iff.1 hfind
    exact ih (h.child? hnext).2 hfind

theorem find?_append (tree : FileTree) (names others : List String) :
    tree.find? (names ++ others) = (tree.find? names).bind (·.find? others) := by
  induction names generalizing tree with
  | nil => rfl
  | cons name names ih =>
    rw [List.cons_append, find?, find?]
    cases tree.child? name with
    | none => rfl
    | some child => exact ih child

/-! ### Files by their names -/

theorem mem_filesIn_iff : (names, content) ∈ filesIn entries ↔
    ∃ name tree others, (name, tree) ∈ entries ∧ names = name :: others ∧
      (others, content) ∈ tree.files := by
  induction entries with
  | nil => simp [filesIn]
  | cons entry entries ih =>
    obtain ⟨other, t⟩ := entry
    simp only [filesIn, List.mem_append, List.mem_map, ih, List.mem_cons]
    constructor
    · rintro (⟨⟨others, _⟩, hmem, heq⟩ | ⟨name, tree, others, hmem, rfl, hfile⟩)
      · obtain ⟨rfl, rfl⟩ := Prod.mk.inj heq
        exact ⟨other, t, others, .inl rfl, rfl, hmem⟩
      · exact ⟨name, tree, others, .inr hmem, rfl, hfile⟩
    · rintro ⟨name, tree, others, heq | hmem, rfl, hfile⟩
      · obtain ⟨rfl, rfl⟩ := Prod.mk.inj heq
        exact .inl ⟨_, hfile, rfl⟩
      · exact .inr ⟨name, tree, others, hmem, rfl, hfile⟩

theorem find?_of_mem_files (h : tree.Proper) (hmem : (names, content) ∈ tree.files) :
    tree.find? names = some (file content) ∧ ∀ n ∈ names, IsName n := by
  induction names generalizing tree with
  | nil =>
    cases tree with
    | file found =>
      simp only [files, List.mem_singleton, Prod.mk.injEq, true_and] at hmem
      exact ⟨by rw [hmem, find?], by simp⟩
    | directory entries =>
      obtain ⟨_, _, _, -, hnil, -⟩ := mem_filesIn_iff.1 hmem
      cases hnil
  | cons name names ih =>
    cases tree with
    | file found => simp [files] at hmem
    | directory entries =>
      obtain ⟨_, t, _, hentry, heq, hfile⟩ := mem_filesIn_iff.1 hmem
      obtain ⟨rfl, rfl⟩ := List.cons.inj heq
      obtain ⟨hname, ht⟩ := h.2.of_mem hentry
      obtain ⟨hfind, hnames⟩ := ih ht hfile
      refine ⟨?_, List.forall_mem_cons.2 ⟨hname, hnames⟩⟩
      rw [find?, FileTree.child?, (lookup_iff h.1).2 hentry]
      exact hfind

mutual

theorem nodup_files : {tree : FileTree} → tree.Proper → (tree.files.map (·.1)).Nodup
  | file _, _ => by simp [files]
  | directory _, h => nodup_filesIn h.1 h.2

theorem nodup_filesIn : {entries : List (String × FileTree)} → (entries.map (·.1)).Nodup →
    ProperEntries entries → ((filesIn entries).map (·.1)).Nodup
  | [], _, _ => by simp [filesIn]
  | (name, tree) :: entries, hnodup, h => by
    obtain ⟨hname, hnodup⟩ := List.nodup_cons.1 hnodup
    have hmap : (tree.files.map fun entry => (name :: entry.1, entry.2)).map (·.1) =
        (tree.files.map (·.1)).map (name :: ·) := by
      simp only [List.map_map, Function.comp_def]
    rw [filesIn, List.map_append, List.nodup_append, hmap]
    refine ⟨(nodup_files h.2.1).map List.cons_injective, nodup_filesIn hnodup h.2.2, ?_⟩
    -- Files of different entries have different first names.
    rintro a ha b hb rfl
    obtain ⟨names, -, rfl⟩ := List.mem_map.1 ha
    obtain ⟨⟨_, content⟩, hb, rfl⟩ := List.mem_map.1 hb
    obtain ⟨_, t, _, hentry, heq, -⟩ := mem_filesIn_iff.1 hb
    obtain ⟨rfl, rfl⟩ := List.cons.inj heq
    exact hname (List.mem_map.2 ⟨_, hentry, rfl⟩)

end

/-! ### Changing contents -/

mutual

theorem mapFiles_id : (tree : FileTree) → tree.mapFiles (fun _ content => content) = tree
  | file _ => rfl
  | directory entries => congrArg directory (mapEntries_id entries)

theorem mapEntries_id : (entries : List (String × FileTree)) →
    mapEntries (fun _ content => content) entries = entries
  | [] => rfl
  | (name, tree) :: entries => by rw [mapEntries, mapFiles_id tree, mapEntries_id entries]

end

mutual

theorem mapFiles_mapFiles (f g : List String → Content → Content) : (tree : FileTree) →
    (tree.mapFiles f).mapFiles g = tree.mapFiles fun names content => g names (f names content)
  | file _ => rfl
  | directory entries => congrArg directory (mapEntries_mapEntries f g entries)

theorem mapEntries_mapEntries (f g : List String → Content → Content) :
    (entries : List (String × FileTree)) → mapEntries g (mapEntries f entries) =
      mapEntries (fun names content => g names (f names content)) entries
  | [] => rfl
  | (name, tree) :: entries => by
    rw [mapEntries, mapEntries, mapEntries, mapFiles_mapFiles _ _ tree,
      mapEntries_mapEntries f g entries]

end

theorem map_fst_mapEntries (f : List String → Content → Content)
    (entries : List (String × FileTree)) :
    (mapEntries f entries).map (·.1) = entries.map (·.1) := by
  induction entries with
  | nil => rfl
  | cons entry entries ih => rw [mapEntries, List.map_cons, List.map_cons, ih]

mutual

theorem Proper.mapFiles (f : List String → Content → Content) :
    {tree : FileTree} → tree.Proper → (tree.mapFiles f).Proper
  | file _, _ => trivial
  | directory entries, h =>
    ⟨(map_fst_mapEntries f entries).symm ▸ h.1, ProperEntries.mapEntries f h.2⟩

theorem ProperEntries.mapEntries (f : List String → Content → Content) :
    {entries : List (String × FileTree)} → ProperEntries entries →
      ProperEntries (FileTree.mapEntries f entries)
  | [], _ => trivial
  | _ :: _, h => ⟨h.1, h.2.1.mapFiles _, h.2.2.mapEntries f⟩

end

theorem child?_mapFiles (f : List String → Content → Content) (tree : FileTree) (name : String) :
    (tree.mapFiles f).child? name =
    (tree.child? name).map (mapFiles fun names => f (name :: names)) := by
  cases tree with
  | file content => rfl
  | directory entries =>
    rw [mapFiles, FileTree.child?, FileTree.child?]
    induction entries with
    | nil => rfl
    | cons entry entries ih =>
      obtain ⟨other, t⟩ := entry
      rw [mapEntries, List.lookup_cons, List.lookup_cons, ih]
      by_cases h : name = other
      · simp [h]
      · have hbeq : (name == other) = false := beq_false_of_ne h
        simp only [hbeq]

theorem isFile_mapFiles (f : List String → Content → Content) (tree : FileTree) :
    (tree.mapFiles f).isFile = tree.isFile := by
  cases tree <;> rfl

theorem mapFiles_eq_self (h : ∀ names content, f names content = content) :
    tree.mapFiles f = tree := by
  obtain rfl : f = fun _ content => content := funext fun names => funext (h names)
  exact mapFiles_id tree

theorem mapEntries_eq_self (h : ∀ entry ∈ entries, ∀ names content,
    f (entry.1 :: names) content = content) : mapEntries f entries = entries := by
  induction entries with
  | nil => rfl
  | cons entry entries ih =>
    obtain ⟨hentry, hentries⟩ := List.forall_mem_cons.1 h
    rw [mapEntries, mapFiles_eq_self hentry, ih hentries]

/-! ### Writing -/

/-- Writes a content to one place and keeps all others. -/
def writing (names : List String) (content : Content) : List String → Content → Content :=
  fun others found => if others = names then content else found

theorem putChild_eq (hnodup : (entries.map (·.1)).Nodup) (hmem : (name, child) ∈ entries)
    (content : Content) :
    putChild name (child.mapFiles (writing names content)) entries =
      mapEntries (writing (name :: names) content) entries := by
  induction entries with
  | nil => cases hmem
  | cons entry entries ih =>
    obtain ⟨other, t⟩ := entry
    obtain ⟨hother, hnodup⟩ := List.nodup_cons.1 hnodup
    have hne : ∀ entry ∈ entries, entry.1 ≠ other := fun entry hentry heq =>
      hother (List.mem_map.2 ⟨entry, hentry, heq⟩)
    rw [putChild, mapEntries]
    rcases List.mem_cons.1 hmem with heq | hmem
    · obtain ⟨rfl, rfl⟩ := Prod.mk.inj heq
      have hsame : (fun others => writing (name :: names) content (name :: others)) =
          writing names content := by
        funext others found
        simp [writing]
      have hothers : mapEntries (writing (name :: names) content) entries = entries :=
        mapEntries_eq_self fun entry hentry _ _ => by simp [writing, hne entry hentry]
      rw [if_pos rfl, hsame, hothers]
    · have hname := (hne _ hmem).symm
      rw [if_neg hname, ih hnodup hmem, mapFiles_eq_self fun _ _ => by simp [writing, hname]]

/-- Writing to a file changes its content and nothing else. -/
theorem write_eq_mapFiles (h : tree.Proper) {old : Content}
    (hfind : tree.find? names = some (file old)) :
    tree.write names content = tree.mapFiles (writing names content) := by
  induction names generalizing tree with
  | nil =>
    obtain rfl := Option.some.inj hfind
    rfl
  | cons name names ih =>
    cases tree with
    | file found => cases hfind
    | directory entries =>
      obtain ⟨child, hchild, hfind⟩ := Option.bind_eq_some_iff.1 hfind
      have hwrite := ih (h.child? hchild).2 hfind
      rw [write] at hwrite ⊢
      rw [change, hchild, Option.getD_some, hwrite, mapFiles]
      exact congrArg directory (putChild_eq h.1 ((lookup_iff h.1).1 hchild) content)

/-! ### Following paths -/

/-- Where some steps have led. -/
def here (tree : FileTree) (passed : List (String × FileTree)) : FileTree :=
  (passed.head?.map (·.2)).getD tree

/-- The names of some steps, the first one first. -/
def namesOf (passed : List (String × FileTree)) : List String := (passed.map (·.1)).reverse

theorem namesOf_cons (passed : List (String × FileTree)) :
    namesOf ((name, child) :: passed) = namesOf passed ++ [name] := by
  simp [namesOf]

/-- Each step leads to an entry of where the steps before have led. -/
inductive Passed (tree : FileTree) : List (String × FileTree) → Prop
  | start : Passed tree []
  | step {passed : List (String × FileTree)} {name : String} {child : FileTree}
      (h : Passed tree passed) (hchild : (here tree passed).child? name = some child) :
      Passed tree ((name, child) :: passed)

theorem find?_of_passed {passed : List (String × FileTree)} (h : Passed tree passed) :
    tree.find? (namesOf passed) = some (here tree passed) := by
  induction h with
  | start => rfl
  | step h hchild ih =>
    rw [namesOf_cons, find?_append, ih, Option.bind_some, find?, hchild]
    rfl

theorem passed_of_follow {passed found : List (String × FileTree)}
    {components : List FilePath.Component} (h : Passed tree passed)
    (hfollow : tree.follow passed components = some found) : Passed tree found := by
  induction components generalizing passed with
  | nil =>
    obtain rfl := Option.some.inj hfollow
    exact h
  | cons component components ih =>
    cases component with
    | root => exact ih .start hfollow
    | here => exact ih h hfollow
    | up =>
      rw [follow] at hfollow
      split at hfollow
      · cases hfollow
      · refine ih ?_ hfollow
        cases h with
        | start => exact .start
        | step h _ => exact h
    | name name =>
      rw [follow] at hfollow
      split at hfollow
      case h_1 => cases hfollow
      case h_2 child hchild => exact ih (.step h hchild) hfollow

theorem locate?_eq (tree : FileTree) (path : String) : tree.locate? path =
    (tree.follow [] (FilePath.components path.toList)).bind fun passed =>
      if (here tree passed).isFile && (Text.hasTail "/" path || Text.hasTail "/." path) then none
      else some (namesOf passed, here tree passed) := rfl

theorem locate?_eq_some_iff {path : String} : tree.locate? path = some (names, child) ↔
    ∃ passed, tree.follow [] (FilePath.components path.toList) = some passed ∧
      namesOf passed = names ∧ here tree passed = child ∧
      (child.isFile && (Text.hasTail "/" path || Text.hasTail "/." path)) = false := by
  rw [locate?_eq, Option.bind_eq_some_iff]
  refine exists_congr fun passed => and_congr_right fun _ => ?_
  constructor
  · intro h
    split at h
    case isTrue => cases h
    case isFalse hends =>
      obtain ⟨rfl, rfl⟩ := Prod.mk.inj (Option.some.inj h)
      exact ⟨rfl, rfl, Bool.eq_false_iff.2 hends⟩
  · rintro ⟨rfl, rfl, hends⟩
    rw [if_neg (Bool.eq_false_iff.1 hends)]

theorem find?_of_locate? {path : String} (h : tree.locate? path = some (names, child)) :
    tree.find? names = some child := by
  obtain ⟨passed, hfollow, rfl, rfl, -⟩ := locate?_eq_some_iff.1 h
  exact find?_of_passed (passed_of_follow .start hfollow)

theorem follow_append (passed : List (String × FileTree)) (front back : List FilePath.Component) :
    tree.follow passed (front ++ back) =
      (tree.follow passed front).bind (tree.follow · back) := by
  induction front generalizing passed with
  | nil => rfl
  | cons component front ih =>
    rw [List.cons_append]
    cases component with
    | root => exact ih []
    | here => exact ih passed
    | up =>
      rw [follow, follow]
      split
      · rfl
      · exact ih _
    | name name =>
      rw [follow, follow]
      split
      · rfl
      · exact ih _

theorem exists_follow_names (passed : List (String × FileTree))
    (hfind : (here tree passed).find? names = some child) : ∃ found,
      tree.follow passed (names.map fun n => .name n.toList) = some found ∧
      namesOf found = namesOf passed ++ names ∧ here tree found = child := by
  induction names generalizing passed with
  | nil => exact ⟨passed, rfl, (List.append_nil _).symm, Option.some.inj hfind⟩
  | cons name names ih =>
    obtain ⟨next, hnext, hfind⟩ := Option.bind_eq_some_iff.1 hfind
    obtain ⟨found, hfollow, hnames, hhere⟩ := ih ((name, next) :: passed) hfind
    refine ⟨found, ?_, ?_, hhere⟩
    · rw [here] at hnext
      rw [List.map_cons, follow, String.ofList_toList, hnext]
      exact hfollow
    · rw [hnames, namesOf_cons, List.append_assoc, List.singleton_append]

/-- A path below a directory leads on from there. -/
theorem locate?_join {root : String} {above : List String}
    (hroot : tree.locate? root = some (above, child)) (hnames : ∀ n ∈ names, IsName n)
    (hne : names ≠ []) (hfind : child.find? names = some (file content)) :
    tree.locate? (FilePath.join root ("/".intercalate names)) =
      some (above ++ names, file content) := by
  obtain ⟨passed, hfollow, rfl, rfl, -⟩ := locate?_eq_some_iff.1 hroot
  obtain ⟨found, hfound, hnamesOf, hhere⟩ := exists_follow_names passed hfind
  have hends := FilePath.hasTail_join root hnames hne
  refine locate?_eq_some_iff.2 ⟨found, ?_, hnamesOf, hhere, by simp [hends]⟩
  rw [FilePath.components_join root hnames hne, follow_append, hfollow]
  exact hfound

/-! ### Paths in a changed tree -/

/-- Steps in a tree whose contents have been changed. -/
def mapPassed (f : List String → Content → Content) :
    List (String × FileTree) → List (String × FileTree)
  | [] => []
  | (name, child) :: passed =>
    (name, child.mapFiles fun names => f (namesOf passed ++ name :: names)) :: mapPassed f passed

theorem here_mapPassed (passed : List (String × FileTree)) :
    here (tree.mapFiles f) (mapPassed f passed) =
      (here tree passed).mapFiles fun names => f (namesOf passed ++ names) := by
  cases passed with
  | nil => rfl
  | cons step passed =>
    obtain ⟨name, child⟩ := step
    simp [mapPassed, here, namesOf_cons]

theorem namesOf_mapPassed (passed : List (String × FileTree)) :
    namesOf (mapPassed f passed) = namesOf passed := by
  induction passed with
  | nil => rfl
  | cons step passed ih => rw [mapPassed, namesOf_cons, namesOf_cons, ih]

theorem follow_mapFiles (f : List String → Content → Content) (tree : FileTree)
    (passed : List (String × FileTree)) (components : List FilePath.Component) :
    (tree.mapFiles f).follow (mapPassed f passed) components =
      (tree.follow passed components).map (mapPassed f) := by
  induction components generalizing passed with
  | nil => rfl
  | cons component components ih =>
    cases component with
    | root => exact ih []
    | here => exact ih passed
    | up =>
      have htail : (mapPassed f passed).tail = mapPassed f passed.tail := by cases passed <;> rfl
      have hfile := isFile_mapFiles (fun names => f (namesOf passed ++ names)) (here tree passed)
      rw [← here_mapPassed] at hfile
      rw [here, here] at hfile
      rw [follow, follow, hfile, htail]
      split
      · rfl
      · exact ih _
    | name name =>
      have hchild := child?_mapFiles (fun names => f (namesOf passed ++ names))
        (here tree passed) (String.ofList name)
      rw [← here_mapPassed] at hchild
      rw [here, here] at hchild
      rw [follow, follow, hchild]
      split
      case h_1 hnone =>
        rw [Option.map_eq_none_iff.1 hnone]
        rfl
      case h_2 child hsome =>
        obtain ⟨next, hnext, rfl⟩ := Option.map_eq_some_iff.1 hsome
        rw [hnext]
        exact ih ((String.ofList name, next) :: passed)

theorem locate?_mapFiles (path : String) : (tree.mapFiles f).locate? path =
    (tree.locate? path).map fun (names, found) =>
      (names, found.mapFiles fun others => f (names ++ others)) := by
  have hfollow := follow_mapFiles f tree [] (FilePath.components path.toList)
  rw [mapPassed] at hfollow
  rw [locate?_eq, locate?_eq, hfollow]
  cases tree.follow [] (FilePath.components path.toList) with
  | none => rfl
  | some passed =>
    rw [Option.map_some, Option.bind_some, Option.bind_some, here_mapPassed, isFile_mapFiles,
      namesOf_mapPassed]
    split <;> rfl

theorem contentAt?_mapFiles {path : String} (h : tree.locate? path = some (names, file content)) :
    tree.contentAt? path = some content ∧
      (tree.mapFiles f).contentAt? path = some (f names content) := by
  have hmapped : (tree.mapFiles f).locate? path = some (names, file (f names content)) := by
    simp only [locate?_mapFiles, h, Option.map_some, mapFiles, List.append_nil]
  constructor
  · rw [contentAt?, at?, h, Option.map_some]
  · rw [contentAt?, at?, hmapped, Option.map_some]

theorem overwrite_eq (hproper : tree.Proper) {path : String} {old : Content}
    (h : tree.locate? path = some (names, file old)) (text : String) :
    tree.overwrite path text = tree.mapFiles (writing names (.text text)) := by
  rw [overwrite, h]
  exact write_eq_mapFiles hproper (find?_of_locate? h)

end

end FileTree

end ComposeCheck
