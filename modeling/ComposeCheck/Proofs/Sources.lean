import ComposeCheck.Project
import ComposeCheck.Proofs.FileTrees
import ComposeCheck.Proofs.Order

/-!
# The files of a project

A walk finds each file at most once, by the names that lead to it (`of_walk`). So the paths that are
checked lead to different files, and these have different names in reports (`Sources`). They are the
ones in scope: below the root, Kotlin, and left out by no pattern (`mem_sources_iff`).
-/

namespace ComposeCheck

theorem bind_eq_ok_iff {ε α β : Type} {x : Except ε α} {f : α → Except ε β} {b : β} :
    (x >>= f) = .ok b ↔ ∃ a, x = .ok a ∧ f a = .ok b := by
  cases x <;> simp [bind, Except.bind]

theorem eq_ok_of_toOption {ε α : Type} {x : Except ε α} {a : α} (h : x.toOption = some a) :
    x = .ok a := by
  cases x with
  | error e => cases h
  | ok b => exact congrArg Except.ok (Option.some.inj h)

namespace FileTree

mutual

theorem walkFrom_sublist (rg : Bool) (depth : Nat) (levels : List IgnoreLevel)
    (names : List String) (hdepth : depth ≤ names.length) : (tree : FileTree) →
    (walkFrom rg depth levels names tree).Sublist
      (tree.files.map fun found => names.drop depth ++ found.1)
  | file content => by
    rw [walkFrom, files, List.map_singleton, List.append_nil]
  | directory entries => by
    rw [walkFrom, files]
    exact walkEntries_sublist rg depth _ names hdepth entries

theorem walkEntries_sublist (rg : Bool) (depth : Nat) (levels : List IgnoreLevel)
    (names : List String) (hdepth : depth ≤ names.length) : (entries : List (String × FileTree)) →
    (walkEntries rg depth levels names entries).Sublist
      ((filesIn entries).map fun found => names.drop depth ++ found.1)
  | [] => by rw [walkEntries, filesIn, List.map_nil]
  | (name, tree) :: entries => by
    have hfirst := walkFrom_sublist rg depth levels (names ++ [name])
      (Nat.le_trans hdepth (by simp)) tree
    have hothers := walkEntries_sublist rg depth levels names hdepth entries
    rw [walkEntries, filesIn, List.map_append, List.map_map]
    refine List.Sublist.append ?_ hothers
    split
    · exact List.nil_sublist _
    · simpa [List.drop_append_of_le_length hdepth, Function.comp_def] using hfirst

end

/-- What a walk finds are files below its start, each at most once. -/
theorem of_walk {tree : FileTree} {rg : Bool} {path : String} {found : List (List String)}
    (h : tree.walk rg path = .ok found) : ∃ above directory,
      tree.locate? path = some (above, directory) ∧ found.Sublist (directory.files.map (·.1)) := by
  rw [walk] at h
  split at h
  case h_1 => cases h
  case h_2 above directory hlocate =>
    refine ⟨above, directory, hlocate, ?_⟩
    dsimp only at h
    split at h
    · cases h
    · have hsub := walkFrom_sublist rg above.length (levelsAbove rg 0 above tree) above
        (Nat.le_refl _) directory
      rw [Except.ok.inj h] at hsub
      simpa using hsub

theorem of_mem_files {directory : FileTree} (h : directory.Proper)
    (hdirectory : directory.isFile = false) {names : List String}
    (hmem : names ∈ directory.files.map (·.1)) : names ≠ [] ∧ (∀ n ∈ names, IsName n) ∧
      ∃ content, directory.find? names = some (file content) := by
  obtain ⟨⟨found, content⟩, hfound, rfl⟩ := List.mem_map.1 hmem
  obtain ⟨hfind, hnames⟩ := find?_of_mem_files h hfound
  refine ⟨fun hnil => ?_, hnames, content, hfind⟩
  rw [show found = [] from hnil] at hfind
  obtain rfl := Option.some.inj hfind
  cases hdirectory

end FileTree

namespace Project

section
variable {checker : Checker} {files : FileTree} {paths : List String}

theorem of_filterAuxM {ε α : Type} {p : α → Except ε Bool} {xs acc ys : List α}
    (h : xs.filterAuxM p acc = .ok ys) : ∃ kept : List α, kept.Sublist xs ∧
      (∀ x, x ∈ kept ↔ x ∈ xs ∧ p x = .ok true) ∧ ys = kept.reverse ++ acc := by
  induction xs generalizing acc with
  | nil =>
    cases h
    exact ⟨[], .slnil, by simp, rfl⟩
  | cons x xs ih =>
    rw [List.filterAuxM] at h
    obtain ⟨keep, hx, h⟩ := bind_eq_ok_iff.1 h
    obtain ⟨kept, hsub, hmem, rfl⟩ := ih h
    cases keep with
    | true => exact ⟨x :: kept, hsub.cons_cons x, by grind, by simp⟩
    | false => exact ⟨kept, hsub.cons x, by grind, rfl⟩

theorem of_filterM {ε α : Type} {p : α → Except ε Bool} {xs ys : List α}
    (h : xs.filterM p = .ok ys) :
    ys.Sublist xs ∧ ∀ x, x ∈ ys ↔ x ∈ xs ∧ p x = .ok true := by
  rw [List.filterM] at h
  obtain ⟨found, haux, h⟩ := bind_eq_ok_iff.1 h
  obtain ⟨kept, hsub, hmem, rfl⟩ := of_filterAuxM haux
  rw [List.append_nil, List.reverse_reverse] at h
  cases h
  exact ⟨hsub, hmem⟩

/-- Paths that lead to different files, which have different names in reports. -/
structure Sources (checker : Checker) (files : FileTree) (paths : List String) : Prop where
  nodup : paths.Nodup
  located : ∀ path ∈ paths, ∃ names content, files.locate? path = some (names, .file content)
  eq_of_names : ∀ a ∈ paths, ∀ b ∈ paths,
    (files.locate? a).map (·.1) = (files.locate? b).map (·.1) → a = b
  eq_of_reported : ∀ a ∈ paths, ∀ b ∈ paths,
    FilePath.components (FilePath.relativeTo checker.root a).toList =
      FilePath.components (FilePath.relativeTo checker.root b).toList → a = b

/-- The root stands for itself if it is a file. Else the texts of the names below it are kept that
are names of Kotlin files and that no pattern leaves out. -/
theorem of_sources (h : sources checker files = .ok paths) :
    (files.isFileAt checker.root = true ∧ paths = [checker.root]) ∨
    files.isFileAt checker.root = false ∧ ∃ (found : List (List String)) (kept : List String),
      files.walk checker.respectGitIgnore checker.root = .ok found ∧
      kept.Sublist (found.map ("/".intercalate ·)) ∧
      (∀ text, text ∈ kept ↔ text ∈ found.map ("/".intercalate ·) ∧ isKotlin text = true ∧
        Exclusion.leaveOut text checker.exclude = .ok false) ∧
      paths = (kept.map (FilePath.join checker.root)).mergeSort FilePath.le := by
  rw [sources] at h
  split at h
  case isTrue hfile =>
    cases h
    exact .inl ⟨hfile, rfl⟩
  case isFalse hfile =>
    cases hwalk : files.walk checker.respectGitIgnore checker.root with
    | error e => simp [hwalk, bind, Except.bind, Except.mapError] at h
    | ok found =>
      simp only [hwalk, bind, Except.bind, Except.mapError] at h
      split at h
      case h_1 => cases h
      case h_2 kept hkept =>
        cases h
        obtain ⟨hsub, hmem⟩ := of_filterM hkept
        refine .inr ⟨by simpa using hfile, found, kept, rfl, hsub.trans List.filter_sublist,
          fun text => ?_, rfl⟩
        rw [hmem, List.mem_filter, and_assoc]
        refine and_congr_right fun _ => and_congr_right fun _ => ?_
        cases Exclusion.leaveOut text checker.exclude with
        | error pattern => simp [throw, throwThe, MonadExceptOf.throw]
        | ok out => simp [pure, Except.pure]

theorem sources_cases (h : sources checker files = .ok paths) :
    (files.isFileAt checker.root = true ∧ paths = [checker.root]) ∨
    ∃ above directory, ∃ names : List (List String),
      files.locate? checker.root = some (above, directory) ∧
      directory.isFile = false ∧ names.Sublist (directory.files.map (·.1)) ∧
      paths = (names.map fun below =>
        FilePath.join checker.root ("/".intercalate below)).mergeSort FilePath.le := by
  rcases of_sources h with hfile | ⟨hfile, found, kept, hwalk, hkept, -, rfl⟩
  · exact .inl hfile
  · obtain ⟨above, directory, hlocate, hfound⟩ := FileTree.of_walk hwalk
    obtain ⟨names, hnames, rfl⟩ := List.sublist_map_iff.1 hkept
    have hdirectory : directory.isFile = false := by
      simpa [FileTree.isFileAt, FileTree.at?, hlocate] using hfile
    rw [List.map_map]
    exact .inr ⟨above, directory, names, hlocate, hdirectory, hnames.trans hfound, rfl⟩

/-- A file is to be checked: it is the root, or a Kotlin file that a walk from the root finds and
that no pattern leaves out. -/
def InScope (checker : Checker) (files : FileTree) (path : String) : Prop :=
  (files.isFileAt checker.root = true ∧ path = checker.root) ∨
  files.isFileAt checker.root = false ∧ ∃ found,
    files.walk checker.respectGitIgnore checker.root = .ok found ∧
    ∃ names ∈ found, isKotlin ("/".intercalate names) = true ∧
      Exclusion.leaveOut ("/".intercalate names) checker.exclude = .ok false ∧
      path = FilePath.join checker.root ("/".intercalate names)

theorem mem_sources_iff (h : sources checker files = .ok paths) (path : String) :
    path ∈ paths ↔ InScope checker files path := by
  unfold InScope
  rcases of_sources h with ⟨hfile, rfl⟩ | ⟨hfile, found, kept, hwalk, -, hmem, rfl⟩
  · simp [hfile]
  · simp only [List.mem_mergeSort, List.mem_map, hmem, hfile, hwalk]
    grind

theorem pairwise_sources (h : sources checker files = .ok paths) :
    paths.Pairwise fun a b => FilePath.le a b = true := by
  rcases sources_cases h with ⟨-, rfl⟩ | ⟨-, -, names, -, -, -, rfl⟩
  · exact List.pairwise_singleton _ _
  · exact @List.pairwise_mergeSort String FilePath.le
      (fun _ _ _ hab hbc => FilePath.le_of_le_of_le hab hbc) FilePath.le_or_le _

theorem sources_tell_apart (hproper : files.Proper) (h : sources checker files = .ok paths) :
    Sources checker files paths := by
  rcases sources_cases h with ⟨hfile, rfl⟩ | ⟨above, directory, names, hroot, hisFile, hsub, rfl⟩
  · have hone {a b : String} (ha : a ∈ [checker.root]) (hb : b ∈ [checker.root]) : a = b :=
      (List.mem_singleton.1 ha).trans (List.mem_singleton.1 hb).symm
    refine ⟨List.nodup_singleton _, fun path hpath => ?_, fun a ha b hb _ => hone ha hb,
      fun a ha b hb _ => hone ha hb⟩
    obtain rfl := List.mem_singleton.1 hpath
    rw [FileTree.isFileAt, FileTree.at?] at hfile
    cases hlocate : files.locate? checker.root with
    | none => simp [hlocate] at hfile
    | some found =>
      obtain ⟨names, tree⟩ := found
      cases tree with
      | directory entries => simp [hlocate, FileTree.isFile] at hfile
      | file content => exact ⟨names, content, rfl⟩
  · have hdirectory : directory.Proper := hproper.find? (FileTree.find?_of_locate? hroot)
    have hnames {below : List String} (hbelow : below ∈ names) :=
      FileTree.of_mem_files hdirectory hisFile (hsub.mem hbelow)
    have hpath {path : String} (h : path ∈ (names.map fun below =>
        FilePath.join checker.root ("/".intercalate below)).mergeSort FilePath.le) :
        ∃ below ∈ names, FilePath.join checker.root ("/".intercalate below) = path :=
      List.mem_map.1 (List.mem_mergeSort.1 h)
    have hlocated {below : List String} (hbelow : below ∈ names) : ∃ content, files.locate?
        (FilePath.join checker.root ("/".intercalate below)) =
          some (above ++ below, .file content) := by
      obtain ⟨hne, hall, content, hfind⟩ := hnames hbelow
      exact ⟨content, FileTree.locate?_join hroot hall hne hfind⟩
    refine ⟨?_, fun path h => ?_, fun a ha b hb heq => ?_, fun a ha b hb heq => ?_⟩
    · refine (List.mergeSort_perm _ _).nodup_iff.2 (List.Nodup.map_on (fun a ha b hb heq => ?_)
        ((FileTree.nodup_files hdirectory).sublist hsub))
      obtain ⟨_, hlocate⟩ := hlocated ha
      obtain ⟨_, hlocate'⟩ := hlocated hb
      rw [heq, hlocate'] at hlocate
      exact (List.append_cancel_left (Prod.mk.inj (Option.some.inj hlocate)).1).symm
    · obtain ⟨below, hbelow, rfl⟩ := hpath h
      obtain ⟨content, hlocate⟩ := hlocated hbelow
      exact ⟨_, content, hlocate⟩
    · obtain ⟨as, has, rfl⟩ := hpath ha
      obtain ⟨bs, hbs, rfl⟩ := hpath hb
      obtain ⟨_, hlocate⟩ := hlocated has
      obtain ⟨_, hlocate'⟩ := hlocated hbs
      rw [hlocate, hlocate'] at heq
      obtain rfl : as = bs := by simpa using heq
      rfl
    · obtain ⟨as, has, rfl⟩ := hpath ha
      obtain ⟨bs, hbs, rfl⟩ := hpath hb
      obtain ⟨hne, hall, -⟩ := hnames has
      obtain ⟨hne', hall', -⟩ := hnames hbs
      rw [FilePath.relativeTo_join _ hall hne, FilePath.relativeTo_join _ hall' hne'] at heq
      rw [FilePath.eq_of_components_intercalate hall hall' heq]

end

end Project

end ComposeCheck
