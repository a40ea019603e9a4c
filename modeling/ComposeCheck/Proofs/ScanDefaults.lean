import ComposeCheck.Checker
import ComposeCheck.Settings.Reader
import ComposeCheck.Proofs.DirectoryPatterns
import ComposeCheck.Proofs.Sources

/-!
# Settings on files that are not written

A setting on files is what is written for it, or else a default. For the root, ignore files and the
`.editorconfig` the default is always the same (`ScanSettings.FallsBackOn`). The patterns have two:
if nothing at all is written on files they are those for build outputs, and else there are none. So
whoever writes anything on files but no patterns has the build outputs checked
(`Settings.scan_falls_back_by_field`).
-/

namespace ComposeCheck

/-- A setting is what is written for it, or else its default. -/
def IsSet {α : Type} (spell : α → TomlValue) (written? : Option TomlValue) (default value : α) :
    Prop :=
  match written? with
  | some written => written = spell value
  | none => value = default

namespace TomlValue

def strings (texts : List String) : TomlValue := array (texts.map string)

/-- What a record has under a key. In an array the values stand in the order of the keys. -/
def recorded? (keys : List String) (value : TomlValue) (key : String) : Option TomlValue :=
  match value with
  | array items => items[keys.idxOf key]?
  | value => value.entries?.bind (·.lookup key)

section
variable {value : TomlValue} {items : List TomlValue} {texts names : List String} {text : String}
  {flag : Bool} {fields : List (Option TomlValue)}

theorem text?_eq_some_iff : value.text? = some text ↔ value = string text := by
  cases value <;> simp [text?]

theorem bool?_eq_some_iff : value.bool? = some flag ↔ value = boolean flag := by
  cases value <;> simp [bool?]

theorem mapM_text?_eq_some_iff : items.mapM text? = some texts ↔ items = texts.map string := by
  induction items generalizing texts with
  | nil => simp [eq_comm]
  | cons item items ih =>
    rw [List.mapM_cons, Option.bind_eq_bind, Option.bind_eq_some_iff]
    simp only [Option.bind_eq_bind, Option.bind_eq_some_iff, text?_eq_some_iff, ih]
    constructor
    · rintro ⟨text, rfl, others, rfl, h⟩
      obtain rfl := Option.some.inj h
      rfl
    · intro h
      cases texts with
      | nil => cases h
      | cons text texts =>
        obtain ⟨rfl, rfl⟩ := List.cons.inj h
        exact ⟨text, rfl, texts, rfl, rfl⟩

theorem texts?_eq_some_iff : value.texts? = some texts ↔ value = strings texts := by
  cases value <;> simp [texts?, strings, mapM_text?_eq_some_iff]

theorem fields?_eq (hnodup : names.Nodup) (h : value.fields? names = some fields) :
    fields = names.map (value.recorded? names) := by
  unfold fields? at h
  split at h
  case h_1 items =>
    obtain rfl := Option.some.inj h
    refine List.ext_getElem (by simp; omega) fun i hi hi' => ?_
    have hlt : i < names.length := by simpa using hi'
    rw [List.getElem_map, recorded?, hnodup.idxOf_getElem i hlt, List.getElem_append]
    split
    case isTrue h =>
      rw [List.getElem_map, List.getElem_take, List.getElem?_eq_getElem]
    case isFalse h =>
      rw [List.length_map, List.length_take] at h
      rw [List.getElem_replicate, List.getElem?_eq_none (by omega)]
  case h_2 value harray =>
    obtain ⟨entries, hentries, rfl⟩ := Option.map_eq_some_iff.1 h
    refine List.map_congr_left fun name _ => ?_
    rw [recorded?, hentries, Option.bind_some]
    exact harray

end

end TomlValue

theorem isSet_getD {α : Type} {read : TomlValue → Option α} {spell : α → TomlValue}
    (hread : ∀ written value, read written = some value ↔ written = spell value)
    {written? : Option TomlValue} {value? : Option α}
    (h : optionalField read written? = some value?) (default : α) :
    IsSet spell written? default (value?.getD default) := by
  cases written? with
  | none =>
    obtain rfl := Option.some.inj h
    rfl
  | some written =>
    obtain ⟨value, hvalue, rfl⟩ := Option.map_eq_some_iff.1 h
    exact (hread written value).1 hvalue

namespace ScanSettings

/-- The keys of the settings on files. -/
def keys : List String := ["root", "exclude", "respect_gitignore", "editorconfig"]

/-- Each of the settings is what is written under its key, or else its default. -/
structure FallsBackOn (scan default : ScanSettings) (written? : String → Option TomlValue) :
    Prop where
  root : IsSet .string (written? "root") default.root scan.root
  exclude : IsSet .strings (written? "exclude") default.exclude scan.exclude
  respectGitIgnore :
    IsSet .boolean (written? "respect_gitignore") default.respectGitIgnore scan.respectGitIgnore
  editorConfig : IsSet .boolean (written? "editorconfig") default.editorConfig scan.editorConfig

/-- What is read of a record falls back on settings without patterns. -/
theorem fallsBackOn_of_ofToml? {value : TomlValue} {scan : ScanSettings}
    (h : ofToml? value = some scan) : scan.FallsBackOn {} (value.recorded? keys) := by
  unfold ofToml? at h
  obtain ⟨fields, hfields, h⟩ := Option.bind_eq_some_iff.1 h
  obtain rfl := TomlValue.fields?_eq (by decide : keys.Nodup) hfields
  simp only [keys, List.map_cons, List.map_nil, bind, Option.bind_eq_some_iff, pure,
    Option.some.injEq] at h
  obtain ⟨root?, hroot, exclude?, hexclude, respect?, hrespect, editor?, heditor, rfl⟩ := h
  exact ⟨isSet_getD (fun _ _ => TomlValue.text?_eq_some_iff) hroot _,
    isSet_getD (fun _ _ => TomlValue.texts?_eq_some_iff) hexclude _,
    isSet_getD (fun _ _ => TomlValue.bool?_eq_some_iff) hrespect _,
    isSet_getD (fun _ _ => TomlValue.bool?_eq_some_iff) heditor _⟩

end ScanSettings

/-! ### The files in scope -/

namespace FilePath

/-- A path leads from a root through a directory of one of some names. -/
def PassesBy (root : String) (directories : List String) (path : String) : Prop :=
  ∃ names, (∀ n ∈ names, IsName n) ∧ path = join root ("/".intercalate names) ∧
    ∃ directory ∈ directories, directory ∈ names.dropLast

theorem passesBy_join_iff {root : String} {directories names : List String}
    (hnames : ∀ n ∈ names, IsName n) (hne : names ≠ []) :
    PassesBy root directories (join root ("/".intercalate names)) ↔
      ∃ directory ∈ directories, directory ∈ names.dropLast := by
  constructor
  · rintro ⟨others, hothers, hpath, directory, hdirectory, hmem⟩
    have hne' : others ≠ [] := by
      rintro rfl
      cases hmem
    have hsame := congrArg (relativeTo root) hpath
    rw [relativeTo_join root hnames hne, relativeTo_join root hothers hne'] at hsame
    rw [eq_of_components_intercalate hnames hothers (by rw [hsame])]
    exact ⟨directory, hdirectory, hmem⟩
  · exact fun h => ⟨names, hnames, rfl, h⟩

end FilePath

namespace Project

open Exclusion

/-- More patterns, each of which leads through a directory, take from the files in scope the ones in
these directories. -/
theorem inScope_iff_of_leadsThrough {narrow wide : Checker} {files : FileTree}
    {patterns directories : List String} (hroot : narrow.root = wide.root)
    (hrespect : narrow.respectGitIgnore = wide.respectGitIgnore)
    (hexclude : narrow.exclude = wide.exclude ++ patterns)
    (hpatterns : List.Forall₂ LeadsThrough patterns directories) (hproper : files.Proper)
    (hdirectory : files.isFileAt wide.root = false) (path : String) :
    InScope narrow files path ↔
      InScope wide files path ∧ ¬FilePath.PassesBy wide.root directories path := by
  simp only [InScope, hroot, hrespect, hexclude, hdirectory, Bool.false_eq_true, false_and, false_or,
    true_and, leaveOut_append]
  have hnames {found : List (List String)} {names : List String}
      (hwalk : files.walk wide.respectGitIgnore wide.root = .ok found) (hmem : names ∈ found) :
      names ≠ [] ∧ ∀ n ∈ names, IsName n := by
    obtain ⟨above, directory, hlocate, hsub⟩ := FileTree.of_walk hwalk
    have hisFile : directory.isFile = false := by
      simpa [FileTree.isFileAt, FileTree.at?, hlocate] using hdirectory
    obtain ⟨hne, hall, -⟩ := FileTree.of_mem_files
      (hproper.find? (FileTree.find?_of_locate? hlocate)) hisFile (hsub.mem hmem)
    exact ⟨hne, hall⟩
  constructor
  · rintro ⟨found, hwalk, names, hmem, hkotlin, ⟨hkept, hbeside⟩, rfl⟩
    obtain ⟨hne, hall⟩ := hnames hwalk hmem
    refine ⟨⟨found, hwalk, names, hmem, hkotlin, hkept, rfl⟩, ?_⟩
    rw [FilePath.passesBy_join_iff hall hne]
    rintro ⟨directory, hd, hon⟩
    exact (leaveOut_eq_false_iff hpatterns hall hne).1 hbeside directory hd hon
  · rintro ⟨⟨found, hwalk, names, hmem, hkotlin, hkept, rfl⟩, hbeside⟩
    obtain ⟨hne, hall⟩ := hnames hwalk hmem
    rw [FilePath.passesBy_join_iff hall hne] at hbeside
    refine ⟨found, hwalk, names, hmem, hkotlin, ⟨hkept, ?_⟩, rfl⟩
    exact (leaveOut_eq_false_iff hpatterns hall hne).2 fun d hd hon => hbeside ⟨d, hd, hon⟩

end Project

namespace Settings

/-- What is written on files under a key, if anything is written on files. -/
def writtenScan? (document : List (String × TomlValue)) (key : String) : Option TomlValue :=
  (document.lookup "analyzer").bind (·.recorded? ScanSettings.keys key)

/-- What the settings on files fall back on. Where anything is written on them, there are no
patterns to fall back on. -/
def scanDefault (document : List (String × TomlValue)) : ScanSettings :=
  match document.lookup "analyzer" with
  | none => defaultScan
  | some _ => { defaultScan with exclude := [] }

/-- The directories for build outputs. -/
def outputs : List String := ["build", ".gradle"]

theorem leadsThrough_outputs :
    List.Forall₂ Exclusion.LeadsThrough defaultScan.exclude outputs := by
  refine .cons ⟨?_, ?_, ?_⟩ (.cons ⟨?_, ?_, ?_⟩ .nil) <;> decide +kernel

section
variable {document other : List (String × TomlValue)} {settings others : Settings}

theorem scan_of_ofToml? (h : ofToml? document = some settings) :
    (document.lookup "analyzer" = none ∧ settings.scan = defaultScan) ∨
      ∃ value, document.lookup "analyzer" = some value ∧
        ScanSettings.ofToml? value = some settings.scan := by
  simp only [ofToml?, bind, Option.bind_eq_some_iff, pure, Option.some.injEq] at h
  obtain ⟨_, -, _, -, scan?, hscan, _, -, _, -, rfl⟩ := h
  cases hwritten : document.lookup "analyzer" with
  | none =>
    rw [hwritten] at hscan
    obtain rfl := Option.some.inj hscan
    exact .inl ⟨rfl, rfl⟩
  | some value =>
    rw [hwritten] at hscan
    obtain ⟨scan, hvalue, rfl⟩ := Option.map_eq_some_iff.1 hscan
    exact .inr ⟨value, rfl, hvalue⟩

/-- What is written on files tells nothing but the settings on files. -/
theorem eq_of_lookup_eq (h : ofToml? document = some settings) (h' : ofToml? other = some others)
    (hsame : ∀ key, key ≠ "analyzer" → document.lookup key = other.lookup key) :
    settings = { others with scan := settings.scan } := by
  simp only [ofToml?, bind, Option.bind_eq_some_iff, pure, Option.some.injEq,
    hsame "compose" (by decide), hsame "preset" (by decide), hsame "rules" (by decide)] at h
  simp only [ofToml?, bind, Option.bind_eq_some_iff, pure, Option.some.injEq] at h'
  obtain ⟨options?, hoptions, preset?, hpreset, _, -, rules?, hrules, values, hvalues, rfl⟩ := h
  obtain ⟨_, hoptions', _, hpreset', _, -, _, hrules', _, hvalues', rfl⟩ := h'
  obtain rfl := Option.some.inj (hoptions.symm.trans hoptions')
  obtain rfl := Option.some.inj (hpreset.symm.trans hpreset')
  obtain rfl := Option.some.inj (hrules.symm.trans hrules')
  obtain rfl := Option.some.inj (hvalues.symm.trans hvalues')
  rfl

theorem fallsBackOn_of_ofToml? (h : ofToml? document = some settings) :
    settings.scan.FallsBackOn (scanDefault document) (writtenScan? document) := by
  rcases scan_of_ofToml? h with ⟨hnone, hscan⟩ | ⟨value, hvalue, hscan⟩
  · have hwritten (key : String) : writtenScan? document key = none := by
      rw [writtenScan?, hnone, Option.bind_none]
    rw [scanDefault, hnone, hscan]
    constructor <;> rw [hwritten] <;> rfl
  · have hwritten : writtenScan? document = value.recorded? ScanSettings.keys := by
      funext key
      rw [writtenScan?, hvalue, Option.bind_some]
    rw [scanDefault, hvalue, hwritten]
    exact ScanSettings.fallsBackOn_of_ofToml? hscan

theorem exclude_of_unwritten (h : ofToml? document = some settings)
    (hsome : document.lookup "analyzer" ≠ none) (hnone : writtenScan? document "exclude" = none) :
    settings.scan.exclude = [] := by
  obtain ⟨value, hvalue⟩ := Option.ne_none_iff_exists'.1 hsome
  have hexclude := (fallsBackOn_of_ofToml? h).exclude
  rwa [hnone, scanDefault, hvalue] at hexclude

/-- The settings on files fall back on those of a project that has written none, unless something
but no patterns is written. -/
theorem fallsBackOn_defaultScan_iff (h : ofToml? document = some settings) :
    settings.scan.FallsBackOn defaultScan (writtenScan? document) ↔
      document.lookup "analyzer" = none ∨ writtenScan? document "exclude" ≠ none := by
  have hfields := fallsBackOn_of_ofToml? h
  constructor
  · intro hdefault
    refine or_iff_not_imp_left.2 fun hsome hnone => ?_
    have hexclude := hdefault.exclude
    rw [hnone, exclude_of_unwritten h hsome hnone] at hexclude
    cases hexclude
  · rw [scanDefault] at hfields
    split at hfields
    case h_1 => exact fun _ => hfields
    case h_2 value hvalue =>
      rw [hvalue, or_iff_right (Option.some_ne_none value)]
      intro hsome
      obtain ⟨written, hwritten⟩ := Option.ne_none_iff_exists'.1 hsome
      refine ⟨hfields.root, ?_, hfields.respectGitIgnore, hfields.editorConfig⟩
      have hexclude := hfields.exclude
      rw [hwritten] at hexclude ⊢
      exact hexclude

/-- Each setting on files is what is written for it or else its default; only the patterns have no
default where anything is written on files. Whoever writes something there but no patterns changes
no other settings, and has the files checked as well that the default patterns leave out: those that
lie in a directory for build outputs. -/
theorem scan_falls_back_by_field {text : String} (h : read? text = some settings) :
    ∃ document, Toml.read? text = some document ∧
      settings.scan.FallsBackOn (scanDefault document) (writtenScan? document) ∧
      (settings.scan.FallsBackOn defaultScan (writtenScan? document) ↔
        document.lookup "analyzer" = none ∨ writtenScan? document "exclude" ≠ none) ∧
      ∀ bare before, ofToml? bare = some before → bare.lookup "analyzer" = none →
        (∀ key, key ≠ "analyzer" → document.lookup key = bare.lookup key) →
        document.lookup "analyzer" ≠ none → writtenScan? document "exclude" = none →
        settings = { before with scan := settings.scan } ∧
        (settings.scan.respectGitIgnore = true → ∀ given? given'? request files, files.Proper →
          files.isFileAt request.root = false → ∀ path,
            Project.InScope (Checker.of before given? request) files path ↔
              Project.InScope (Checker.of settings given'? request) files path ∧
                ¬FilePath.PassesBy request.root outputs path) := by
  obtain ⟨document, hdocument, hread⟩ := Option.bind_eq_some_iff.1 h
  refine ⟨document, hdocument, fallsBackOn_of_ofToml? hread, fallsBackOn_defaultScan_iff hread,
    fun bare before hbefore hbare hsame hsome hnone => ⟨eq_of_lookup_eq hread hbefore hsame,
      fun hrespect given? given'? request files hproper hdirectory => ?_⟩⟩
  have hscan : before.scan = defaultScan := by
    rcases scan_of_ofToml? hbefore with ⟨-, hscan⟩ | ⟨value, hvalue, -⟩
    · exact hscan
    · rw [hbare] at hvalue
      cases hvalue
  refine Project.inScope_iff_of_leadsThrough rfl ?_ ?_ leadsThrough_outputs hproper hdirectory
  · rw [Checker.of, Checker.of, hscan, hrespect]
    rfl
  · rw [Checker.of, Checker.of, hscan, exclude_of_unwritten hread hsome hnone, List.append_nil]

/-- Nothing is said on files but that no `.editorconfig` counts. -/
def asideText : String := "[analyzer]\neditorconfig = false\n"

def asideSettings : Settings := { scan := { editorConfig := false } }

def outputFiles : FileTree :=
  .directory [("build", .directory [("A.kt", .file (.text ""))]), ("B.kt", .file (.text ""))]

/-- With nothing said a file among the build outputs is not in scope, and with this it is. -/
theorem scan_falls_back_by_field_aside :
    let request : Request := { root := "/", rules := [] }
    read? asideText = some asideSettings ∧ ofToml? [] = some default ∧
    asideSettings = { default with scan := asideSettings.scan } ∧
    Project.InScope (Checker.of asideSettings none request) outputFiles "/build/A.kt" ∧
    ¬Project.InScope (Checker.of default none request) outputFiles "/build/A.kt" := by
  intro request
  have hread : read? asideText = some asideSettings := by decide +kernel
  have hempty : ofToml? [] = some default := by decide +kernel
  obtain ⟨document, hdocument, -, -, hfiles⟩ := scan_falls_back_by_field hread
  have hwritten : (Toml.read? asideText).all (fun entries =>
      entries.all (fun entry => entry.1 == "analyzer") && (entries.lookup "analyzer").isSome &&
        (writtenScan? entries "exclude").isNone) = true := by decide +kernel
  rw [hdocument, Option.all_some, Bool.and_eq_true, Bool.and_eq_true, List.all_eq_true] at hwritten
  obtain ⟨⟨honly, hsome⟩, hnone⟩ := hwritten
  have hbare (key : String) (hkey : key ≠ "analyzer") : document.lookup key = none :=
    List.lookup_eq_none_iff.2 fun entry hentry => by
      rw [beq_iff_eq.1 (honly entry hentry), bne_iff_ne]
      exact hkey
  obtain ⟨hothers, hscope⟩ := hfiles [] default hempty rfl hbare
    (Option.ne_none_iff_isSome.2 hsome) (Option.isNone_iff_eq_none.1 hnone)
  have hproper : outputFiles.Proper := by
    simp only [outputFiles, FileTree.Proper, FileTree.ProperEntries]
    decide
  have hwalk : outputFiles.walk true "/" = .ok [["build", "A.kt"], ["B.kt"]] :=
    eq_ok_of_toOption (by decide +kernel)
  have hbuilt : FilePath.PassesBy "/" outputs "/build/A.kt" :=
    ⟨["build", "A.kt"], by decide, by decide +kernel, "build", by decide, by decide⟩
  refine ⟨hread, hempty, hothers, .inr ⟨by decide +kernel, _, hwalk, ["build", "A.kt"],
    by decide, by decide +kernel, by decide +kernel, by decide +kernel⟩, fun hin => ?_⟩
  exact ((hscope rfl none none request outputFiles hproper (by decide +kernel) _).1 hin).2 hbuilt

end

end Settings

end ComposeCheck

