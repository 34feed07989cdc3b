import ScriptBinding.Proofs.Command.Effects
import ScriptBinding.Proofs.Files.Joining
import ScriptBinding.Proofs.Files.Writing
import ScriptBinding.Proofs.Text.Case

/-!
Runs that write a module: its four files and the directories around them are all that changes, and a second run
changes nothing.
-/

namespace ScriptBinding

open Dump Files

/-- The four files of a module, below its folder. -/
def filePaths (library : String) : List String :=
  ["lib/" ++ library ++ "_module.cpp", "lib/CMakeLists.txt", "modules.json", "module.cmake"]

theorem Package.map_files (p : Package) : p.files.map (·.1) = filePaths p.library := rfl

def fileNames (library : String) : List (List (List Char)) := [
  ["lib".toList, library.toList ++ "_module.cpp".toList],
  ["lib".toList, "CMakeLists.txt".toList],
  ["modules.json".toList],
  ["module.cmake".toList]]

theorem isAbsolute_of_mem_filePaths {library path : String} (h : path ∈ filePaths library) :
    isAbsolute path = false := by
  simp only [filePaths, List.mem_cons, List.not_mem_nil, or_false] at h
  rcases h with rfl | rfl | rfl | rfl
  · simp [isAbsolute]
  · decide
  · decide
  · decide

theorem map_steps_filePaths {library : String} (h : '/' ∉ library.toList) :
    (filePaths library).map (fun path => steps path.toList) = fileNames library := by
  have hsource : steps ("lib/" ++ library ++ "_module.cpp").toList =
      ["lib".toList, library.toList ++ "_module.cpp".toList] := by
    have hpath : ("lib/" ++ library ++ "_module.cpp").toList =
        "lib".toList ++ '/' :: (library.toList ++ "_module.cpp".toList) := by simp
    have hname : '/' ∉ library.toList ++ "_module.cpp".toList := by
      rw [List.mem_append, not_or]
      exact ⟨h, by decide⟩
    rw [hpath, steps_append_slash, steps_of_notMem (by decide) (by decide), steps_of_notMem hname (by simp)]
    rfl
  have hbuild : steps "lib/CMakeLists.txt".toList = ["lib".toList, "CMakeLists.txt".toList] := by decide
  have hmanifest : steps "modules.json".toList = ["modules.json".toList] := by decide
  have hmodule : steps "module.cmake".toList = ["module.cmake".toList] := by decide
  simp only [filePaths, fileNames, List.map_cons, List.map_nil, hsource, hbuild, hmanifest, hmodule]

theorem nodup_fileNames (library : String) : (fileNames library).Nodup := by
  have hsource : library.toList ++ "_module.cpp".toList ≠ "CMakeLists.txt".toList := by
    intro h
    have hlast := congrArg List.getLast? h
    rw [List.getLast?_append_of_ne_nil _ (by decide)] at hlast
    exact absurd hlast (by decide)
  rw [fileNames, List.nodup_cons]
  refine ⟨?_, by decide⟩
  intro h
  rcases List.mem_cons.mp h with hbuild | hother
  · exact hsource (List.cons.inj (List.cons.inj hbuild).2).1
  · simp at hother

theorem isPlainName_of_mem_fileNames {library : String} {names : List (List Char)} (h : names ∈ fileNames library) :
    ∀ name ∈ names, IsPlainName name := by
  have hsource : IsPlainName (library.toList ++ "_module.cpp".toList) := by
    refine ⟨by simp, ?_, ?_⟩ <;>
    · intro h
      have hlength := congrArg List.length h
      simp at hlength
  rw [fileNames, List.mem_cons] at h
  rcases h with rfl | h
  · exact List.forall_mem_cons.mpr ⟨by decide, List.forall_mem_singleton.mpr hsource⟩
  · have hfixed : ∀ names ∈ (fileNames "").tail, ∀ name ∈ names, IsPlainName name := by decide
    exact hfixed names h

theorem nodup_placeOf_filePaths (s : FileStore) (folder : String) {library : String} (h : '/' ∉ library.toList) :
    ((filePaths library).map fun path => s.placeOf (join folder path)).Nodup := by
  have hplaces : ((filePaths library).map fun path => s.placeOf (join folder path)) =
      (fileNames library).map (s.placeOf folder ++ ·) := by
    rw [← map_steps_filePaths h, List.map_map]
    apply List.map_congr_left
    intro path hpath
    have hnames : steps path.toList ∈ fileNames library := by
      rw [← map_steps_filePaths h]
      exact List.mem_map_of_mem (f := fun path => steps path.toList) hpath
    rw [placeOf_join s (isAbsolute_of_mem_filePaths hpath), goal_of_isPlainName (isPlainName_of_mem_fileNames hnames)]
    rfl
  rw [hplaces]
  exact (nodup_fileNames library).map (List.append_right_injective _)

theorem Plan.library_of_package {p : Plan} {library : String} {package : Package}
    (h : p.package library = .ok package) : package.library = Text.lower library := by
  obtain ⟨destructor, -, h⟩ := Except.bind_eq_ok_iff.mp h
  obtain ⟨nativeWrapper, -, h⟩ := Except.bind_eq_ok_iff.mp h
  obtain ⟨source, -, h⟩ := Except.bind_eq_ok_iff.mp h
  rw [← Except.ok.inj h]

namespace Settings

variable (settings : Settings)

def moduleFolder : String := join settings.outputFolder (Text.lower settings.library ++ "_module")

def libraryFolder : String := join settings.moduleFolder "lib"

/-- The paths of the files that are written. -/
def paths : List String := (filePaths (Text.lower settings.library)).map (join settings.moduleFolder)

variable {settings}

theorem library_of_package {handlers : Keyed String Handler} {tree : Tree} {package : Package}
    (h : (settings.package handlers tree).result = .ok package) : package.library = Text.lower settings.library := by
  obtain ⟨place, -, h, -⟩ := Report.exists_of_bind h
  obtain ⟨plan, -, h, -⟩ := Report.exists_of_bind h
  exact Plan.library_of_package h

theorem nodup_paths (h : '/' ∉ settings.library.toList) (s : FileStore) : (settings.paths.map s.placeOf).Nodup := by
  have hlower : '/' ∉ (Text.lower settings.library).toList := fun hmem =>
    h (Text.mem_of_mem_lower (by decide) (by decide) hmem)
  rw [paths, List.map_map]
  exact nodup_placeOf_filePaths s settings.moduleFolder hlower

theorem folder_eq {package : Package} (h : package.library = Text.lower settings.library) :
    settings.folder package = settings.moduleFolder := by
  rw [folder, Package.folder, h, moduleFolder]

theorem map_filesIn {package : Package} (h : package.library = Text.lower settings.library) :
    (Command.filesIn settings.moduleFolder package).map (·.1) = settings.paths := by
  rw [paths, ← h, ← Package.map_files, Command.filesIn, List.map_map, List.map_map]
  rfl

theorem moduleFolder_ne_empty : settings.moduleFolder ≠ "" := join_ne_empty (by simp) _

end Settings

namespace Command

variable {words : List String} {s t : FileStore} {program : String} {settings : Settings} {package : Package}
  {bytes : List UInt8}

theorem library_of_moduleFrom (h : (moduleFrom settings bytes).result = .ok package) :
    package.library = Text.lower settings.library := by
  obtain ⟨tree, -, h, -⟩ := Report.exists_of_bind h
  exact Settings.library_of_package h

/-- A file of the module holds a text. -/
def HasText (settings : Settings) (t : FileStore) (path text : String) : Prop :=
  t.read (join settings.moduleFolder path) = .ok (Text.encodeUtf8 text)

/-- What a run leaves behind that writes a module: its four texts, each in a file of its own, in folders that are
there. Everything else is as it was. -/
structure Delivered (settings : Settings) (package : Package) (s t : FileStore) : Prop where
  source : HasText settings t ("lib/" ++ Text.lower settings.library ++ "_module.cpp") package.source
  libraryBuild : HasText settings t "lib/CMakeLists.txt" package.libraryBuild
  manifest : HasText settings t "modules.json" package.manifest
  moduleBuild : HasText settings t "module.cmake" package.moduleBuild
  distinct : (settings.paths.map s.placeOf).Nodup
  directories : ∀ p ∈ s.placesOn settings.libraryFolder,
    t.IsDirectory p ∧ (s.item? p = none ∨ s.IsDirectory p)
  frame : ∀ p, p ∉ s.placesOn settings.libraryFolder → p ∉ settings.paths.map s.placeOf → t.item? p = s.item? p
  current : t.current = s.current

theorem exists_of_store {folder : String} (h : store s folder package = (t, none)) :
    ∃ u, s.makeDirectories (join folder "lib") = (u, none) ∧ u.writeAll (filesIn folder package) = (t, none) := by
  unfold store at h
  split at h
  · cases congrArg Prod.snd h
  · next u hu => exact ⟨u, hu, h⟩

theorem hasText_of_filled {u : FileStore} (hfilled : FileStore.Filled (filesIn settings.moduleFolder package) u t)
    (hlibrary : package.library = Text.lower settings.library) (hslash : '/' ∉ settings.library.toList)
    {f : String × String} (hf : f ∈ package.files) : HasText settings t f.1 f.2 := by
  have hnodup : ((filesIn settings.moduleFolder package).map fun f => u.placeOf f.1).Nodup := by
    have hpaths := Settings.nodup_paths hslash u
    rw [← Settings.map_filesIn hlibrary, List.map_map] at hpaths
    exact hpaths
  have hmem : (join settings.moduleFolder f.1, f.2) ∈ filesIn settings.moduleFolder package :=
    List.mem_map.mpr ⟨f, hf, rfl⟩
  exact hfilled.held hnodup (join settings.moduleFolder f.1, f.2) hmem

section Stored

variable {u : FileStore} (hmade : s.makeDirectories settings.libraryFolder = (u, none))
include hmade

theorem grown_of_makeDirectories : FileStore.Grown (s.placesOn settings.libraryFolder) s u := by
  have hgrown := FileStore.grown_makeDirectoriesWithin (settings.libraryFolder.length + 1) s
    settings.libraryFolder.toList
  rw [String.ofList_toList] at hgrown
  rw [FileStore.makeDirectories] at hmade
  rwa [hmade] at hgrown

theorem find?_of_makeDirectories : u.find? settings.libraryFolder = some .directory := by
  have hname : (parentAndName settings.libraryFolder.toList).2 ≠ ['.'] := by
    rw [Settings.libraryFolder, parentAndName_join (by decide) (by decide) Settings.moduleFolder_ne_empty]
    decide
  rw [FileStore.makeDirectories] at hmade
  have hfind := FileStore.find?_makeDirectoriesWithin hname (congrArg Prod.snd hmade)
  rwa [hmade, String.ofList_toList] at hfind

variable (hfilled : FileStore.Filled (filesIn settings.moduleFolder package) u t)
include hfilled

theorem directories_of_filled {p : Place} (hp : p ∈ s.placesOn settings.libraryFolder) :
    t.IsDirectory p ∧ (s.item? p = none ∨ s.IsDirectory p) := by
  have hgrown := grown_of_makeDirectories hmade
  have hdirectory : u.IsDirectory p := by
    apply (FileStore.find?_directory_iff.mp (find?_of_makeDirectories hmade)).2.2
    rwa [FileStore.placesOn_of_current hgrown.current]
  refine ⟨hfilled.isDirectory p hdirectory, ?_⟩
  rcases hgrown.item p with hsame | ⟨-, hnone, -⟩
  · exact .inr (hsame.symm.trans hdirectory)
  · exact .inl hnone

variable (hlibrary : package.library = Text.lower settings.library)
include hlibrary

theorem frame_paths {p : Place} (hp : p ∉ settings.paths.map s.placeOf) : t.item? p = u.item? p := by
  apply hfilled.frame
  intro f hf hplace
  apply hp
  rw [← Settings.map_filesIn hlibrary, List.map_map]
  rw [FileStore.placeOf_of_current (grown_of_makeDirectories hmade).current] at hplace
  exact List.mem_map.mpr ⟨f, hf, hplace.symm⟩

theorem frame_of_filled {p : Place} (hp : p ∉ s.placesOn settings.libraryFolder)
    (hpaths : p ∉ settings.paths.map s.placeOf) : t.item? p = s.item? p := by
  rw [frame_paths hmade hfilled hlibrary hpaths]
  rcases (grown_of_makeDirectories hmade).item p with hsame | ⟨hmem, -, -⟩
  · exact hsame
  · exact absurd hmem hp

theorem delivered_of_filled (hslash : '/' ∉ settings.library.toList) : Delivered settings package s t where
  source := by
    rw [← hlibrary]
    exact hasText_of_filled hfilled hlibrary hslash (f := (_, package.source)) (by simp [Package.files])
  libraryBuild := hasText_of_filled hfilled hlibrary hslash (f := (_, package.libraryBuild)) (by simp [Package.files])
  manifest := hasText_of_filled hfilled hlibrary hslash (f := (_, package.manifest)) (by simp [Package.files])
  moduleBuild := hasText_of_filled hfilled hlibrary hslash (f := (_, package.moduleBuild)) (by simp [Package.files])
  distinct := Settings.nodup_paths hslash s
  directories _ hp := directories_of_filled hmade hfilled hp
  frame _ hp hpaths := frame_of_filled hmade hfilled hlibrary hp hpaths
  current := hfilled.current.trans (grown_of_makeDirectories hmade).current

theorem read_of_delivered {path : String} (hpath : s.placeOf path ∉ settings.paths.map s.placeOf)
    (hread : s.read path = .ok bytes) : t.read path = .ok bytes := by
  have hgrown := grown_of_makeDirectories hmade
  apply FileStore.read_of_kept hread (hfilled.current.trans hgrown.current)
  · intro p hp
    exact hfilled.isDirectory p (hgrown.isDirectory hp)
  · rw [frame_paths hmade hfilled hlibrary hpath]
    rcases hgrown.item (s.placeOf path) with hsame | ⟨-, hnone, -⟩
    · exact hsame
    · rw [(FileStore.read_eq_ok_iff.mp hread).2] at hnone
      cases hnone

theorem store_of_delivered (hslash : '/' ∉ settings.library.toList) :
    store t settings.moduleFolder package = (t, none) := by
  have hgrown := grown_of_makeDirectories hmade
  have hfind : t.find? settings.libraryFolder = some .directory := by
    obtain ⟨hplain, hnonempty, hdirectories⟩ := FileStore.find?_directory_iff.mp (find?_of_makeDirectories hmade)
    refine FileStore.find?_directory_iff.mpr ⟨hplain, hnonempty, ?_⟩
    intro p hp
    rw [FileStore.placesOn_of_current hfilled.current] at hp
    exact hfilled.isDirectory p (hdirectories p hp)
  have hread : ∀ f ∈ filesIn settings.moduleFolder package, t.read f.1 = .ok (Text.encodeUtf8 f.2) := by
    intro f hf
    obtain ⟨g, hg, rfl⟩ := List.mem_map.mp hf
    exact hasText_of_filled hfilled hlibrary hslash hg
  unfold store
  rw [← Settings.libraryFolder, FileStore.makeDirectories_of_directories hfind]
  exact FileStore.writeAll_of_read hread

end Stored

theorem exists_package (h : (generate s settings).code = .ok 0) : ∃ bytes package,
    s.read settings.symbolsFile = .ok bytes ∧ (moduleFrom settings bytes).result = .ok package := by
  cases hread : s.read settings.symbolsFile with
  | error fault =>
    rw [(generate_of_unread hread).2] at h
    cases h
  | ok bytes =>
    cases hresult : (moduleFrom settings bytes).result with
    | ok package => exact ⟨bytes, package, rfl, hresult⟩
    | error fault =>
      rw [(generate_of_fault hread hresult).2] at h
      split_ifs at h
      · cases h

theorem deliver_of_store {said : List String} (hcreate : settings.createFiles = true)
    (hstore : store s (settings.folder package) package = (t, none)) :
    deliver s settings said package =
      { code := .ok 0, output := said ++ createdLines (settings.folder package), store := t } := by
  simp only [deliver, hcreate, if_true, hstore]

theorem exists_store {said : List String} (hcreate : settings.createFiles = true)
    (h : (deliver s settings said package).code = .ok 0) :
    ∃ t, store s (settings.folder package) package = (t, none) := by
  simp only [deliver, hcreate, if_true] at h
  split at h
  · next t ht => exact ⟨t, ht⟩
  · cases h

def ledDump : String := "<0><b>: Abbrev Number: 1 (DW_TAG_class_type)\n<c> DW_AT_name:Led\n"

/-- A dump and a part of the module's folder, with a manifest that is left over. -/
def partialStore : FileStore where
  items := [
    (["led.txt".toList], .file (Text.encodeUtf8 ledDump)),
    (["output".toList], .directory),
    (["output".toList, "led_module".toList], .directory),
    (["output".toList, "led_module".toList, "modules.json".toList], .file (Text.encodeUtf8 "[ ]"))]

def ledRequest : Settings :=
  ⟨"led.txt", "Led", "Led", "led", "// @todo: add a reference to the Led header here", true, "output"⟩

end Command

end ScriptBinding
