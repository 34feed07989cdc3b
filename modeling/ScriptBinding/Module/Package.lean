import ScriptBinding.Module.Manifest
import ScriptBinding.Module.Source
import ScriptBinding.Text.Case

/-!
The files of a module: its source, the two build descriptions and the manifest.
-/

namespace ScriptBinding

structure Package where
  library : String
  source : String
  libraryBuild : String
  manifest : String
  moduleBuild : String
deriving DecidableEq

namespace Package

def folder (p : Package) : String := p.library ++ "_module"

def files (p : Package) : List (String × String) := [
  ("lib/" ++ p.library ++ "_module.cpp", p.source),
  ("lib/CMakeLists.txt", p.libraryBuild),
  ("modules.json", p.manifest),
  ("module.cmake", p.moduleBuild)]

end Package

def staticLibrary : String := "cppmodulestatic"

def libraryBuildText (project : String) : String :=
  String.intercalate "\n" [
    "project(" ++ project ++ " CXX)",
    "",
    "file(GLOB CPP_SRC ./*.cpp)",
    "add_library(" ++ staticLibrary ++ " STATIC",
    "    $\x7bCPP_SRC\x7d",
    ")",
    "",
    "target_include_directories(" ++ staticLibrary ++ " PRIVATE $\x7bJERRY_INCLUDE_DIR\x7d)",
    "target_link_libraries(" ++ staticLibrary ++ " PUBLIC stdc++)",
    ""]

def moduleBuildText (library : String) : String :=
  String.intercalate "\n" [
    "set(MODULE_NAME \"" ++ library ++ "\")",
    "add_subdirectory($\x7bMODULE_DIR\x7d/lib/ $\x7bMODULE_BINARY_DIR\x7d/$\x7bMODULE_NAME\x7d)",
    "list(APPEND MODULE_LIBS " ++ staticLibrary ++ ")",
    ""]

def fragmentOf (fragment : Option String) (fault : Fault) : Except Fault String :=
  match fragment.filter (· ≠ "") with
  | some text => .ok text
  | none => .error fault

/-- The files of a planned module; the library's name is written in lower case. -/
def Plan.package (p : Plan) (library : String) : Except Fault Package := do
  let library := Text.lower library
  let destructor ← fragmentOf p.destructor (.noDestructor p.scriptClass.name)
  let nativeWrapper ← fragmentOf p.nativeWrapper (.noNativeWrapper p.scriptClass.name)
  let source ← p.sourceCode destructor nativeWrapper
  return {
    library
    source := source.toText
    libraryBuild := libraryBuildText p.scriptClass.ident
    manifest := Manifest.manifest library p.scriptClass.init
    moduleBuild := moduleBuildText library }

end ScriptBinding
