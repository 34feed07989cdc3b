import ScriptBinding.Command.Arguments
import ScriptBinding.Command.Usage
import ScriptBinding.Files.Store
import ScriptBinding.Generation

/-!
A run of the program on a store of files.
-/

namespace ScriptBinding.Command

open Files

inductive Failure where
  | ofFault (fault : Fault)
  | ofFile (fault : FileFault)
deriving DecidableEq

def Failure.message : Failure → String
  | ofFault fault => fault.message
  | ofFile fault => fault.message

/-- The exit code, unless the run breaks off; what has been said; and the store afterwards. -/
structure Outcome where
  code : Except Failure Nat
  output : List String
  errors : List String := []
  store : FileStore

inductive Request where
  | explain (message : String)
  | help
  | generate (settings : Settings)

def requestOf (words : List String) : Request :=
  match readArguments words with
  | .error e => .explain e.message
  | .ok .help => .help
  | .ok (.options o) =>
    match Settings.ofOptions o with
    | .error e => .explain e.message
    | .ok settings => .generate settings

/-- A class that is not found and a missing fragment end a run in an orderly way. -/
def isExpected : Fault → Bool
  | .classNotFound _ | .noDestructor _ | .noNativeWrapper _ => true
  | _ => false

def filesIn (folder : String) (package : Package) : List (String × String) :=
  package.files.map fun (path, text) => (join folder path, text)

def store (s : FileStore) (folder : String) (package : Package) : FileStore × Option FileFault :=
  match s.makeDirectories (join folder "lib") with
  | (s, some fault) => (s, some fault)
  | (s, none) => s.writeAll (filesIn folder package)

def moduleFrom (settings : Settings) (bytes : List UInt8) : Report Package := do
  let tree ← Report.ofResult (Dump.Tree.load bytes)
  settings.package [] tree

def deliver (s : FileStore) (settings : Settings) (said : List String) (package : Package) :
    Outcome :=
  let folder := settings.folder package
  if settings.createFiles then
    match store s folder package with
    | (s, none) => { code := .ok 0, output := said ++ createdLines folder, store := s }
    | (s, some fault) => { code := .error (.ofFile fault), output := said, store := s }
  else { code := .ok 0, output := said ++ [notStoredLine], store := s }

def generate (s : FileStore) (settings : Settings) : Outcome :=
  match s.read settings.symbolsFile with
  | .error fault => { code := .error (.ofFile fault), output := [greeting settings], store := s }
  | .ok bytes =>
    let report := moduleFrom settings bytes
    let said := greeting settings :: report.lines
    match report.result with
    | .ok package => deliver s settings said package
    | .error fault =>
      if isExpected fault then
        { code := .ok 1, output := said, errors := [fault.message], store := s }
      else { code := .error (.ofFault fault), output := said, store := s }

def run (program : String) (s : FileStore) (words : List String) : Outcome :=
  match requestOf words with
  | .explain message => { code := .ok 1, output := [], errors := [message, usageLine], store := s }
  | .help => { code := .ok 0, output := [helpText program], store := s }
  | .generate settings => generate s settings

end ScriptBinding.Command
