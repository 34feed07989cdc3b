import ScriptBinding.Files.Path
import ScriptBinding.Keyed
import ScriptBinding.Text.Quoted
import ScriptBinding.Text.Utf8

/-!
A store of files and directories. Paths are followed component by component from the current
directory or, if they are absolute, from the root. There are no links and no permissions: a component
is a name or leads to the place itself or to the one above, and all that is there can be read and written.
-/

namespace ScriptBinding.Files

inductive Problem where
  | missing
  | present
  | notDirectory
  | isDirectory
deriving DecidableEq

namespace Problem

def number : Problem → Nat
  | missing => 2
  | present => 17
  | notDirectory => 20
  | isDirectory => 21

def text : Problem → String
  | missing => "No such file or directory"
  | present => "File exists"
  | notDirectory => "Not a directory"
  | isDirectory => "Is a directory"

end Problem

inductive FileFault where
  | at (problem : Problem) (path : String)
  | nullCharacter
deriving DecidableEq

def FileFault.message : FileFault → String
  | .at problem path =>
    "[Errno " ++ toString problem.number ++ "] " ++ problem.text ++ ": " ++ Text.quoted path
  | .nullCharacter => "embedded null byte"

abbrev Place := List (List Char)

inductive Item where
  | directory
  | file (bytes : List UInt8)
deriving DecidableEq

structure FileStore where
  items : Keyed Place Item := []
  current : Place := []
deriving DecidableEq

namespace FileStore

variable (s : FileStore)

def item? (place : Place) : Option Item :=
  if place.isEmpty then some .directory else s.items.get? place

/-- One component further: empty and `.` stay, `..` goes back, but not beyond the root. -/
def advance (place : Place) (name : List Char) : Place :=
  if name = [] || name = ['.'] then place
  else if name = ['.', '.'] then place.dropLast
  else place ++ [name]

/-- The place that components lead to. All before the last must be directories. -/
def follow (place : Place) : List (List Char) → Except Problem Place
  | [] => .ok place
  | name :: rest =>
    match s.item? place with
    | none => .error .missing
    | some (.file _) => .error .notDirectory
    | some .directory => follow (advance place name) rest

def start (path : String) : Place := if isAbsolute path then [] else s.current

def locateNames (path : String) (names : List (List Char)) : Except FileFault Place :=
  if path.toList.contains '\x00' then .error .nullCharacter
  else if path.isEmpty then .error (.at .missing path)
  else match s.follow (s.start path) names with
    | .ok place => .ok place
    | .error problem => .error (.at problem path)

def locate (path : String) : Except FileFault Place := s.locateNames path (components path)

def find? (path : String) : Option Item :=
  match s.locate path with
  | .ok place => s.item? place
  | .error _ => none

def read (path : String) : Except FileFault (List UInt8) := do
  match s.item? (← s.locate path) with
  | none => throw (.at .missing path)
  | some .directory => throw (.at .isDirectory path)
  | some (.file bytes) => return bytes

def write (path : String) (bytes : List UInt8) : Except FileFault FileStore := do
  let place ← s.locate path
  match s.item? place with
  | some .directory => throw (.at .isDirectory path)
  | _ => return { s with items := s.items.put place (.file bytes) }

def makeDirectory (path : String) : Except FileFault FileStore := do
  let names := ((components path).reverse.dropWhile List.isEmpty).reverse
  let place ← s.locateNames path names
  match s.item? place with
  | some _ => throw (.at .present path)
  | none => return { s with items := s.items.put place .directory }

/-- Makes a directory and, first, those it lies in; the store also keeps what was made before a
failure. -/
def makeDirectoriesWithin : Nat → FileStore → List Char → FileStore × Option FileFault
  | 0, s, _ => (s, none)
  | fuel + 1, s, path =>
    let (front, last) := parentAndName path
    let needsFront :=
      !front.isEmpty && !last.isEmpty && (s.find? (String.ofList front)).isNone
    let (s, fault) := if needsFront then makeDirectoriesWithin fuel s front else (s, none)
    match fault with
    | some (.at .present _) | none =>
      if needsFront && last = ['.'] then (s, none)
      else match s.makeDirectory (String.ofList path) with
        | .ok s => (s, none)
        | .error fault =>
          if s.find? (String.ofList path) = some .directory then (s, none) else (s, some fault)
    | some fault => (s, some fault)

def makeDirectories (path : String) : FileStore × Option FileFault :=
  makeDirectoriesWithin (path.length + 1) s path.toList

def writeAll (s : FileStore) : List (String × String) → FileStore × Option FileFault
  | [] => (s, none)
  | (path, text) :: rest =>
    match s.write path (Text.encodeUtf8 text) with
    | .ok s => writeAll s rest
    | .error fault => (s, some fault)

end FileStore

end ScriptBinding.Files
