import ScriptBinding.Command.Run

/-!
The program on the real file system.
-/

namespace ScriptBinding.Command

open Files

def tell {α : Type} (report : Report α) : IO (Option α) := do
  report.lines.forM IO.println
  match report.result with
  | .ok a => return some a
  | .error fault =>
    IO.eprintln fault.message
    return none

def writeModule (folder : String) (package : Package) : IO Unit := do
  IO.FS.createDirAll (join folder "lib")
  for (path, text) in filesIn folder package do
    IO.FS.writeFile path text

def generateFiles (settings : Settings) : IO UInt32 := do
  IO.println (greeting settings)
  let bytes ← IO.FS.readBinFile settings.symbolsFile
  match ← tell (moduleFrom settings bytes.toList) with
  | none => return 1
  | some package =>
    let folder := settings.folder package
    if settings.createFiles then
      writeModule folder package
      (createdLines folder).forM IO.println
    else IO.println notStoredLine
    return 0

def execute (words : List String) : IO UInt32 := do
  match requestOf words with
  | .explain message =>
    IO.eprintln message
    IO.eprintln usageLine
    return 1
  | .help =>
    IO.println (helpText programName)
    return 0
  | .generate settings => generateFiles settings

end ScriptBinding.Command

def main (words : List String) : IO UInt32 := ScriptBinding.Command.execute words
