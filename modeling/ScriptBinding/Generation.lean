import ScriptBinding.Files.Path
import ScriptBinding.Methods.Selection
import ScriptBinding.Methods.Target
import ScriptBinding.Module.Package
import ScriptBinding.Report
import ScriptBinding.Settings

/-!
From a symbol tree to the files of a module.
-/

namespace ScriptBinding

open Dump

def skipWarning (signature : String) : String := "  >> warning: skipping " ++ signature

/-- Binds methods in their order; one that is not accepted is reported and left out. -/
def Target.bindings (c : Target) (siblings : List Nat) : List Nat → Report (List Binding)
  | [] => .pure []
  | method :: rest => do
    match ← Report.ofResult (c.binding? method siblings) with
    | some binding => return binding :: (← bindings c siblings rest)
    | none =>
      let signature ← Report.ofResult (c.signature method)
      Report.say [skipWarning signature]
      bindings c siblings rest

def Target.plan (c : Target) (headerLine : String) : Report Plan := do
  let methods := c.tree.publicMethods c.place
  let bindings ← c.bindings methods methods
  let dispatchers := Naming.dispatch ⟨c.scriptClass, c.scriptClass.helpers⟩ bindings
  Report.say dispatchers.warnings
  let registry := Registry.ofBindings bindings
  Report.say registry.warnings
  return {
    className := c.className
    scriptClass := c.scriptClass
    headerLine
    destructor := some c.destructorCode.toText
    nativeWrapper := some (c.nativeWrapperCode dispatchers.methods).toText
    methods := dispatchers.methods
    constructor := dispatchers.constructor
    enumerations := registry.enumerations }

def Settings.package (s : Settings) (handlers : Keyed String Handler) (tree : Tree) :
    Report Package := do
  let place ← Report.ofResult (tree.findClass s.className)
  let plan ← Target.plan ⟨⟨tree, handlers⟩, place, ⟨s.scriptName⟩⟩ s.headerLine
  Report.ofResult (plan.package s.library)

def Settings.folder (s : Settings) (package : Package) : String :=
  Files.join s.outputFolder package.folder

def greeting (s : Settings) : String :=
  "=== Generating JerryScript wrapper for " ++ s.className ++ ":"

def notStoredLine : String := "Done. Did not store the wrapper on disk."

def createdLines (folder : String) : List String := ["", "Done. Created wrapper in " ++ folder]

end ScriptBinding
