import ScriptBinding.Text.Case
import ScriptBinding.Text.Quoted

/-!
What is asked for on the command line, and the settings of a run that follow from it.
-/

namespace ScriptBinding

inductive UsageFault where
  | missingNames
  | genericName
  | ambiguous (given : String) (candidates : List String)
  | missingValue (names : String)
  | unexpectedValue (names value : String)
  | unrecognized (words : List String)
deriving DecidableEq

def UsageFault.message : UsageFault → String
  | missingNames => "missing symbols file or class name"
  | genericName => "When passing in a generic classname, please also pass in --js-class-name"
  | ambiguous given candidates =>
    "ambiguous option: " ++ given ++ " could match " ++ String.intercalate ", " candidates
  | missingValue names => "argument " ++ names ++ ": expected one argument"
  | unexpectedValue names value =>
    "argument " ++ names ++ ": ignored explicit argument " ++ Text.quoted value
  | unrecognized words => "unrecognized arguments: " ++ String.intercalate " " words

structure Options where
  symbolsFile : Option String := none
  className : Option String := none
  scriptName : Option String := none
  library : Option String := none
  headerFile : Option String := none
  withoutFiles : Bool := false
  outputFolder : Option String := none
deriving DecidableEq

structure Settings where
  symbolsFile : String
  className : String
  scriptName : String
  library : String
  headerLine : String
  createFiles : Bool := true
  outputFolder : String := "output"
deriving DecidableEq

/-- A text that has been given and is not empty. -/
def given (text : Option String) : Option String := text.filter (· ≠ "")

/-- Fills in what has not been given. A class template needs a name of its own for scripts. -/
def Settings.ofOptions (o : Options) : Except UsageFault Settings :=
  match given o.symbolsFile, given o.className with
  | some symbolsFile, some className =>
    let scriptName := (given o.scriptName).getD className
    if className.toList.contains '<' && scriptName = className then .error .genericName
    else .ok {
      symbolsFile
      className
      scriptName
      library := Text.lower ((given o.library).getD scriptName)
      headerLine :=
        match given o.headerFile with
        | some file => "#include \"" ++ file ++ "\""
        | none => "// @todo: add a reference to the " ++ className ++ " header here"
      createFiles := !o.withoutFiles
      outputFolder := (given o.outputFolder).getD "output" }
  | _, _ => .error .missingNames

end ScriptBinding
