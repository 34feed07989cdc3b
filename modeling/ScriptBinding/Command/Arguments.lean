import ScriptBinding.Settings
import ScriptBinding.Text.Digit
import ScriptBinding.Text.Scan

/-!
The words of a command line. Each word is classified by itself; then the options and the two
positional arguments are read in one pass.
-/

namespace ScriptBinding.Command

inductive Flag where
  | help
  | scriptName
  | library
  | headerFile
  | withoutFiles
  | outputFolder
deriving DecidableEq

namespace Flag

def spellings : Flag → List String
  | help => ["-h", "--help"]
  | scriptName => ["--js-class-name"]
  | library => ["--library-name"]
  | headerFile => ["--header-file"]
  | withoutFiles => ["--dont-create-files"]
  | outputFolder => ["--output-dir"]

def names (f : Flag) : String := String.intercalate "/" f.spellings

def takesValue : Flag → Bool
  | help | withoutFiles => false
  | _ => true

def all : List Flag := [help, scriptName, library, headerFile, withoutFiles, outputFolder]

def table : List (String × Flag) := all.flatMap fun f => f.spellings.map (·, f)

def ofSpelling? (spelling : List Char) : Option Flag := table.lookup (String.ofList spelling)

end Flag

inductive Word where
  | positional (text : String)
  /-- The first `--`, after which every word is positional. -/
  | separator
  /-- An option; `short` if it is given as one letter behind one dash. -/
  | option (flag : Flag) (short : Bool) (value : Option (List Char))
  | unknown (text : String)
deriving DecidableEq

def splitValue (cs : List Char) : List Char × Option (List Char) :=
  (cs.takeWhile (· ≠ '='), Text.after? ['='] (cs.dropWhile (· ≠ '=')))

def isNegativeNumber (cs : List Char) : Bool :=
  match cs with
  | '-' :: rest =>
    let body := if rest.getLast? = some '\n' then rest.dropLast else rest
    let tail := body.dropWhile Text.isDecimal
    match tail with
    | [] => !body.isEmpty
    | '.' :: digits => !digits.isEmpty && digits.all Text.isDecimal
    | _ => false
  | _ => false

/-- The options that a word may abbreviate, with the value behind its equals sign; a single dash
abbreviates nothing, but text behind `-h` counts as its value. -/
def candidates (cs : List Char) : List (String × Word) :=
  match cs with
  | '-' :: '-' :: _ =>
    let (start, value) := splitValue cs
    (Flag.table.filter fun entry => start.isPrefixOf entry.1.toList).map fun entry =>
      (entry.1, .option entry.2 false value)
  | '-' :: 'h' :: rest => [("-h", .option .help true (some rest))]
  | _ => []

def exactOption? (cs : List Char) : Option Word :=
  let short := !(['-', '-'].isPrefixOf cs)
  match Flag.ofSpelling? cs with
  | some flag => some (.option flag short none)
  | none =>
    let (start, value) := splitValue cs
    if value.isSome then (Flag.ofSpelling? start).map (.option · short value) else none

def classify (text : String) : Except UsageFault Word :=
  let cs := text.toList
  if cs.head? ≠ some '-' || cs = ['-'] then .ok (.positional text)
  else match exactOption? cs with
  | some word => .ok word
  | none =>
    match candidates cs with
    | [candidate] => .ok candidate.2
    | [] =>
      if isNegativeNumber cs || cs.contains ' ' then .ok (.positional text)
      else .ok (.unknown text)
    | several => .error (.ambiguous text (several.map (·.1)))

def classifyAll : List String → Except UsageFault (List Word)
  | [] => .ok []
  | text :: rest =>
    if text = "--" then .ok (.separator :: rest.map .positional)
    else do return (← classify text) :: (← classifyAll rest)

/-- Where the next positional word goes. Both positional arguments come from one place: what follows
them there is not known, and a separator next to them is dropped. -/
inductive Slot where
  | first
  | second
  | trailing
  | closed
deriving DecidableEq

structure Reading where
  options : Options := {}
  slot : Slot := .first
  extras : List String := []

namespace Reading

def close (r : Reading) : Reading :=
  { r with slot := if r.slot = .first then .first else .closed }

def extra (r : Reading) (text : String) : Reading := { r with extras := r.extras ++ [text] }

/-- A second positional word that is `--` counts as missing. -/
def positional (r : Reading) (text : String) : Reading :=
  match r.slot with
  | .first =>
    { r with slot := .second, options := { r.options with symbolsFile := some text } }
  | .second =>
    { r with
      slot := .trailing
      options := { r.options with className := if text = "--" then none else some text } }
  | .trailing | .closed => { r.extra text with slot := .closed }

def separator (r : Reading) : Reading :=
  match r.slot with
  | .first | .second => r
  | .trailing => { r with slot := .closed }
  | .closed => r.extra "--"

/-- The last value of an option holds; the value `--` counts as empty. -/
def setValue (r : Reading) (flag : Flag) (value : String) : Reading :=
  let value := if value = "--" then "" else value
  let o := r.options
  { r with
    options :=
      match flag with
      | .scriptName => { o with scriptName := some value }
      | .library => { o with library := some value }
      | .headerFile => { o with headerFile := some value }
      | .outputFolder => { o with outputFolder := some value }
      | .withoutFiles => { o with withoutFiles := true }
      | .help => o }

end Reading

/-- The letters behind `-h` are options of their own, of which only `h` is known. -/
def checkLetters : List Char → Except UsageFault Unit
  | ['h'] => .ok ()
  | 'h' :: rest => checkLetters rest
  | cs => .error (.unexpectedValue Flag.help.names (String.ofList cs))

def checkSwitch (flag : Flag) (short : Bool) (value : Option (List Char)) : Except UsageFault Unit :=
  match value with
  | none => .ok ()
  | some cs =>
    if short then checkLetters cs
    else .error (.unexpectedValue flag.names (String.ofList cs))

inductive Arguments where
  | help
  | options (options : Options)
deriving DecidableEq

/-- Reads words in order. A call for help ends the reading; what comes after it does not matter. -/
def readWords (r : Reading) : List Word → Except UsageFault Arguments
  | [] =>
    if r.extras.isEmpty then .ok (.options r.options) else .error (.unrecognized r.extras)
  | .positional text :: rest => readWords (r.positional text) rest
  | .separator :: rest => readWords r.separator rest
  | .unknown text :: rest => readWords (r.close.extra text) rest
  | .option flag short value :: rest =>
    if flag.takesValue then
      match value, rest with
      | some cs, rest => readWords (r.close.setValue flag (String.ofList cs)) rest
      | none, .positional text :: rest => readWords (r.close.setValue flag text) rest
      | none, _ => .error (.missingValue flag.names)
    else
      match checkSwitch flag short value with
      | .error e => .error e
      | .ok () =>
        if flag = .help then .ok .help else readWords (r.close.setValue flag "") rest

def readArguments (words : List String) : Except UsageFault Arguments :=
  (classifyAll words).bind (readWords {})

end ScriptBinding.Command
