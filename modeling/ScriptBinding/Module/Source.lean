import ScriptBinding.Methods.Dispatcher
import ScriptBinding.Methods.Registry

/-!
The source file of a module, section by section.
-/

namespace ScriptBinding

open Code

/-- All that a module is made from. The two fragments are missing where none has been generated. -/
structure Plan where
  className : String
  scriptClass : ScriptClass
  headerLine : String
  destructor : Option String
  nativeWrapper : Option String
  methods : List Dispatcher
  constructor : Dispatcher
  enumerations : Keyed String EnumValues

inductive Section where
  | preamble (headerLine : String)
  | fragment (text : String)
  | dispatcher (d : Dispatcher) (label title : String)
  | initializer (code : Fragment)

namespace Plan

variable (p : Plan)

def provenance : String := "/* machine generated by gen-js-wrapper, do not edit */"

/-- The parameters of every function that the engine calls. -/
def callParameters : String :=
  "(const jerry_value_t function_obj, const jerry_value_t this_val, " ++
    "const jerry_value_t args_p[], const jerry_length_t args_count)"

/-- The block that runs an overload if the number of arguments is its own, which is written in full:
the limit on the digits of a value is left out here, since no list of parameters is that long. -/
def guardCode (b : Binding) : Fragment :=
  Fragment.block ("if (args_count == " ++ toString b.arity ++ ") \x7b") (Fragment.ofText b.body)

/-- The body of a dispatcher: the first overload that takes the number of arguments wins. -/
def selection (d : Dispatcher) (label : String) : Fragment :=
  d.overloads.flatMap guardCode ++
    ["return " ++ scriptTypeError (label ++ ": unexpected number of arguments") ++ ";"]

def dispatcherHeader (d : Dispatcher) : String :=
  "jerry_value_t " ++ d.functionName ++ callParameters ++ " \x7b"

/-- The comment before a dispatcher names the native methods behind it. -/
def dispatcherComment (d : Dispatcher) (title : String) : Fragment :=
  ["/**", " * " ++ title] ++
    (d.overloads.filter (·.signature ≠ "")).map
      (fun b => " *   " ++ p.className ++ "::" ++ b.signature) ++
    [" */"]

def dispatcherCode (d : Dispatcher) (label title : String) : Fragment :=
  p.dispatcherComment d title ++ Fragment.block (dispatcherHeader d) (selection d label)

/-- The function that the engine calls first, which registers the enumerations and returns the
constructor. -/
def initializerCode : Except Fault Fragment :=
  (p.enumerations.mapM fun (name, values) => registrationCode name values).map
      fun (registrations : List Fragment) =>
    Fragment.block ("extern \"C\" jerry_value_t " ++ p.scriptClass.init ++ "() \x7b")
      (registrations.flatMap (· ++ [""]) ++
        ["return jerry_create_external_function(" ++ p.constructor.functionName ++ ");"])

/-- Every section ends with an empty line. -/
def sectionCode (s : Section) : Fragment :=
  match s with
  | .preamble headerLine => [provenance, "", "#include \"jerryscript.h\"", "", headerLine, ""]
  | .fragment text => Fragment.ofText text ++ [""]
  | .dispatcher d label title => p.dispatcherCode d label title ++ [""]
  | .initializer code => code ++ [""]

def methodSection (d : Dispatcher) : Section :=
  let label := p.scriptClass.name ++ "#" ++ d.member.text
  .dispatcher d label (label ++ " (native JavaScript method)")

def constructorSection : Section :=
  .dispatcher p.constructor p.scriptClass.name
    (p.scriptClass.name ++ " (native JavaScript constructor)")

/-- The sections in their order: each defines what later ones use. -/
def sections (destructor nativeWrapper : String) (initializer : Fragment) : List Section :=
  [.preamble p.headerLine, .fragment destructor] ++ p.methods.map p.methodSection ++
    [.fragment nativeWrapper, p.constructorSection, .initializer initializer]

def sourceCode (destructor nativeWrapper : String) : Except Fault Fragment :=
  p.initializerCode.map fun initializer =>
    (p.sections destructor nativeWrapper initializer).flatMap p.sectionCode

end Plan

end ScriptBinding
