import ScriptBinding.Code.Literal
import ScriptBinding.Exchange.Conversion
import ScriptBinding.Methods.Dispatcher

/-!
A class to be bound: which of its methods scripts can call, and the code for them and for the class.
-/

namespace ScriptBinding

open Code Dump

structure Target where
  types : TypeTable
  place : Nat
  scriptClass : ScriptClass

inductive Receiver where
  | newObject
  | noObject
  | thisObject
deriving DecidableEq

structure Method where
  name : String
  receiver : Receiver
  parameters : List NativeType
  result : NativeType

def Method.member (m : Method) : Member :=
  match m.receiver with
  | .newObject => .constructor
  | _ => .method m.name

structure MethodBody where
  comment : Fragment
  receiver : Fragment
  checks : List Fragment
  reads : List Fragment
  call : String
  releases : List Fragment
  result : String

def MethodBody.code (b : MethodBody) : Fragment :=
  b.comment ++ b.receiver ++ b.checks.flatten ++ b.reads.flatten ++ [b.call] ++
    b.releases.flatten ++ [b.result]

def argumentName (position : Nat) : String := "arg" ++ toString position

def joinSpellings (parameters : List NativeType) : Except Fault String :=
  match parameters.findIdx? (·.spelling.isNone) with
  | some position => .error (.namelessParameterType position)
  | none => .ok (String.intercalate ", " (parameters.map (·.text)))

def signatureOf (name : Option String) (parameters : List NativeType) : Except Fault String :=
  (joinSpellings parameters).map fun spellings => name.getD "None" ++ "(" ++ spellings ++ ")"

namespace Target

variable (c : Target)

def tree : Tree := c.types.tree

def className? : Option String := c.tree.qualifiedName? c.place

def className : String := c.className?.getD "None"

def allParameters (method : Nat) : List Nat := c.tree.childrenTagged "formal_parameter" method

def isArtificial (i : Nat) : Bool := c.tree.nodes[i]?.any (·.isArtificial)

def parameters (method : Nat) : List Nat :=
  (c.allParameters method).filter fun p => !c.isArtificial p

/-- A static method lacks the parameter that the compiler adds for the object. -/
def isStatic (method : Nat) : Bool := !(c.allParameters method).any c.isArtificial

def describeParameters (method : Nat) : Except Fault (List NativeType) :=
  (c.parameters method).mapM fun p => c.types.describe (c.tree.typeReference? p)

def describeResult (method : Nat) : Except Fault NativeType :=
  c.types.describe (c.tree.typeReference? method)

def signature (method : Nat) : Except Fault String :=
  (c.describeParameters method).bind (signatureOf (c.tree.name? method))

/-- A method's name, if it is a plain identifier and the list of parameters is fixed. -/
def callableName? (method : Nat) : Option String :=
  if (c.tree.childrenTagged "unspecified_parameters" method).isEmpty then
    (c.tree.name? method).filter isIdentifier
  else none

def receiverOf (className name : String) (method : Nat) : Receiver :=
  if name = templateName className then .newObject
  else if c.isStatic method then .noObject
  else .thisObject

/-- Accepts a method if values can be given for all parameters and, unless it is the constructor, its
result can be returned. -/
def accept (method : Nat) : Except Fault (Option Method) :=
  match c.callableName? method, c.tree.name? c.place with
  | none, _ => .ok none
  | some _, none => .error .namelessClass
  | some name, some className =>
    let receiver := c.receiverOf className name method
    (c.describeParameters method).bind fun parameters =>
      if parameters.all (·.isPassable) then
        (c.describeResult method).map fun result =>
          if receiver = .newObject || result.isSupported then
            some ⟨name, receiver, parameters, result⟩
          else none
      else .ok none

def complaint (m : Method) (text : String) : String :=
  "return " ++ scriptTypeError (c.scriptClass.label m.member ++ ": " ++ text) ++ ";"

def receiverCode (m : Method) : Fragment :=
  match m.receiver with
  | .thisObject =>
    "void* native_ptr;" ::
      Fragment.block ("if (!jerry_get_object_native_pointer(this_val, &native_ptr, &" ++
          c.scriptClass.nativeInfo ++ ")) \x7b")
        [c.complaint m ("this is not a " ++ c.scriptClass.name)] ++
      [c.className ++ "* native_obj = static_cast<" ++ c.className ++ "*>(native_ptr);"]
  | _ => []

def checkCode (m : Method) (type : NativeType) (position : Nat) : Fragment :=
  Fragment.block ("if (" ++ c.types.check type position ++ ") \x7b")
    [c.complaint m ("argument " ++ toString position ++ " has the wrong type")]

def readCode (type : NativeType) (position : Nat) : Except Fault Fragment :=
  c.types.readArgument type position (argumentName position)

def releaseCode (type : NativeType) (position : Nat) : Fragment :=
  TypeTable.release type (argumentName position)

def callee (m : Method) : String :=
  match m.receiver with
  | .newObject => "new " ++ c.className
  | .noObject => c.className ++ "::" ++ m.name
  | .thisObject => "native_obj->" ++ m.name

def call (m : Method) : String :=
  let names := (List.range m.parameters.length).map argumentName
  c.callee m ++ "(" ++ String.intercalate ", " names ++ ");"

def callAndResult (m : Method) : Except Fault (String × String) :=
  match m.receiver, m.result.category with
  | .newObject, _ =>
    .ok (c.className ++ "* native_obj = " ++ c.call m,
      "return " ++ c.scriptClass.wrapNative ++ "(native_obj);")
  | _, .void => .ok (c.call m, "return jerry_create_undefined();")
  | _, _ => (c.types.toScript m.result "result").map fun value =>
    (m.result.text ++ " result = " ++ c.call m, "return " ++ value ++ ";")

def commentOf (m : Method) (isOverloaded : Bool) : Except Fault Fragment :=
  if isOverloaded then
    (signatureOf (some m.name) m.parameters).map fun signature => ["// " ++ signature]
  else .ok []

def bodyOf (m : Method) (isOverloaded : Bool) : Except Fault MethodBody := do
  let numbered := m.parameters.zipIdx
  let comment ← commentOf m isOverloaded
  let reads ← numbered.mapM fun (type, position) => c.readCode type position
  let (call, result) ← c.callAndResult m
  return {
    comment
    receiver := c.receiverCode m
    checks := numbered.map fun (type, position) => c.checkCode m type position
    reads
    call
    releases := numbered.map fun (type, position) => releaseCode type position
    result }

def enumerationsOf (m : Method) : List Enumeration :=
  ((m.parameters ++ [m.result]).filterMap (·.enumeration)).filter (·.hasName)

def bind (m : Method) (isOverloaded : Bool) : Except Fault Binding := do
  let body ← c.bodyOf m isOverloaded
  let signature ← signatureOf (some m.name) m.parameters
  return ⟨m.member, m.parameters.length, body.code.toText, enumerationsOf m, signature⟩

def hasNamesake (name : String) (method : Nat) (siblings : List Nat) : Bool :=
  siblings.any fun s => s ≠ method && c.tree.name? s = some name

/-- The binding of a method among its siblings, if it is accepted. -/
def binding? (method : Nat) (siblings : List Nat) : Except Fault (Option Binding) :=
  (c.accept method).bind fun accepted =>
    match accepted with
    | none => .ok none
    | some m => (c.bind m (c.hasNamesake m.name method siblings)).map some

def destructorCode : Fragment :=
  ["/**", " * " ++ c.scriptClass.name ++ "#destructor", " */"] ++
    Fragment.block ("void " ++ c.scriptClass.destructor ++ "(void* native_p) \x7b")
      ["delete static_cast<" ++ c.className ++ "*>(native_p);"] ++
    ["", "static const jerry_object_native_info_t " ++ c.scriptClass.nativeInfo ++ " = \x7b " ++
      c.scriptClass.destructor ++ " \x7d;"]

def propertyCode (d : Dispatcher) : Fragment :=
  "" :: Fragment.block "\x7b" [
    "jerry_value_t prop_name = " ++ scriptString d.member.text ++ ";",
    "jerry_value_t prop_fn = jerry_create_external_function(" ++ d.functionName ++ ");",
    "jerry_release_value(jerry_set_property(js_obj, prop_name, prop_fn));",
    "jerry_release_value(prop_fn);",
    "jerry_release_value(prop_name);"]

def nativeWrapperCode (methods : List Dispatcher) : Fragment :=
  ["/**", " * Wrap a native " ++ c.className ++ " in a JavaScript object", " */"] ++
    Fragment.block
      ("jerry_value_t " ++ c.scriptClass.wrapNative ++ "(" ++ c.className ++ "* native_obj) \x7b")
      (["jerry_value_t js_obj = jerry_create_object();",
          "jerry_set_object_native_pointer(js_obj, native_obj, &" ++ c.scriptClass.nativeInfo ++
            ");"] ++
        methods.flatMap propertyCode ++ ["", "return js_obj;"])

end Target

end ScriptBinding
