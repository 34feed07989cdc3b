import ScriptBinding.Methods.Target

/-!
The code of a binding as lines of tokens. The tokens tell what a line reads, declares, allocates, releases
and whether it returns, whatever the names in it are.
-/

namespace ScriptBinding

open Code

inductive Variable where
  | nativePointer
  | nativeObject
  | argument (position : Nat)
  | size (position : Nat)
  | result
deriving DecidableEq

def Variable.text : Variable → String
  | nativePointer => "native_ptr"
  | nativeObject => "native_obj"
  | argument position => argumentName position
  | size position => argumentName position ++ "_size"
  | result => "result"

inductive Token where
  | fixed (text : String)
  /-- A name from the dump or the script, or a quoted message. -/
  | given (text : String)
  /-- An argument as the engine passes it. -/
  | input (position : Nat)
  | declared (v : Variable)
  | used (v : Variable)
  | leave
  | allocate
  | release
deriving DecidableEq

namespace Token

def text : Token → String
  | fixed text => text
  | given text => text
  | input position => TypeTable.argument position
  | declared v => v.text
  | used v => v.text
  | leave => "return "
  | allocate => "new char["
  | release => "delete[] "

def input? : Token → Option Nat
  | input position => some position
  | _ => none

def declared? : Token → Option Variable
  | declared v => some v
  | _ => none

def declaredArgument? : Token → Option Nat
  | declared (.argument position) => some position
  | _ => none

def usedArgument? : Token → Option Nat
  | used (.argument position) => some position
  | _ => none

end Token

inductive Stage where
  | comment
  | receiver
  | check
  | read
  | call
  | release
  | result
deriving DecidableEq

def Stage.rank : Stage → Nat
  | comment => 0
  | receiver => 1
  | check => 2
  | read => 3
  | call => 4
  | release => 5
  | result => 6

structure CodeLine where
  stage : Stage
  tokens : List Token

namespace CodeLine

def text (l : CodeLine) : String := (l.tokens.map Token.text).foldr (· ++ ·) ""

def returns (l : CodeLine) : Bool := l.tokens.contains .leave

def checked? (l : CodeLine) : Option Nat :=
  if l.stage = .check then l.tokens.findSome? Token.input? else none

def converted? (l : CodeLine) : Option Nat := l.tokens.findSome? Token.declaredArgument?

def allocated? (l : CodeLine) : Option Nat :=
  if l.tokens.contains .allocate then l.tokens.findSome? Token.declaredArgument? else none

def released? (l : CodeLine) : Option Nat :=
  if l.tokens.contains .release then l.tokens.findSome? Token.usedArgument? else none

def passed (l : CodeLine) : List Nat := l.tokens.filterMap Token.usedArgument?

def declared (l : CodeLine) : List Variable := l.tokens.filterMap Token.declared?

end CodeLine

def refusalTokens (message : String) : List Token :=
  [.fixed "    ", .leave, .fixed "jerry_create_error(JERRY_ERROR_TYPE, (const jerry_char_t*)",
    .given (stringLiteral message), .fixed ")", .fixed ";"]

namespace Target

variable (c : Target)

def receiverLines (m : Method) : List CodeLine :=
  if m.receiver = .thisObject then [
    ⟨.receiver, [.fixed "void* ", .declared .nativePointer, .fixed ";"]⟩,
    ⟨.receiver, [.fixed "if (!jerry_get_object_native_pointer(this_val, &", .used .nativePointer,
      .fixed ", &", .given c.scriptClass.nativeInfo, .fixed ")) \x7b"]⟩,
    ⟨.receiver, refusalTokens
      (c.scriptClass.label m.member ++ ": " ++ ("this is not a " ++ c.scriptClass.name))⟩,
    ⟨.receiver, [.fixed "\x7d"]⟩,
    ⟨.receiver, [.given c.className, .fixed "* ", .declared .nativeObject, .fixed " = static_cast<",
      .given c.className, .fixed "*>(", .used .nativePointer, .fixed ");"]⟩]
  else []

def checkName : Category → String
  | .bool => "!jerry_value_is_boolean("
  | .string => "!jerry_value_is_string("
  | _ => "!jerry_value_is_number("

def checkLines (m : Method) (type : NativeType) (position : Nat) : List CodeLine := [
  ⟨.check, [.fixed "if (", .fixed (checkName type.category), .input position, .fixed ")",
    .fixed ") \x7b"]⟩,
  ⟨.check, refusalTokens (c.scriptClass.label m.member ++ ": " ++
    ("argument " ++ toString position ++ " has the wrong type"))⟩,
  ⟨.check, [.fixed "\x7d"]⟩]

def textLines (position : Nat) : List CodeLine := [
  ⟨.read, [.fixed "jerry_size_t ", .declared (.size position), .fixed " = jerry_get_string_size(",
    .input position, .fixed ");"]⟩,
  ⟨.read, [.fixed "char* ", .declared (.argument position), .fixed " = ", .allocate,
    .used (.size position), .fixed " + 1];"]⟩,
  ⟨.read, [.fixed "jerry_string_to_char_buffer(", .input position, .fixed ", (jerry_char_t*)",
    .used (.argument position), .fixed ", ", .used (.size position), .fixed ");"]⟩,
  ⟨.read, [.used (.argument position), .fixed "[", .used (.size position), .fixed "] = '\\0';"]⟩]

def readLines (type : NativeType) (position : Nat) : List CodeLine :=
  match type.category with
  | .string => textLines position
  | .bool => [⟨.read, [.fixed "bool ", .declared (.argument position),
      .fixed " = jerry_get_boolean_value(", .input position, .fixed ");"]⟩]
  | category => [⟨.read, [.given type.text, .fixed " ", .declared (.argument position), .fixed " = (",
      .given type.text, .fixed (if category = .enum then ")(int)" else ")"),
      .fixed "jerry_get_number_value(", .input position, .fixed ");"]⟩]

def calleeTokens (m : Method) : List Token :=
  match m.receiver with
  | .newObject => [.fixed "new ", .given c.className]
  | .noObject => [.given c.className, .fixed "::", .given m.name]
  | .thisObject => [.used .nativeObject, .fixed "->", .given m.name]

def argumentTokens (count : Nat) : List Token :=
  ((List.range count).map fun position => .used (.argument position)).intersperse (.fixed ", ")

theorem mem_of_mem_intersperse {α : Type} {sep a : α} {l : List α} (h : a ∈ l.intersperse sep) :
    a = sep ∨ a ∈ l := by
  induction l with
  | nil => exact .inr h
  | cons b l ih =>
    cases l with
    | nil => exact .inr h
    | cons b' l =>
      rw [List.intersperse_cons_cons, List.mem_cons, List.mem_cons] at h
      rcases h with rfl | rfl | h
      · exact .inr (by simp)
      · exact .inl rfl
      · exact (ih h).imp_right (List.mem_cons_of_mem _)

theorem mem_argumentTokens {count : Nat} {t : Token} (h : t ∈ argumentTokens count) :
    t = .fixed ", " ∨ ∃ i < count, t = .used (.argument i) := by
  rcases mem_of_mem_intersperse h with h | h
  · exact .inl h
  · obtain ⟨i, hi, rfl⟩ := List.mem_map.mp h
    exact .inr ⟨i, List.mem_range.mp hi, rfl⟩

def holderTokens (m : Method) : List Token :=
  match m.receiver, m.result.category with
  | .newObject, _ => [.given c.className, .fixed "* ", .declared .nativeObject, .fixed " = "]
  | _, .void => []
  | _, _ => [.given m.result.text, .fixed " ", .declared .result, .fixed " = "]

def callTokens (m : Method) : List Token :=
  c.calleeTokens m ++ .fixed "(" :: (argumentTokens m.parameters.length ++ [.fixed ");"])

def callLine (m : Method) : CodeLine := ⟨.call, c.holderTokens m ++ c.callTokens m⟩

def releaseLines (type : NativeType) (position : Nat) : List CodeLine :=
  if type.category = .string then
    [⟨.release, [.release, .used (.argument position), .fixed ";"]⟩]
  else []

def resultTokens (m : Method) : List Token :=
  match m.receiver, m.result.category with
  | .newObject, _ => [.given c.scriptClass.wrapNative, .fixed "(", .used .nativeObject, .fixed ")"]
  | _, .void => [.fixed "jerry_create_undefined()"]
  | _, .bool => [.fixed "jerry_create_boolean(", .used .result, .fixed ")"]
  | _, .string => [.used .result, .fixed " ? jerry_create_string((const jerry_char_t*)", .used .result,
      .fixed ") : jerry_create_null()"]
  | _, _ => [.fixed "jerry_create_number((double)", .used .result, .fixed ")"]

def resultLine (m : Method) : CodeLine := ⟨.result, .leave :: c.resultTokens m ++ [.fixed ";"]⟩

def commentLines (signature : Option String) : List CodeLine :=
  signature.toList.map fun signature => ⟨.comment, [.fixed "// ", .given signature]⟩

/-- The lines of a binding's code, with a comment if a signature is to be shown. -/
def listing (m : Method) (signature : Option String) : List CodeLine :=
  commentLines signature ++ c.receiverLines m ++
    (m.parameters.zipIdx.flatMap fun (type, position) => c.checkLines m type position) ++
    (m.parameters.zipIdx.flatMap fun (type, position) => readLines type position) ++
    [c.callLine m] ++
    (m.parameters.zipIdx.flatMap fun (type, position) => releaseLines type position) ++
    [c.resultLine m]

end Target

end ScriptBinding
