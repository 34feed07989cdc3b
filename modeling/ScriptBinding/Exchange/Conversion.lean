import ScriptBinding.Code.Fragment
import ScriptBinding.Exchange.Description

/-!
The code that checks, reads and releases the arguments of a call and returns its result.
-/

namespace ScriptBinding.TypeTable

open Code

variable (t : TypeTable)

/-- The handler of a type's category, whichever name the type itself has. -/
def handlerOf? (info : NativeType) : Option Handler := t.handlers.get? info.category.word

def argument (position : Int) : String := "args_p[" ++ toString position ++ "]"

def check (info : NativeType) (position : Int) : String :=
  match t.handlerOf? info with
  | some handler => handler.check ⟨position, "", info⟩
  | none =>
    match info.category with
    | .bool => "!jerry_value_is_boolean(" ++ argument position ++ ")"
    | .string => "!jerry_value_is_string(" ++ argument position ++ ")"
    | _ => "!jerry_value_is_number(" ++ argument position ++ ")"

def readText (position : Int) (name : String) : Fragment :=
  let source := argument position
  ["jerry_size_t " ++ name ++ "_size = jerry_get_string_size(" ++ source ++ ");",
    "char* " ++ name ++ " = new char[" ++ name ++ "_size + 1];",
    "jerry_string_to_char_buffer(" ++ source ++ ", (jerry_char_t*)" ++ name ++ ", " ++ name ++
      "_size);",
    name ++ "[" ++ name ++ "_size] = '\\0';"]

def readArgument (info : NativeType) (position : Int) (name : String) : Except Fault Fragment :=
  match t.handlerOf? info with
  | some handler => .ok (Fragment.ofText (handler.toNative ⟨position, name, info⟩))
  | none =>
    let source := argument position
    let number := "jerry_get_number_value(" ++ source ++ ");"
    match info.category with
    | .bool => .ok ["bool " ++ name ++ " = jerry_get_boolean_value(" ++ source ++ ");"]
    | .int | .float => .ok [info.text ++ " " ++ name ++ " = (" ++ info.text ++ ")" ++ number]
    | .enum => .ok [info.text ++ " " ++ name ++ " = (" ++ info.text ++ ")(int)" ++ number]
    | .string => .ok (readText position name)
    | _ => .error (.noConversionFromScript info.text)

def release (info : NativeType) (name : String) : Fragment :=
  match info.category with
  | .string => ["delete[] " ++ name ++ ";"]
  | _ => []

def toScript (info : NativeType) (name : String) : Except Fault String :=
  match t.handlerOf? info with
  | some handler => .ok (handler.toScript ⟨0, name, info⟩)
  | none =>
    match info.category with
    | .void => .ok "jerry_create_undefined()"
    | .bool => .ok ("jerry_create_boolean(" ++ name ++ ")")
    | .int | .float | .enum => .ok ("jerry_create_number((double)" ++ name ++ ")")
    | .string =>
      .ok (name ++ " ? jerry_create_string((const jerry_char_t*)" ++ name ++
        ") : jerry_create_null()")
    | _ => .error (.noConversionToScript info.text)

end ScriptBinding.TypeTable
