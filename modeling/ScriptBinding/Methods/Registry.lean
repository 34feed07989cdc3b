import ScriptBinding.Code.Fragment
import ScriptBinding.Code.Literal
import ScriptBinding.Fault
import ScriptBinding.Keyed
import ScriptBinding.Methods.Binding

/-!
Enumerations that scripts can use: which ones the bindings refer to, and the code that registers them.
-/

namespace ScriptBinding

open Code

abbrev EnumValues := List (String × Int)

structure Registry where
  enumerations : Keyed String EnumValues := []
  warnings : List String := []

namespace Registry

def conflictWarning (name : String) : String :=
  "  >> warning: enum " ++ name ++ " is referenced with different values, keeping the last one"

/-- A later reference replaces the values of an earlier one. -/
def add (r : Registry) (e : Enumeration) : Registry :=
  let name := e.name.getD "None"
  let differs := (r.enumerations.get? name).any (· ≠ e.values)
  ⟨r.enumerations.put name e.values,
    if differs then r.warnings ++ [conflictWarning name] else r.warnings⟩

def ofBindings (bindings : List Binding) : Registry :=
  (bindings.flatMap (·.enumerations)).foldl add {}

end Registry

def labelCode (label : String) (value : Int) : Except Fault Fragment :=
  match Text.decimal? value with
  | none => .error .longInteger
  | some number => .ok (Fragment.block "\x7b" [
      "jerry_value_t enum_key = " ++ scriptString label ++ ";",
      "jerry_value_t enum_val = jerry_create_number((double) " ++ number ++ ");",
      "jerry_release_value(jerry_set_property(enum_obj, enum_key, enum_val));",
      "jerry_release_value(enum_val);",
      "jerry_release_value(enum_key);"])

def registrationCode (name : String) (values : EnumValues) : Except Fault Fragment :=
  (values.mapM fun (label, value) => labelCode label value).map fun (labels : List Fragment) =>
    Fragment.block "\x7b" (
      ["jerry_value_t enum_obj = jerry_create_object();", ""] ++ labels.flatten ++
      ["",
        "jerry_value_t global_obj = jerry_get_global_object();",
        "jerry_value_t enum_name = " ++ scriptString name ++ ";",
        "jerry_release_value(jerry_set_property(global_obj, enum_name, enum_obj));",
        "jerry_release_value(enum_name);",
        "jerry_release_value(global_obj);",
        "jerry_release_value(enum_obj);"])

end ScriptBinding
