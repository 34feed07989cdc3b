/-!
String literals, and the expressions of the engine's interface that hold one.
-/

namespace ScriptBinding.Code

def escapeChar (c : Char) : List Char := if c = '\\' || c = '"' then ['\\', c] else [c]

def escapeChars (cs : List Char) : List Char := cs.flatMap escapeChar

def stringLiteral (text : String) : String :=
  "\"" ++ String.ofList (escapeChars text.toList) ++ "\""

def scriptString (text : String) : String :=
  "jerry_create_string((const jerry_char_t*)" ++ stringLiteral text ++ ")"

def scriptTypeError (message : String) : String :=
  "jerry_create_error(JERRY_ERROR_TYPE, (const jerry_char_t*)" ++ stringLiteral message ++ ")"

@[simp] theorem escapeChars_nil : escapeChars [] = [] := rfl

@[simp] theorem escapeChars_cons (c : Char) (cs : List Char) :
    escapeChars (c :: cs) = escapeChar c ++ escapeChars cs := by simp [escapeChars]

end ScriptBinding.Code
