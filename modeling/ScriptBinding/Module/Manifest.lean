import ScriptBinding.Text.Quoted

/-!
The manifest of a module: JSON in ASCII, indented by two spaces.
-/

namespace ScriptBinding.Manifest

open Text

def unitEscape (n : Nat) : List Char := '\\' :: 'u' :: hexDigits 4 n

/-- A character in a JSON string; beyond U+FFFF it takes two code units. -/
def jsonChar (c : Char) : List Char :=
  let n := c.toNat
  if c = '"' || c = '\\' then ['\\', c]
  else if c = '\n' then ['\\', 'n']
  else if c = '\r' then ['\\', 'r']
  else if c = '\t' then ['\\', 't']
  else if c = '\x0c' then ['\\', 'f']
  else if c = '\x08' then ['\\', 'b']
  else if 0x20 ≤ n && n ≤ 0x7e then [c]
  else if n < 0x10000 then unitEscape n
  else unitEscape (0xd800 + (n - 0x10000) / 0x400) ++ unitEscape (0xdc00 + (n - 0x10000) % 0x400)

def jsonString (text : String) : String :=
  "\"" ++ String.ofList (text.toList.flatMap jsonChar) ++ "\""

def manifest (library init : String) : String :=
  String.intercalate "\n" [
    "\x7b",
    "  \"modules\": \x7b",
    "    " ++ jsonString library ++ ": \x7b",
    "      \"native_files\": [],",
    "      \"init\": " ++ jsonString init ++ ",",
    "      \"cmakefile\": \"module.cmake\"",
    "    \x7d",
    "  \x7d",
    "\x7d",
    ""]

end ScriptBinding.Manifest
