/-!
The names that debug information gives to the fundamental types.
-/

namespace ScriptBinding.Code

def integerTypes : List String := [
  "char", "signed char", "unsigned char",
  "short", "short int", "short unsigned int", "unsigned short",
  "int", "unsigned int", "unsigned",
  "long", "long int", "long unsigned int", "unsigned long",
  "long long", "long long int", "long long unsigned int", "unsigned long long",
  "wchar_t", "char16_t", "char32_t"]

def floatTypes : List String := ["float", "double", "long double"]

def charTypes : List String := ["char", "signed char", "unsigned char"]

def isIntegerType (name : String) : Bool := integerTypes.contains name

def isFloatType (name : String) : Bool := floatTypes.contains name

def isCharType (name : String) : Bool := charTypes.contains name

end ScriptBinding.Code
