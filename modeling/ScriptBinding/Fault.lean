import ScriptBinding.Text.Numeral
import ScriptBinding.Text.Quoted

/-!
Why no module can be made.
-/

namespace ScriptBinding

inductive Fault where
  /-- A depth in the dump has this many digits. -/
  | longNumeral (digits : Nat)
  /-- An enumerator's value is too long to be written. -/
  | longInteger
  | malformedConstant (token : String)
  | emptyConstant
  /-- The parameter at this position has a type without a name. -/
  | namelessParameterType (position : Nat)
  | namelessClass
  | cyclicType
  | cyclicPointee
  | noConversionFromScript (spelling : String)
  | noConversionToScript (spelling : String)
  | classNotFound (name : String)
  | noDestructor (className : String)
  | noNativeWrapper (className : String)
deriving DecidableEq

namespace Fault

def digitLimit : String :=
  "Exceeds the limit (" ++ toString Text.maxDigits ++ " digits) for integer string conversion"

def digitAdvice : String := "use sys.set_int_max_str_digits() to increase the limit"

/-- The message; of a long token only the first two hundred quoted characters are shown. -/
def message : Fault → String
  | longNumeral digits => digitLimit ++ s!": value has {digits} digits; " ++ digitAdvice
  | longInteger => digitLimit ++ "; " ++ digitAdvice
  | malformedConstant token =>
    "invalid literal for int() with base 16: " ++
      String.ofList ((Text.quotedChars token.toList).take 200)
  | emptyConstant => "list index out of range"
  | namelessParameterType position =>
    s!"sequence item {position}: expected str instance, NoneType found"
  | namelessClass => "argument of type 'NoneType' is not iterable"
  | cyclicType => "type references form a cycle"
  | cyclicPointee => "the types behind a pointer form a cycle"
  | noConversionFromScript spelling => s!"cannot convert {spelling} from JavaScript"
  | noConversionToScript spelling => s!"cannot convert {spelling} to JavaScript"
  | classNotFound name => "Could not find object '" ++ name ++ "'. Are you sure it's linked in?"
  | noDestructor className => s!"no destructor fragment for {className}"
  | noNativeWrapper className => s!"no native wrapper fragment for {className}"

end Fault

end ScriptBinding
