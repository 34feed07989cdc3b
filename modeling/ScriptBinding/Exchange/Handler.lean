import ScriptBinding.Text.Scan
import ScriptBinding.Exchange.NativeType

/-!
Conversions that a caller supplies for types of its own.
-/

namespace ScriptBinding

/-- What is converted: the argument at a position, or a variable, of a type. A caller may ask about any
position. -/
structure Site where
  position : Int
  name : String
  type : NativeType

/-- The test that rejects an argument, the lines that declare a variable from it, and the expression
that turns a variable into a script value. -/
structure Handler where
  check : Site → String
  toNative : Site → String
  toScript : Site → String

def fillTemplate (template : String) (site : Site) : String :=
  Text.replace "\x7bcategory\x7d" site.type.category.word <|
    Text.replace "\x7bspelling\x7d" site.type.text <|
      Text.replace "\x7bvar\x7d" site.name <|
        Text.replace "\x7bidx\x7d" (toString site.position) template

def Handler.ofTemplates (check toNative toScript : String) : Handler :=
  ⟨fillTemplate check, fillTemplate toNative, fillTemplate toScript⟩

end ScriptBinding
