import ScriptBinding.Code.Identifier
import ScriptBinding.Exchange.NativeType

/-!
Methods bound for scripts, and the names of the functions generated for a class.
-/

namespace ScriptBinding

inductive Member where
  | constructor
  | method (name : String)
deriving DecidableEq

/-- The constructor is written as a text that is no identifier. -/
def Member.text : Member → String
  | constructor => "<ctor>"
  | method name => name

def Member.ofText (text : String) : Member :=
  if text = constructor.text then constructor else method text

/-- A native method with the code that calls it with the arguments of a script. Code for a number of
arguments that no call has is never run. The number counts parameters that a list holds, so it never
reaches the length from which a value of an enumeration is no longer written. -/
structure Binding where
  member : Member
  arity : Int
  body : String
  enumerations : List Enumeration := []
  signature : String := ""
deriving DecidableEq

structure ScriptClass where
  name : String
deriving DecidableEq

namespace ScriptClass

variable (c : ScriptClass)

def ident : String := Code.identifierOf c.name

def nativeInfo : String := c.ident ++ "_native_info"

def destructor : String := "Destruct_" ++ c.ident

def wrapNative : String := c.ident ++ "_wrap_native"

def constructor : String := "Construct_" ++ c.ident

def init : String := "Init" ++ c.ident

def helpers : List String := [c.destructor, c.nativeInfo, c.wrapNative]

def label (member : Member) : String :=
  match member with
  | .constructor => c.name
  | .method name => c.name ++ "#" ++ name

end ScriptClass

@[simp] theorem Member.text_ofText (text : String) : (ofText text).text = text := by
  unfold ofText
  split
  · next h => exact h.symm
  · rfl

end ScriptBinding
