/-!
Native types as far as values of them can be exchanged with scripts.
-/

namespace ScriptBinding

inductive Category where
  | void
  | bool
  | int
  | float
  | string
  | enum
  | unsupported
  | custom (name : String)
deriving DecidableEq

namespace Category

def word : Category → String
  | void => "void"
  | bool => "bool"
  | int => "int"
  | float => "float"
  | string => "string"
  | enum => "enum"
  | unsupported => "unsupported"
  | custom name => name

/-- The category of a word; every word that names no other category is that of a handler. -/
def ofWord (word : String) : Category :=
  ([void, bool, int, float, string, enum, unsupported].find? (·.word = word)).getD (custom word)

def isScalar : Category → Bool
  | bool | int | float | enum => true
  | _ => false

@[simp] theorem word_ofWord (word : String) : (ofWord word).word = word := by
  unfold ofWord
  cases h : [void, bool, int, float, string, enum, unsupported].find? (·.word = word) with
  | none => rfl
  | some c => simpa using List.find?_some h

end Category

structure Enumeration where
  name : Option String
  values : List (String × Int)
deriving DecidableEq

def Enumeration.hasName (e : Enumeration) : Bool := e.name.getD "" ≠ ""

structure NativeType where
  spelling : Option String
  category : Category
  enumeration : Option Enumeration := none
deriving DecidableEq

namespace NativeType

def isSupported (t : NativeType) : Bool := t.category ≠ .unsupported

def isPassable (t : NativeType) : Bool := t.isSupported && t.category ≠ .void

def text (t : NativeType) : String := t.spelling.getD "None"

def void : NativeType := ⟨some "void", .void, none⟩

def unsupported : NativeType := ⟨some "?", .unsupported, none⟩

end NativeType

end ScriptBinding
