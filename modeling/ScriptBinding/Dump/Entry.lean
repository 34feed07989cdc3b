import ScriptBinding.Keyed
import ScriptBinding.Dump.Line

/-!
Entries of a symbol dump with their attributes, and what the attributes mean.
-/

namespace ScriptBinding.Dump

open Text

inductive Access where
  | isPublic
  | isProtected
  | isPrivate
deriving DecidableEq

def Access.word : Access → String
  | isPublic => "public"
  | isProtected => "protected"
  | isPrivate => "private"

structure Entry where
  tag : String
  offset : Nat
  depth : Nat
  attributes : Keyed String String
deriving DecidableEq

/-- Where a reader of string forms stands: before the first, in one, or behind one. -/
inductive FormPlace where
  | outside
  | inside
  | behind

/-- What follows the forms in which a string is stored, each in parentheses, and the colon after
them. -/
def afterForms? : FormPlace → List Char → Option (List Char)
  | _, [] => none
  | .outside, c :: cs => if c = '(' then afterForms? .inside cs else none
  | .inside, c :: cs => if c = ')' then afterForms? .behind cs else afterForms? .inside cs
  | .behind, c :: cs =>
    if c = '(' then afterForms? .inside cs
    else if c = ':' then some (trimStart cs)
    else if isBlank c then afterForms? .behind cs
    else none

def withoutForms (value : String) : String :=
  String.ofList (trim ((afterForms? .outside value.toList).getD value.toList))

/-- `(public)`, `(protected)` or `(private)` at the front. -/
def readAccess? (cs : List Char) : Option Access :=
  [Access.isPublic, .isProtected, .isPrivate].find? fun a =>
    (after? ('(' :: a.word.toList ++ [')']) cs).isSome

/-- `<0x95>` at the front. -/
def readReference? (cs : List Char) : Option Nat := do
  let cs ← after? "<0x".toList cs
  let (digits, cs) ← run? isHexDigit cs
  let _ ← after? ['>'] cs
  return hexValue digits

/-- The integer that a constant starts with: decimal, or else hexadecimal. -/
def readConstant (value : List Char) : Except Fault Int :=
  match firstWord? value with
  | none => .error .emptyConstant
  | some word =>
    match readDecimal word with
    | .ok z => .ok z
    | .error _ =>
      match readHexadecimal? word with
      | some z => .ok z
      | none => .error (.malformedConstant (String.ofList word))

namespace Entry

def attribute? (e : Entry) (key : String) : Option String := e.attributes.get? key

def name? (e : Entry) : Option String := (e.attribute? "name").map withoutForms

def access? (e : Entry) : Option Access :=
  (e.attribute? "accessibility").bind fun value => firstRead? readAccess? value.toList

/-- The offset of the type that the entry refers to. -/
def typeReference? (e : Entry) : Option Nat :=
  (e.attribute? "type").bind fun value => firstRead? readReference? value.toList

def isArtificial (e : Entry) : Bool :=
  match e.attribute? "artificial" with
  | none => false
  | some value => (trim value.toList).head? = some '1'

def constant? (e : Entry) : Except Fault (Option Int) :=
  match e.attribute? "const_value" with
  | none => .ok none
  | some value => (readConstant value.toList).map some

def isScope (e : Entry) : Bool :=
  ["class_type", "structure_type", "union_type", "namespace"].contains e.tag

end Entry

/-- Entries read from the end of a dump, and the attributes read since the last heading. -/
structure Gathered where
  attributes : List (String × String) := []
  entries : List Entry := []

/-- Attributes belong to the tagged heading above them. -/
def gather (line : Line) (g : Gathered) : Gathered :=
  match line with
  | .entry depth offset (some tag) =>
    ⟨[], ⟨tag, offset, depth, .ofPairs g.attributes⟩ :: g.entries⟩
  | .entry _ _ none => ⟨[], g.entries⟩
  | .attribute key value => ⟨(key, value) :: g.attributes, g.entries⟩
  | .other => g

def entriesOf (lines : List Line) : List Entry := (lines.foldr gather {}).entries

end ScriptBinding.Dump
