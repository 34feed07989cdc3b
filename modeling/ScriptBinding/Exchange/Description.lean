import ScriptBinding.Code.Scalar
import ScriptBinding.Dump.Tree
import ScriptBinding.Exchange.Handler

/-!
What a type reference of a symbol tree stands for. Names for types, qualifiers and references to
constants are links to a further type; a description follows them to their end and goes back. A chain
may be of any length: no bound on the depth of a description is set here, and only a cycle is refused.
-/

namespace ScriptBinding

open Dump

structure TypeTable where
  tree : Tree
  handlers : Keyed String Handler := []

inductive TypeKind where
  | fundamental
  | typedef
  | constant
  | volatile
  | reference
  | pointer
  | enumeration
  | other
deriving DecidableEq

def TypeKind.ofTag : String → TypeKind
  | "base_type" => fundamental
  | "typedef" => typedef
  | "const_type" => constant
  | "volatile_type" => volatile
  | "reference_type" | "rvalue_reference_type" => reference
  | "pointer_type" => pointer
  | "enumeration_type" => enumeration
  | _ => other

inductive Layer where
  | typedef (qualified bare : Option String)
  /-- A qualifier, which does not matter for a copy. -/
  | qualifier
  /-- A reference to a constant, which only a scalar can be passed by. -/
  | constReference
deriving DecidableEq

/-- An enumeration without a name takes that of the type definition. -/
def Enumeration.named (e : Enumeration) (name : Option String) : Enumeration :=
  if e.hasName then e else { e with name }

def Layer.apply : Layer → NativeType → NativeType
  | typedef qualified bare, inner =>
    if inner.category.isScalar then
      ⟨qualified, inner.category, inner.enumeration.map (·.named bare)⟩
    else inner
  | qualifier, inner => inner
  | constReference, inner => if inner.category.isScalar then inner else .unsupported

inductive Link where
  | ends (description : Except Fault NativeType)
  | through (layer : Layer) (next : Option Nat)

namespace TypeTable

variable (t : TypeTable)

def hasHandler (name : String) : Bool := t.handlers.has name

def find (reference : Option Nat) : Option Nat := reference.bind t.tree.lookup

def kind (i : Nat) : TypeKind := ((t.tree.nodes[i]?).map (TypeKind.ofTag ·.tag)).getD .other

def fundamental (name : Option String) : NativeType :=
  match name with
  | none => .unsupported
  | some name =>
    if name = "bool" then ⟨name, .bool, none⟩
    else if Code.isIntegerType name then ⟨name, .int, none⟩
    else if Code.isFloatType name then ⟨name, .float, none⟩
    else .unsupported

def enumerator (i : Nat) : Except Fault (Option (String × Int)) :=
  match t.tree.nodes[i]?, t.tree.name? i with
  | some n, some label => n.constant?.map fun z => z.map (label, ·)
  | _, _ => .ok none

def enumeration (i : Nat) : Except Fault NativeType := do
  let values ← (t.tree.childrenTagged "enumerator" i).mapM t.enumerator
  let spelling := ((t.tree.qualifiedName? i).filter (· ≠ "")).getD "int"
  return ⟨spelling, .enum, some ⟨(t.tree.name? i).getD "", values.filterMap id⟩⟩

/-- The entry that a pointer leads to behind qualifiers and type definitions, and whether one of
these is `const`; at most `fuel` are passed. -/
def pointeeWithin : Nat → Bool → Option Nat → Except Fault (Bool × Option Nat)
  | fuel, isConst, reference =>
    match t.find reference with
    | none => .ok (isConst, none)
    | some i =>
      match t.kind i, fuel with
      | .constant, fuel + 1 => pointeeWithin fuel true (t.tree.typeReference? i)
      | .volatile, fuel + 1 => pointeeWithin fuel isConst (t.tree.typeReference? i)
      | .typedef, fuel + 1 => pointeeWithin fuel isConst (t.tree.typeReference? i)
      | .constant, 0 | .volatile, 0 | .typedef, 0 => .error .cyclicPointee
      | _, _ => .ok (isConst, some i)

/-- The entry that a pointer leads to; a chain longer than the tree is a cycle. -/
def pointee (i : Nat) : Except Fault (Bool × Option Nat) :=
  t.pointeeWithin t.tree.size false (t.tree.typeReference? i)

def pointer (i : Nat) : Except Fault NativeType :=
  (t.pointee i).map fun (isConst, target) =>
    let isText := target.any fun j =>
      t.kind j = .fundamental && (t.tree.name? j).any Code.isCharType
    if isText then ⟨some (if isConst then "const char*" else "char*"), .string, none⟩
    else .unsupported

def linkOf (i : Nat) : Link :=
  let name := t.tree.qualifiedName? i
  match name.filter t.hasHandler with
  | some name => .ends (.ok ⟨name, .ofWord name, none⟩)
  | none =>
    let next := t.tree.typeReference? i
    match t.kind i with
    | .fundamental => .ends (.ok (fundamental name))
    | .typedef => .through (.typedef name (t.tree.name? i)) next
    | .constant | .volatile => .through .qualifier next
    | .reference =>
      match (t.find next).filter (t.kind · = .constant) with
      | some target => .through .constReference (t.tree.typeReference? target)
      | none => .ends (.ok .unsupported)
    | .pointer => .ends (t.pointer i)
    | .enumeration => .ends (t.enumeration i)
    | .other => .ends (.ok .unsupported)

/-- No reference is `void`, and one that leads nowhere is not supported. -/
def link (reference : Option Nat) : Link :=
  match reference with
  | none => .ends (.ok .void)
  | some offset =>
    match t.tree.lookup offset with
    | none => .ends (.ok .unsupported)
    | some i => t.linkOf i

def describeWithin : Nat → Option Nat → Except Fault NativeType
  | fuel, reference =>
    match t.link reference, fuel with
    | .ends description, _ => description
    | .through layer next, fuel + 1 => (describeWithin fuel next).map layer.apply
    | .through _ _, 0 => .error .cyclicType

/-- The type that a reference stands for; a chain of more links than the tree has nodes is a cycle. -/
def describe (reference : Option Nat) : Except Fault NativeType :=
  t.describeWithin t.tree.size reference

end TypeTable

end ScriptBinding
