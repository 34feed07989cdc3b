import ScriptBinding.Fault
import ScriptBinding.Text.Blank
import ScriptBinding.Text.Scan
import ScriptBinding.Text.Word

/-!
The lines of a symbol dump: headings of entries, attributes of the entry above, and all others.
-/

namespace ScriptBinding.Dump

open Text

/-- The digits and letters `0-9a-fA-F`. -/
def isHexDigit (c : Char) : Bool :=
  ('0' ≤ c && c ≤ '9') || ('a' ≤ c && c ≤ 'f') || ('A' ≤ c && c ≤ 'F')

def hexValue (cs : List Char) : Nat := ofDigits 16 (cs.filterMap (digitValue? 16))

inductive Line where
  /-- ` <1><2d>: Abbrev Number: 2 (DW_TAG_class_type)`; the tag is missing where the dump ends a list
  of children and where it has no name for the tag. -/
  | entry (depth offset : Nat) (tag : Option String)
  /-- `    <2e>   DW_AT_name        : Led` -/
  | attribute (key value : String)
  | other
deriving DecidableEq

structure Heading where
  depth : List Char
  offset : List Char
  tag : Option String

def readTag? (cs : List Char) : Option String := do
  let cs ← after? " (DW_TAG_".toList cs
  let (tag, cs) ← run? isWord cs
  let _ ← after? [')'] cs
  return String.ofList tag

def readHeading? (cs : List Char) : Option Heading := do
  let cs ← after? ['<'] (trimStart cs)
  let (depth, cs) ← run? isDecimal cs
  let cs ← after? ['>', '<'] cs
  let (offset, cs) ← run? isHexDigit cs
  let cs ← after? ">: Abbrev Number: ".toList cs
  let (_, cs) ← run? isDecimal cs
  return ⟨depth, offset, readTag? cs⟩

/-- The key and the value of an attribute; the value keeps its blanks at the front except one space. -/
def readAttribute? (cs : List Char) : Option (String × String) := do
  let cs ← after? ['<'] (trimStart cs)
  let (_, cs) ← run? isHexDigit cs
  let cs ← after? ['>'] cs
  let (_, cs) ← run? isBlank cs
  let cs ← after? "DW_AT_".toList cs
  let (key, cs) ← run? isWord cs
  let cs ← after? [':'] (trimStart cs)
  let value := (after? [' '] cs).getD cs
  return (String.ofList key, String.ofList (trimEnd value))

/-- What a line says; a heading's depth is limited in its number of digits. -/
def Line.read (cs : List Char) : Except Fault Line :=
  match readHeading? cs with
  | some h =>
    match readDecimal h.depth with
    | .ok depth => .ok (.entry depth.toNat (hexValue h.offset) h.tag)
    | .error (.tooLong digits) => .error (.longNumeral digits)
    | .error .malformed => .ok .other
  | none =>
    match readAttribute? cs with
    | some (key, value) => .ok (.attribute key value)
    | none => .ok .other

end ScriptBinding.Dump
