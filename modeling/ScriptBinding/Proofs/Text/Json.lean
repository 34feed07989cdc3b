import Mathlib.Data.List.Forall2
import Mathlib.Tactic.SplitIfs
import ScriptBinding.Dump.Line
import ScriptBinding.Proofs.Text.Pieces
import ScriptBinding.Text.Quoted

/-!
Reading JSON, as far as it is made of texts, lists and objects. Characters become tokens in one pass; in a text an
escape by number stands for a code unit, and two units that form a surrogate pair for one character.
-/

namespace ScriptBinding.Json

open Text

inductive Mark where
  | openObject
  | closeObject
  | openList
  | closeList
  | colon
  | comma
deriving DecidableEq

inductive Token where
  | mark (m : Mark)
  | text (s : String)
deriving DecidableEq

inductive Value where
  | text (s : String)
  | list (items : List Value)
  | object (members : List (String × Value))

def Mark.ofChar? : Char → Option Mark
  | '\x7b' => some openObject
  | '\x7d' => some closeObject
  | '[' => some openList
  | ']' => some closeList
  | ':' => some colon
  | ',' => some comma
  | _ => none

def isSpace (c : Char) : Bool := c = ' ' || c = '\t' || c = '\n' || c = '\r'

def escape? : Char → Option Char
  | '"' => some '"'
  | '\\' => some '\\'
  | '/' => some '/'
  | 'b' => some '\x08'
  | 'f' => some '\x0c'
  | 'n' => some '\n'
  | 'r' => some '\r'
  | 't' => some '\t'
  | _ => none

def hexDigit? (c : Char) : Option Nat := if Dump.isHexDigit c then digitValue? 16 c else none

/-- Code points from code units: a high surrogate and a low one behind it make one. -/
def codePoints : List Nat → List Nat
  | high :: low :: units =>
    if (0xd800 ≤ high ∧ high < 0xdc00) ∧ (0xdc00 ≤ low ∧ low < 0xe000) then
      (0x10000 + (high - 0xd800) * 0x400 + (low - 0xdc00)) :: codePoints units
    else high :: codePoints (low :: units)
  | units => units

def charOf? (n : Nat) : Option Char := if n.isValidChar then some (Char.ofNat n) else none

/-- The text of code units, if no surrogate among them is alone. -/
def textOf? (units : List Nat) : Option String := ((codePoints units).mapM charOf?).map String.ofList

/-- Where a reader is. The units of a text that is open come last one first; of an escape by number there are the value
so far and how many digits are lacking. -/
inductive Place where
  | outside
  | inside (units : List Nat)
  | escape (units : List Nat)
  | unit (units : List Nat) (value lacking : Nat)
deriving DecidableEq

def Place.next : Place → Char → Option (Option Token × Place)
  | outside, c =>
    if c = '"' then some (none, inside [])
    else if isSpace c then some (none, outside)
    else (Mark.ofChar? c).map fun m => (some (.mark m), outside)
  | inside units, c =>
    if c = '"' then (textOf? units.reverse).map fun text => (some (.text text), outside)
    else if c = '\\' then some (none, escape units)
    else if c.toNat < 0x20 then none
    else some (none, inside (c.toNat :: units))
  | escape units, c =>
    if c = 'u' then some (none, unit units 0 4)
    else (escape? c).map fun c => (none, inside (c.toNat :: units))
  | unit units value lacking, c =>
    (hexDigit? c).map fun digit =>
      let value := value * 16 + digit
      (none, if lacking ≤ 1 then inside (value :: units) else unit units value (lacking - 1))

def reader : PieceReader Place Token := ⟨.outside, Place.next⟩

theorem next_reader (place : Place) (c : Char) : reader.next place c = place.next c := rfl

def tokens? (text : String) : Option (List Token) := reader.pieces? .outside text.toList

mutual

def value? : Nat → List Token → Option (Value × List Token)
  | _, .text s :: ts => some (.text s, ts)
  | _, .mark .openList :: .mark .closeList :: ts => some (.list [], ts)
  | _, .mark .openObject :: .mark .closeObject :: ts => some (.object [], ts)
  | fuel + 1, .mark .openList :: ts => (items? fuel ts).map fun (items, ts) => (.list items, ts)
  | fuel + 1, .mark .openObject :: ts => (members? fuel ts).map fun (members, ts) => (.object members, ts)
  | _, _ => none

def items? : Nat → List Token → Option (List Value × List Token)
  | 0, _ => none
  | fuel + 1, ts =>
    (value? fuel ts).bind fun (item, ts) =>
      match ts with
      | .mark .closeList :: ts => some ([item], ts)
      | .mark .comma :: ts => (items? fuel ts).map fun (items, ts) => (item :: items, ts)
      | _ => none

def members? : Nat → List Token → Option (List (String × Value) × List Token)
  | fuel + 1, .text key :: .mark .colon :: ts =>
    (value? fuel ts).bind fun (value, ts) =>
      match ts with
      | .mark .closeObject :: ts => some ([(key, value)], ts)
      | .mark .comma :: ts => (members? fuel ts).map fun (members, ts) => ((key, value) :: members, ts)
      | _ => none
  | _, _ => none

end

/-- No value is nested deeper than it has tokens. -/
def read? (text : String) : Option Value :=
  (tokens? text).bind fun ts =>
    (value? ts.length ts).bind fun (value, rest) => if rest.isEmpty then some value else none

def unitsOf (c : Char) : List Nat :=
  if c.toNat < 0x10000 then [c.toNat]
  else [0xd800 + (c.toNat - 0x10000) / 0x400, 0xdc00 + (c.toNat - 0x10000) % 0x400]

theorem codePoints_unitsOf_append (c : Char) (units : List Nat) :
    codePoints (unitsOf c ++ units) = c.toNat :: codePoints units := by
  have hvalid : c.toNat < 0xd800 ∨ 0xdfff < c.toNat ∧ c.toNat < 0x110000 := c.valid
  rw [unitsOf]
  split_ifs with hunit
  · cases units with
    | nil => rfl
    | cons low units =>
      rw [List.singleton_append, codePoints, if_neg (by omega)]
  · have hpair : 0x10000 + (0xd800 + (c.toNat - 0x10000) / 0x400 - 0xd800) * 0x400 +
        (0xdc00 + (c.toNat - 0x10000) % 0x400 - 0xdc00) = c.toNat := by omega
    rw [List.cons_append, List.singleton_append, codePoints, if_pos (by omega), hpair]

theorem codePoints_flatMap_unitsOf (cs : List Char) : codePoints (cs.flatMap unitsOf) = cs.map Char.toNat := by
  induction cs with
  | nil => rfl
  | cons c cs ih => rw [List.flatMap_cons, codePoints_unitsOf_append, ih, List.map_cons]

theorem charOf?_toNat (c : Char) : charOf? c.toNat = some c := by
  have hvalid : c.toNat.isValidChar := c.valid
  rw [charOf?, if_pos hvalid, Char.ofNat_toNat]

theorem textOf?_flatMap_unitsOf (cs : List Char) : textOf? (cs.flatMap unitsOf) = some (String.ofList cs) := by
  have hchars : (cs.map Char.toNat).mapM charOf? = some cs := by
    induction cs with
    | nil => rfl
    | cons c cs ih =>
      rw [List.map_cons, List.mapM_cons, charOf?_toNat, ih]
      rfl
  rw [textOf?, codePoints_flatMap_unitsOf, hchars, Option.map_some]

theorem hexDigit?_hexDigit {n : Nat} (h : n < 16) : hexDigit? (hexDigit n) = some n := by
  have hall : ∀ n < 16, hexDigit? (hexDigit n) = some n := by decide
  exact hall n h

theorem pieces?_hexDigits {n : Nat} {units : List Nat} {rest : List Char} (h : n < 0x10000) :
    reader.pieces? (.unit units 0 4) (hexDigits 4 n ++ rest) = reader.pieces? (.inside (n :: units)) rest := by
  have hdigits : hexDigits 4 n = [hexDigit (n / 16 / 16 / 16 % 16), hexDigit (n / 16 / 16 % 16),
    hexDigit (n / 16 % 16), hexDigit (n % 16)] := rfl
  have hvalue : (((0 * 16 + n / 16 / 16 / 16 % 16) * 16 + n / 16 / 16 % 16) * 16 + n / 16 % 16) * 16 + n % 16 = n := by
    omega
  have hdigit (m value lacking : Nat) : reader.next (.unit units value lacking) (hexDigit (m % 16)) =
      some (none, if lacking ≤ 1 then .inside ((value * 16 + m % 16) :: units)
        else .unit units (value * 16 + m % 16) (lacking - 1)) := by
    rw [next_reader, Place.next, hexDigit?_hexDigit (Nat.mod_lt m (by decide))]
    rfl
  rw [hdigits]
  simp only [List.cons_append, List.nil_append]
  rw [PieceReader.pieces?_cons (hdigit _ _ _), if_neg (by decide), PieceReader.pieces?_cons (hdigit _ _ _),
    if_neg (by decide), PieceReader.pieces?_cons (hdigit _ _ _), if_neg (by decide),
    PieceReader.pieces?_cons (hdigit _ _ _), if_pos (by decide), hvalue]

variable {a b : String} {as bs : List Token}

theorem tokens?_append (ha : tokens? a = some as) (hb : tokens? b = some bs) : tokens? (a ++ b) = some (as ++ bs) := by
  have hrest : reader.pieces? reader.outside b.toList = some bs := hb
  rw [tokens?, String.toList_append, PieceReader.pieces?_append ha, hrest, Option.map_some]

/-- Lines are read each on its own, as no text goes on behind the end of a line. -/
theorem tokens?_intercalate {lines : List String} {tokens : List (List Token)}
    (h : List.Forall₂ (fun line ts => tokens? line = some ts) lines tokens) :
    tokens? (String.intercalate "\n" lines) = some tokens.flatten := by
  have hnewline : tokens? "\n" = some [] := by decide +kernel
  induction h with
  | nil => decide +kernel
  | @cons line ts lines tokens hline hlines ih =>
    cases hlines with
    | nil => rw [String.intercalate_singleton, hline, List.flatten_singleton]
    | cons _ _ =>
      rw [String.intercalate_cons_cons, tokens?_append (tokens?_append hline hnewline) ih, List.append_nil]
      rfl

example : tokens? " [\"\\ud83d\\ude00\", \x7b\"a\\n\" : []\x7d] " =
    some [.mark .openList, .text "😀", .mark .comma, .mark .openObject, .text "a\n", .mark .colon,
      .mark .openList, .mark .closeList, .mark .closeObject, .mark .closeList] := by decide +kernel

example : tokens? "[\"\\ud83d\"]" = none := by decide +kernel

example : value? 10 [.mark .openList, .text "😀", .mark .comma, .mark .openObject, .text "a\n", .mark .colon,
      .mark .openList, .mark .closeList, .mark .closeObject, .mark .closeList] =
      some (.list [.text "😀", .object [("a\n", .list [])]], []) := rfl

end ScriptBinding.Json
