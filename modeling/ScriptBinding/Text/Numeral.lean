import ScriptBinding.Text.Digit

/-!
Integers in text. Digits may be grouped by single underscores, and a decimal numeral has a bounded
number of digits both when it is read and when it is written.
-/

namespace ScriptBinding.Text

def maxDigits : Nat := 4300

inductive NumeralError where
  | malformed
  | tooLong (digits : Nat)
deriving DecidableEq

/-- The value of a digit in `base`: decimal digits of every script, and for a base beyond ten the
letters from `a` and `A` on. -/
def digitValue? (base : Nat) (c : Char) : Option Nat :=
  let value? := (decimalValue? c).orElse fun _ =>
    if 'a' ≤ c && c ≤ 'z' then some (c.toNat - 87)
    else if 'A' ≤ c && c ≤ 'Z' then some (c.toNat - 55)
    else none
  value?.filter (· < base)

/-- The digits of a numeral, at least one, with at most one underscore between neighbours. -/
def digits? (base : Nat) : List Char → Option (List Nat)
  | [] => none
  | [c] => (digitValue? base c).map ([·])
  | c :: '_' :: rest => (digitValue? base c).bind fun d => (digits? base rest).map (d :: ·)
  | c :: rest => (digitValue? base c).bind fun d => (digits? base rest).map (d :: ·)

def ofDigits (base : Nat) (ds : List Nat) : Nat := ds.foldl (fun n d => n * base + d) 0

def signed : List Char → Int × List Char
  | '-' :: rest => (-1, rest)
  | '+' :: rest => (1, rest)
  | rest => (1, rest)

def readDecimal (cs : List Char) : Except NumeralError Int :=
  let (sign, rest) := signed cs
  match digits? 10 rest with
  | none => .error .malformed
  | some ds =>
    if maxDigits < ds.length then .error (.tooLong ds.length) else .ok (sign * ofDigits 10 ds)

/-- What follows `0x` or `0X` and an underscore after it, or the whole text if it starts otherwise. -/
def withoutHexMark : List Char → List Char
  | d :: x :: rest =>
    if decimalValue? d = some 0 && (x = 'x' || x = 'X') then
      match rest with
      | '_' :: rest => rest
      | rest => rest
    else d :: x :: rest
  | cs => cs

def readHexadecimal? (cs : List Char) : Option Int :=
  let (sign, rest) := signed cs
  (digits? 16 (withoutHexMark rest)).map fun ds => sign * ofDigits 16 ds

def decimalBound : Nat := Nat.pow 10 maxDigits

def decimal? (z : Int) : Option String := if z.natAbs < decimalBound then some (toString z) else none

end ScriptBinding.Text
