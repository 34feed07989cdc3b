/-!
UTF-8. Reading never fails: each longest start of a character that is not completed becomes one
U+FFFD.
-/

namespace ScriptBinding.Text

structure Begun where
  value : Nat
  lacking : Nat
  low : Nat
  high : Nat

/-- What a leading byte begins. The bounds exclude overlong forms, surrogates and values beyond
U+10FFFF; other bytes lead nothing. -/
def Begun.ofLead? (b : Nat) : Option Begun :=
  if 0xc2 ≤ b && b ≤ 0xdf then some ⟨b - 0xc0, 1, 0x80, 0xbf⟩
  else if b = 0xe0 then some ⟨0, 2, 0xa0, 0xbf⟩
  else if b = 0xed then some ⟨0xd, 2, 0x80, 0x9f⟩
  else if 0xe1 ≤ b && b ≤ 0xef then some ⟨b - 0xe0, 2, 0x80, 0xbf⟩
  else if b = 0xf0 then some ⟨0, 3, 0x90, 0xbf⟩
  else if 0xf1 ≤ b && b ≤ 0xf3 then some ⟨b - 0xf0, 3, 0x80, 0xbf⟩
  else if b = 0xf4 then some ⟨4, 3, 0x80, 0x8f⟩
  else none

structure Utf8Reader where
  read : List Char := []
  begun : Option Begun := none

def replacement : Char := '\ufffd'

def Utf8Reader.lead (read : List Char) (b : Nat) : Utf8Reader :=
  if b < 0x80 then ⟨Char.ofNat b :: read, none⟩
  else match Begun.ofLead? b with
    | some begun => ⟨read, some begun⟩
    | none => ⟨replacement :: read, none⟩

def Utf8Reader.next (r : Utf8Reader) (byte : UInt8) : Utf8Reader :=
  let b := byte.toNat
  match r.begun with
  | none => lead r.read b
  | some s =>
    if s.low ≤ b && b ≤ s.high then
      let value := s.value * 64 + (b - 0x80)
      if s.lacking ≤ 1 then ⟨Char.ofNat value :: r.read, none⟩
      else ⟨r.read, some ⟨value, s.lacking - 1, 0x80, 0xbf⟩⟩
    else lead (replacement :: r.read) b

def Utf8Reader.chars (r : Utf8Reader) : List Char :=
  (if r.begun.isSome then replacement :: r.read else r.read).reverse

def decodeUtf8 (bytes : List UInt8) : List Char := (bytes.foldl Utf8Reader.next {}).chars

def encodeUtf8 (s : String) : List UInt8 := s.toList.flatMap String.utf8EncodeChar

end ScriptBinding.Text
