import Mathlib.Tactic.SplitIfs
import ScriptBinding.Text.Utf8

/-!
UTF-8 read back: the bytes of a text give its characters, and nothing of it is replaced, whatever bytes stand in front.
-/

namespace ScriptBinding.Text

namespace Utf8Reader

variable {read : List Char} {n : Nat}

theorem next_ascii (hn : n < 0x80) : next ⟨read, none⟩ (UInt8.ofNat n) = ⟨Char.ofNat n :: read, none⟩ := by
  have hbyte : (UInt8.ofNat n).toNat = n := UInt8.toNat_ofNat_of_lt' (Nat.lt_trans hn (by decide))
  rw [next, hbyte]
  exact if_pos hn

theorem next_lead {begun : Begun} (hn : 0x80 ≤ n) (hn' : n < 0x100) (h : Begun.ofLead? n = some begun) :
    next ⟨read, none⟩ (UInt8.ofNat n) = ⟨read, some begun⟩ := by
  have hbyte : (UInt8.ofNat n).toNat = n := UInt8.toNat_ofNat_of_lt' hn'
  simp only [next, lead, hbyte, h]
  exact if_neg (Nat.not_lt.mpr hn)

/-- A byte that goes on with what has been begun adds its six low bits. -/
theorem next_continued {begun : Begun} (hlow : begun.low ≤ n % 64 + 0x80) (hhigh : n % 64 + 0x80 ≤ begun.high) :
    next ⟨read, some begun⟩ (UInt8.ofNat (n % 64 + 0x80)) =
      if begun.lacking ≤ 1 then ⟨Char.ofNat (begun.value * 64 + n % 64) :: read, none⟩
      else ⟨read, some ⟨begun.value * 64 + n % 64, begun.lacking - 1, 0x80, 0xbf⟩⟩ := by
  have hbyte : (UInt8.ofNat (n % 64 + 0x80)).toNat = n % 64 + 0x80 :=
    UInt8.toNat_ofNat_of_lt' (Nat.lt_trans (Nat.add_lt_add_right (Nat.mod_lt n (by decide)) 0x80) (by decide))
  simp only [next, hbyte, Nat.add_sub_cancel]
  exact if_pos (by simp [hlow, hhigh])

theorem ofLead?_two (hlow : 0x80 ≤ n) (hhigh : n < 0x800) :
    Begun.ofLead? (n / 64 % 32 + 0xc0) = some ⟨n / 64, 1, 0x80, 0xbf⟩ := by
  have hvalue : n / 64 % 32 + 0xc0 - 0xc0 = n / 64 := by omega
  rw [Begun.ofLead?, if_pos (by simp; omega), hvalue]

/-- The bounds of a second byte of three leave out what two bytes can hold, and the surrogates. -/
theorem exists_ofLead?_three (hlow : 0x800 ≤ n) (hhigh : n < 0x10000) (hn : n.isValidChar) :
    ∃ low high, Begun.ofLead? (n / 4096 % 16 + 0xe0) = some ⟨n / 4096, 2, low, high⟩ ∧
      low ≤ n / 64 % 64 + 0x80 ∧ n / 64 % 64 + 0x80 ≤ high := by
  rw [Nat.isValidChar] at hn
  have hmod : n / 4096 % 16 = n / 4096 := by omega
  rw [hmod, Begun.ofLead?]
  split_ifs with htwo hfirst hsurrogates hthree
  · simp at htwo
  · exact ⟨0xa0, 0xbf, by simp; omega, by omega, by omega⟩
  · exact ⟨0x80, 0x9f, by simp; omega, by omega, by omega⟩
  · exact ⟨0x80, 0xbf, by simp, by omega, by omega⟩
  all_goals
    simp at hthree
    omega

/-- The bounds of a second byte of four leave out what three bytes can hold, and what is beyond U+10FFFF. -/
theorem exists_ofLead?_four (hlow : 0x10000 ≤ n) (hn : n.isValidChar) :
    ∃ low high, Begun.ofLead? (n / 262144 % 8 + 0xf0) = some ⟨n / 262144, 3, low, high⟩ ∧
      low ≤ n / 4096 % 64 + 0x80 ∧ n / 4096 % 64 + 0x80 ≤ high := by
  rw [Nat.isValidChar] at hn
  have hmod : n / 262144 % 8 = n / 262144 := by omega
  have hlead : n / 262144 ≤ 4 := by omega
  rw [hmod, Begun.ofLead?]
  split_ifs with htwo hfirst hsurrogates hthree hfour hmiddle hlast
  · simp at htwo
  · omega
  · omega
  · simp at hthree
  · exact ⟨0x90, 0xbf, by simp; omega, by omega, by omega⟩
  · exact ⟨0x80, 0xbf, by simp, by omega, by omega⟩
  · exact ⟨0x80, 0x8f, by simp; omega, by omega, by omega⟩
  · simp at hmiddle
    omega

theorem foldl_next_utf8EncodeChar (c : Char) :
    (String.utf8EncodeChar c).foldl next ⟨read, none⟩ = ⟨c :: read, none⟩ := by
  have hc : Char.ofNat c.val.toNat = c := Char.ofNat_toNat c
  have hvalid : c.val.toNat.isValidChar := c.valid
  rw [String.utf8EncodeChar]
  generalize c.val.toNat = n at hc hvalid ⊢
  split_ifs with hone htwo hthree
  · simp only [List.foldl_cons, List.foldl_nil]
    rw [next_ascii (by omega), hc]
  · have hvalue : n / 64 * 64 + n % 64 = n := by omega
    simp only [List.foldl_cons, List.foldl_nil]
    rw [next_lead (by omega) (by omega) (ofLead?_two (by omega) (by omega)), next_continued (by simp) (by dsimp; omega)]
    simp only [Nat.le_refl, if_true, hvalue, hc]
  · obtain ⟨low, high, hlead, hlow, hhigh⟩ := exists_ofLead?_three (n := n) (by omega) (by omega) hvalid
    have hvalue : (n / 4096 * 64 + n / 64 % 64) * 64 + n % 64 = n := by omega
    simp only [List.foldl_cons, List.foldl_nil]
    rw [next_lead (by omega) (by omega) hlead, next_continued hlow hhigh, if_neg (by simp),
      next_continued (by simp) (by dsimp; omega)]
    simp only [Nat.le_refl, if_true, hvalue, hc]
  · obtain ⟨low, high, hlead, hlow, hhigh⟩ := exists_ofLead?_four (n := n) (by omega) hvalid
    have hvalue : ((n / 262144 * 64 + n / 4096 % 64) * 64 + n / 64 % 64) * 64 + n % 64 = n := by omega
    simp only [List.foldl_cons, List.foldl_nil]
    rw [next_lead (by omega) (by omega) hlead, next_continued hlow hhigh, if_neg (by simp),
      next_continued (by simp) (by dsimp; omega), if_neg (by simp), next_continued (by simp) (by dsimp; omega)]
    simp only [Nat.le_refl, if_true, hvalue, hc]

theorem foldl_next_flatMap (cs : List Char) :
    (cs.flatMap String.utf8EncodeChar).foldl next ⟨read, none⟩ = ⟨cs.reverse ++ read, none⟩ := by
  induction cs generalizing read with
  | nil => rfl
  | cons c cs ih =>
    rw [List.flatMap_cons, List.foldl_append, foldl_next_utf8EncodeChar, ih, List.reverse_cons, List.append_assoc]
    rfl

/-- What has been begun goes on only with bytes that begin nothing. -/
def Within (r : Utf8Reader) : Prop := ∀ begun ∈ r.begun, 0x80 ≤ begun.low ∧ begun.high ≤ 0xbf

theorem within_lead (read : List Char) (b : Nat) : (lead read b).Within := by
  rw [lead]
  split_ifs
  · rintro _ ⟨⟩
  · cases h : Begun.ofLead? b with
    | none => rintro _ ⟨⟩
    | some begun =>
      rintro _ ⟨rfl⟩
      rw [Begun.ofLead?] at h
      split_ifs at h
      all_goals
        obtain rfl := Option.some.inj h
        simp

theorem within_next (r : Utf8Reader) (byte : UInt8) : (r.next byte).Within := by
  obtain ⟨read, begun⟩ := r
  cases begun with
  | none => exact within_lead read byte.toNat
  | some begun =>
    simp only [next]
    split_ifs
    · rintro _ ⟨⟩
    · intro more hmore
      rw [← Option.some.inj hmore]
      simp
    · exact within_lead _ byte.toNat

theorem within_foldl {r : Utf8Reader} (h : r.Within) (bytes : List UInt8) : (bytes.foldl next r).Within := by
  induction bytes generalizing r with
  | nil => exact h
  | cons byte bytes ih => exact ih (within_next r byte)

/-- The first byte of a character goes on with nothing. -/
theorem exists_utf8EncodeChar (c : Char) : ∃ byte bytes, String.utf8EncodeChar c = byte :: bytes ∧
    (byte.toNat < 0x80 ∨ 0xbf < byte.toNat) := by
  have hvalid : c.val.toNat.isValidChar := c.valid
  rw [Nat.isValidChar] at hvalid
  rw [String.utf8EncodeChar]
  generalize c.val.toNat = n at hvalid ⊢
  split_ifs
  all_goals
    refine ⟨_, _, rfl, ?_⟩
    rw [UInt8.toNat_ofNat']
    omega

theorem next_of_within {r : Utf8Reader} (h : r.Within) {byte : UInt8}
    (hbyte : byte.toNat < 0x80 ∨ 0xbf < byte.toNat) : r.next byte = next ⟨r.chars.reverse, none⟩ byte := by
  obtain ⟨read, begun⟩ := r
  cases begun with
  | none => simp [chars]
  | some begun =>
    obtain ⟨hlow, hhigh⟩ := h begun rfl
    have hends : ¬ (begun.low ≤ byte.toNat ∧ byte.toNat ≤ begun.high) := by omega
    simp [next, chars, hends]

theorem chars_foldl_flatMap {r : Utf8Reader} (h : r.Within) (cs : List Char) :
    ((cs.flatMap String.utf8EncodeChar).foldl next r).chars = r.chars ++ cs := by
  cases cs with
  | nil => exact (List.append_nil _).symm
  | cons c cs =>
    obtain ⟨byte, bytes, hc, hbyte⟩ := exists_utf8EncodeChar c
    have hclosed : (String.utf8EncodeChar c).foldl next ⟨r.chars.reverse, none⟩ = ⟨c :: r.chars.reverse, none⟩ :=
      foldl_next_utf8EncodeChar c
    rw [hc, List.foldl_cons, ← next_of_within h hbyte, ← List.foldl_cons, ← hc] at hclosed
    rw [List.flatMap_cons, List.foldl_append, hclosed, foldl_next_flatMap]
    simp [chars]

end Utf8Reader

/-- Bytes that are left unfinished do not spoil the text behind them. -/
theorem decodeUtf8_append_encodeUtf8 (bytes : List UInt8) (s : String) :
    decodeUtf8 (bytes ++ encodeUtf8 s) = decodeUtf8 bytes ++ s.toList := by
  have hstart : Utf8Reader.Within {} := by rintro _ ⟨⟩
  rw [decodeUtf8, encodeUtf8, List.foldl_append, Utf8Reader.chars_foldl_flatMap (Utf8Reader.within_foldl hstart bytes)]
  rfl

example : decodeUtf8 [0xf1, 0x80, 0xc3, 0xa9] = ['\ufffd', '\u00e9'] := by decide

theorem decodeUtf8_encodeUtf8 (s : String) : decodeUtf8 (encodeUtf8 s) = s.toList :=
  decodeUtf8_append_encodeUtf8 [] s

/-- The bytes are those in which the text itself is stored. -/
theorem encodeUtf8_eq (s : String) : encodeUtf8 s = s.toUTF8.data.toList := by
  obtain ⟨cs, rfl⟩ : ∃ cs, s = String.ofList cs := ⟨s.toList, String.ofList_toList.symm⟩
  have hbytes : (String.ofList cs).toUTF8 = (cs.flatMap String.utf8EncodeChar).toByteArray := rfl
  rw [hbytes, encodeUtf8, String.toList_ofList]
  simp

end ScriptBinding.Text
