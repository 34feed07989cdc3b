import ScriptBinding.Proofs.Text.Digits
import ScriptBinding.Text.Blank

/-!
The numerals of integers, decimal or hexadecimal behind a mark. In a hexadecimal one a letter has the same value in either
case, and because of the mark it is no decimal one; no numeral holds a blank, so a blank ends it.
-/

namespace ScriptBinding.Text

/-- A function that does not tell the cases of a letter apart is not changed by lower case. -/
theorem apply_toLower {α : Type} (f : Char → α)
    (h : ∀ k < 26, f (Char.ofNat (k + 97)) = f (Char.ofNat (k + 65))) (c : Char) : f c.toLower = f c := by
  by_cases hc : 'A'.val ≤ c.val ∧ c.val ≤ 'Z'.val
  · have hlower : c.toLower = ⟨c.val + ('a'.val - 'A'.val), _⟩ := dif_pos hc
    have hlow : 65 ≤ c.toNat := hc.1
    have hhigh : c.toNat ≤ 90 := hc.2
    have hletter := h (c.toNat - 65) (by omega)
    rw [Nat.sub_add_cancel hlow, Char.ofNat_toNat] at hletter
    have hsum : (c.val + ('a'.val - 'A'.val)).toNat = c.toNat - 65 + 97 := by
      have hmod : (c.toNat + 32) % 2 ^ 32 = c.toNat + 32 := Nat.mod_eq_of_lt (by omega)
      rw [UInt32.toNat_add]
      exact hmod.trans (by omega)
    rw [hlower, ← hletter, ← hsum]
    exact congrArg f (Char.ofNat_toNat _).symm
  · have hlower : c.toLower = c := dif_neg hc
    rw [hlower]

theorem isBlank_toLower (c : Char) : isBlank c.toLower = isBlank c := apply_toLower isBlank (by decide) c

theorem not_blank_of_mem_toDigits {b n : Nat} (hb : 1 < b) (hb' : b ≤ 16) :
    ∀ c ∈ Nat.toDigits b n, isBlank c = false := by
  have hall : ∀ d < 16, isBlank (Nat.digitChar d) = false := by decide
  intro c hc
  obtain ⟨d, hd, rfl⟩ := mem_toDigits hb hc
  exact hall d (by omega)

theorem digitValue?_toLower (c : Char) : digitValue? 16 c.toLower = digitValue? 16 c :=
  apply_toLower (digitValue? 16) (by decide) c

theorem eq_zero_of_toLower {c : Char} (h : c.toLower = '0') : c = '0' := by
  have hcase := apply_toLower (fun c => decide (c = '0')) (by decide) c
  simpa [h] using hcase

theorem eq_x_of_toLower {c : Char} (h : c.toLower = 'x') : c = 'x' ∨ c = 'X' := by
  have hcase := apply_toLower (fun c => decide (c = 'x' ∨ c = 'X')) (by decide) c
  simpa [h] using hcase

theorem ofDigits_replicate_zero (b k : Nat) (ds : List Nat) :
    ofDigits b (List.replicate k 0 ++ ds) = ofDigits b ds := by
  induction k with
  | zero => rfl
  | succ k ih =>
    rw [List.replicate_succ, List.cons_append, ofDigits, List.foldl_cons, Nat.zero_mul, Nat.zero_add]
    exact ih

/-- `numeral` is `0x` and the digits of `n` in base sixteen, with any zeros in front and letters in either case. -/
def IsHexadecimal (n : Nat) (numeral : List Char) : Prop :=
  ∃ zeros, numeral.map Char.toLower = '0' :: 'x' :: (List.replicate zeros '0' ++ Nat.toDigits 16 n)

section Digits

variable {n zeros : Nat} {digits : List Char}
  (h : digits.map Char.toLower = List.replicate zeros '0' ++ Nat.toDigits 16 n)
include h

theorem ne_nil_of_toLower : digits ≠ [] := by
  rintro rfl
  have hdigits := (List.append_eq_nil_iff.mp h.symm).2
  exact Nat.toDigits_ne_nil hdigits

theorem exists_digitValue?_of_toLower {c : Char} (hc : c ∈ digits) : ∃ d, digitValue? 16 c = some d := by
  have hlower := List.mem_map_of_mem (f := Char.toLower) hc
  rw [h, List.mem_append] at hlower
  rw [← digitValue?_toLower]
  rcases hlower with hzero | hdigit
  · rw [List.eq_of_mem_replicate hzero]
    exact ⟨0, rfl⟩
  · obtain ⟨d, hd, hchar⟩ := mem_toDigits (by decide) hdigit
    rw [hchar]
    exact ⟨d, digitValue?_digitChar (by decide) hd⟩

theorem ofDigits_of_toLower : ofDigits 16 (digits.filterMap (digitValue? 16)) = n := by
  have hvalues : digits.filterMap (digitValue? 16) = (digits.map Char.toLower).filterMap (digitValue? 16) := by
    rw [List.filterMap_map]
    exact congrArg (List.filterMap · digits) (funext fun c => (digitValue?_toLower c).symm)
  have hzero : digitValue? 16 '0' = some 0 := rfl
  rw [hvalues, h, List.filterMap_append, List.filterMap_replicate_of_some hzero, ofDigits_replicate_zero]
  exact ofDigits_toDigits (by decide) (by decide) n

end Digits

variable {n : Nat} {numeral : List Char}

/-- The mark in front of a hexadecimal numeral, and the digits behind it. -/
theorem IsHexadecimal.exists_mark (h : IsHexadecimal n numeral) :
    ∃ mark digits, numeral = '0' :: mark :: digits ∧ (mark = 'x' ∨ mark = 'X') ∧
      ∃ zeros, digits.map Char.toLower = List.replicate zeros '0' ++ Nat.toDigits 16 n := by
  obtain ⟨zeros, hnumeral⟩ := h
  obtain ⟨zero, behind, rfl, hzero, hbehind⟩ := List.map_eq_cons_iff.mp hnumeral
  obtain ⟨mark, digits, rfl, hmark, hdigits⟩ := List.map_eq_cons_iff.mp hbehind
  rw [eq_zero_of_toLower hzero]
  exact ⟨mark, digits, rfl, eq_x_of_toLower hmark, zeros, hdigits⟩

theorem IsHexadecimal.not_blank (h : IsHexadecimal n numeral) : ∀ c ∈ numeral, isBlank c = false := by
  obtain ⟨zeros, hnumeral⟩ := h
  intro c hc
  have hlower := List.mem_map_of_mem (f := Char.toLower) hc
  rw [hnumeral, List.mem_cons, List.mem_cons, List.mem_append] at hlower
  rw [← isBlank_toLower]
  rcases hlower with hmark | hmark | hzero | hdigit
  · rw [hmark]
    rfl
  · rw [hmark]
    rfl
  · rw [List.eq_of_mem_replicate hzero]
    rfl
  · exact not_blank_of_mem_toDigits (by decide) (by decide) _ hdigit

theorem signed_zero (cs : List Char) : signed ('0' :: cs) = (1, '0' :: cs) := rfl

theorem IsHexadecimal.readDecimal (h : IsHexadecimal n numeral) : readDecimal numeral = .error .malformed := by
  obtain ⟨mark, digits, rfl, hmark, -⟩ := h.exists_mark
  have hnone : digits? 10 ('0' :: mark :: digits) = none := by
    apply digits?_eq_none_of_mem (List.mem_cons_of_mem _ List.mem_cons_self)
    · rcases hmark with rfl | rfl <;> decide
    · rcases hmark with rfl | rfl <;> decide
  simp only [Text.readDecimal, signed_zero, hnone]

theorem withoutHexMark_mark {mark : Char} {digits : List Char} (hmark : mark = 'x' ∨ mark = 'X')
    (hdigits : '_' ∉ digits) : withoutHexMark ('0' :: mark :: digits) = digits := by
  have hzero : (decimalValue? '0' = some 0 && (mark = 'x' || mark = 'X')) = true := by
    simpa using ⟨rfl, hmark⟩
  rw [withoutHexMark, if_pos hzero]
  rintro rest rfl
  exact hdigits List.mem_cons_self

theorem IsHexadecimal.readHexadecimal? (h : IsHexadecimal n numeral) : readHexadecimal? numeral = some (n : Int) := by
  obtain ⟨mark, digits, rfl, hmark, zeros, hdigits⟩ := h.exists_mark
  have hunderscore : '_' ∉ digits := by
    intro hmem
    obtain ⟨d, hd⟩ := exists_digitValue?_of_toLower hdigits hmem
    cases hd
  have hread := digits?_of_forall (ne_nil_of_toLower hdigits) fun c hc => exists_digitValue?_of_toLower hdigits hc
  simp only [Text.readHexadecimal?, signed_zero, withoutHexMark_mark hmark hunderscore, hread.1, Option.map_some,
    ofDigits_of_toLower hdigits, Int.one_mul]

example : Text.readHexadecimal? "0X01f".toList = some 31 := by decide

theorem firstWord?_append {word rest : List Char} (hne : word ≠ []) (hword : ∀ c ∈ word, isBlank c = false)
    (hrest : ∀ c ∈ rest.head?, isBlank c = true) : firstWord? (word ++ rest) = some word := by
  obtain ⟨c, cs, rfl⟩ := List.exists_cons_of_ne_nil hne
  have hstart : trimStart (c :: cs ++ rest) = c :: cs ++ rest := trimStart_eq_self (hword c List.mem_cons_self)
  have htake : (c :: cs ++ rest).takeWhile (!isBlank ·) = c :: cs := by
    rw [List.takeWhile_append_of_pos (by simpa using hword)]
    cases rest with
    | nil => rw [List.takeWhile_nil, List.append_nil]
    | cons d rest =>
      have hd : isBlank d = true := hrest d rfl
      rw [List.takeWhile_cons_of_neg (by simp [hd]), List.append_nil]
  rw [firstWord?, hstart, htake]

/-- The numerals of an integer in a dump: decimal with no more digits than are read, or hexadecimal with any number of
digits. -/
inductive IsNumeral : Int → String → Prop where
  | decimal {z : Int} : (Nat.toDigits 10 z.natAbs).length ≤ maxDigits → IsNumeral z (toString z)
  | hexadecimal {n : Nat} {numeral : String} : IsHexadecimal n numeral.toList → IsNumeral n numeral

theorem not_blank_toString (z : Int) : ∀ c ∈ (toString z).toList, isBlank c = false := by
  have hdigits : ∀ c ∈ Nat.toDigits 10 z.natAbs, isBlank c = false :=
    not_blank_of_mem_toDigits (by decide) (by decide)
  rw [toList_int]
  split_ifs
  · exact hdigits
  · exact List.forall_mem_cons.mpr ⟨by decide, hdigits⟩

theorem toList_toString_ne_nil (z : Int) : (toString z).toList ≠ [] := by
  rw [toList_int]
  split_ifs
  · exact Nat.toDigits_ne_nil
  · exact List.cons_ne_nil _ _

theorem IsNumeral.ne_nil {z : Int} {numeral : String} (h : IsNumeral z numeral) : numeral.toList ≠ [] := by
  cases h with
  | decimal _ => exact toList_toString_ne_nil z
  | hexadecimal hnumeral =>
    obtain ⟨mark, digits, hlist, -⟩ := hnumeral.exists_mark
    rw [hlist]
    exact List.cons_ne_nil _ _

theorem IsNumeral.not_blank {z : Int} {numeral : String} (h : IsNumeral z numeral) :
    ∀ c ∈ numeral.toList, isBlank c = false := by
  cases h with
  | decimal _ => exact not_blank_toString z
  | hexadecimal hnumeral => exact hnumeral.not_blank

end ScriptBinding.Text
