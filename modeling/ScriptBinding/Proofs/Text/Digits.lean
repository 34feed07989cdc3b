import Mathlib.Data.List.TakeWhile
import Mathlib.Tactic.SplitIfs
import ScriptBinding.Text.Numeral
import ScriptBinding.Text.Scan

/-!
Reading digits: every run of decimal digits is a numeral of as many digits.
-/

namespace ScriptBinding.Text

theorem digitValue?_of_isDecimal {c : Char} (h : isDecimal c = true) :
    ∃ d, digitValue? 10 c = some d := by
  obtain ⟨d, hd⟩ := Option.isSome_iff_exists.mp h
  have hlt := decimalValue?_lt hd
  exact ⟨d, by simp [digitValue?, hd, hlt]⟩

theorem isDecimal_ne {c d : Char} (h : isDecimal c = true) (hd : isDecimal d = false) : c ≠ d := by
  rintro rfl
  simp [h] at hd

theorem digits?_of_forall {b : Nat} {cs : List Char} (hne : cs ≠ []) (h : ∀ c ∈ cs, ∃ d, digitValue? b c = some d) :
    digits? b cs = some (cs.filterMap (digitValue? b)) ∧ (cs.filterMap (digitValue? b)).length = cs.length := by
  induction cs with
  | nil => exact absurd rfl hne
  | cons c cs ih =>
    obtain ⟨d, hd⟩ := h c List.mem_cons_self
    cases cs with
    | nil => simp [digits?, hd]
    | cons c' cs =>
      have hc' : c' ≠ '_' := by
        rintro rfl
        obtain ⟨d', hd'⟩ := h '_' (by simp)
        cases hd'
      obtain ⟨hds, hlen⟩ := ih (by simp) fun c hc => h c (by simp [hc])
      rw [List.filterMap_cons_some hd]
      exact ⟨by simp [digits?, hc', hd, hds], by simp [hlen]⟩

theorem digits?_eq_none_of_mem {b : Nat} {c : Char} {cs : List Char} (hc : c ∈ cs) (hne : c ≠ '_')
    (h : digitValue? b c = none) : digits? b cs = none := by
  fun_induction digits? b cs with
  | case1 => cases hc
  | case2 c' =>
    obtain rfl := List.mem_singleton.mp hc
    rw [h, Option.map_none]
  | case3 c' rest ih =>
    rcases List.mem_cons.mp hc with rfl | hc
    · rw [h, Option.bind_none]
    · rcases List.mem_cons.mp hc with rfl | hc
      · exact absurd rfl hne
      · simp only [ih hc, Option.map_none, Option.bind_fun_none]
  | case4 c' rest _ _ ih =>
    rcases List.mem_cons.mp hc with rfl | hc
    · rw [h, Option.bind_none]
    · simp only [ih hc, Option.map_none, Option.bind_fun_none]

theorem digits?_of_isDecimal {cs : List Char} (hne : cs ≠ []) (h : ∀ c ∈ cs, isDecimal c = true) :
    digits? 10 cs = some (cs.filterMap (digitValue? 10)) ∧
      (cs.filterMap (digitValue? 10)).length = cs.length :=
  digits?_of_forall hne fun c hc => digitValue?_of_isDecimal (h c hc)

theorem signed_of_isDecimal {cs : List Char} (h : ∀ c ∈ cs, isDecimal c = true) :
    signed cs = (1, cs) := by
  cases cs with
  | nil => rfl
  | cons c cs =>
    have hm : c ≠ '-' := isDecimal_ne (h c (by simp)) (by decide)
    have hp : c ≠ '+' := isDecimal_ne (h c (by simp)) (by decide)
    simp [signed, hm, hp]

/-- A run of decimal digits fails to be a numeral only by its length. -/
theorem readDecimal_of_isDecimal {cs : List Char} (hne : cs ≠ []) (h : ∀ c ∈ cs, isDecimal c = true) :
    readDecimal cs = if maxDigits < cs.length then .error (.tooLong cs.length)
      else .ok (ofDigits 10 (cs.filterMap (digitValue? 10)) : Nat) := by
  obtain ⟨hds, hlen⟩ := digits?_of_isDecimal hne h
  simp only [readDecimal, signed_of_isDecimal h, hds, hlen, Int.one_mul]

theorem mem_toDigits {b n : Nat} (hb : 1 < b) {c : Char} (hc : c ∈ Nat.toDigits b n) :
    ∃ d < b, c = d.digitChar := by
  induction n using Nat.strong_induction_on with
  | _ n ih =>
    rw [Nat.toDigits_eq_if hb] at hc
    split_ifs at hc with hn
    · exact ⟨n, hn, List.mem_singleton.mp hc⟩
    · rcases List.mem_append.mp hc with hc | hc
      · exact ih (n / b) (Nat.div_lt_self (by omega) hb) hc
      · exact ⟨n % b, Nat.mod_lt n (by omega), List.mem_singleton.mp hc⟩

theorem isDecimal_of_mem_toDigits {n : Nat} : ∀ c ∈ Nat.toDigits 10 n, isDecimal c = true := by
  intro c hc
  have hall : ∀ d < 10, isDecimal (Nat.digitChar d) = true := by decide
  obtain ⟨d, hd, rfl⟩ := mem_toDigits (by decide) hc
  exact hall d hd

theorem digitValue?_digitChar {b d : Nat} (hb : b ≤ 16) (hd : d < b) :
    digitValue? b d.digitChar = some d := by
  have hall : ∀ d < 16, digitValue? 16 (Nat.digitChar d) = some d := by decide
  have h := hall d (by omega)
  simp only [digitValue?, Option.filter_eq_some_iff, decide_eq_true_eq] at h ⊢
  exact ⟨h.1, hd⟩

theorem ofDigits_toDigits {b : Nat} (hb : 1 < b) (hb' : b ≤ 16) (n : Nat) :
    ofDigits b ((Nat.toDigits b n).filterMap (digitValue? b)) = n := by
  induction n using Nat.strong_induction_on with
  | _ n ih =>
    rw [Nat.toDigits_eq_if hb]
    split_ifs with hn
    · simp [digitValue?_digitChar hb' hn, ofDigits]
    · have hlast := digitValue?_digitChar hb' (Nat.mod_lt n (by omega : b > 0))
      have hinit := ih (n / b) (Nat.div_lt_self (by omega) hb)
      rw [ofDigits] at hinit
      rw [List.filterMap_append, List.filterMap_cons_some hlast, List.filterMap_nil, ofDigits,
        List.foldl_append, hinit, List.foldl_cons, List.foldl_nil]
      exact Nat.div_add_mod' n b

theorem maxDigits_lt_decimalBound : maxDigits < decimalBound := by
  unfold decimalBound
  generalize maxDigits = k
  exact Nat.lt_pow_self (by decide)

theorem decimalBound_pos : 0 < decimalBound := Nat.zero_lt_of_lt maxDigits_lt_decimalBound

theorem length_toDigits_le_maxDigits {n : Nat} :
    (Nat.toDigits 10 n).length ≤ maxDigits ↔ n < decimalBound := by
  have hpos : 0 < maxDigits := by decide
  unfold decimalBound
  generalize maxDigits = k at hpos ⊢
  exact Nat.length_toDigits_le_iff (by decide) hpos

theorem readDecimal_toDigits (n : Nat) :
    readDecimal (Nat.toDigits 10 n) =
      if n < decimalBound then .ok n else .error (.tooLong (Nat.toDigits 10 n).length) := by
  rw [readDecimal_of_isDecimal Nat.toDigits_ne_nil isDecimal_of_mem_toDigits,
    ofDigits_toDigits (by decide) (by decide)]
  split_ifs with h₁ h₂ h₂
  · exact absurd (length_toDigits_le_maxDigits.mpr h₂) (Nat.not_le.mpr h₁)
  · rfl
  · rfl
  · exact absurd (length_toDigits_le_maxDigits.mp (Nat.not_lt.mp h₁)) h₂

theorem toList_nat (n : Nat) : (toString n).toList = Nat.toDigits 10 n := by simp

theorem toList_int (z : Int) :
    (toString z).toList = if 0 ≤ z then Nat.toDigits 10 z.natAbs else '-' :: Nat.toDigits 10 z.natAbs := by
  have hrepr : toString z = if 0 ≤ z then toString z.toNat else "-" ++ toString (-z).toNat := Int.repr_eq_if
  rw [hrepr]
  split_ifs with hz
  · have habs : z.toNat = z.natAbs := by omega
    rw [habs, toList_nat]
  · have habs : (-z).toNat = z.natAbs := by omega
    rw [habs, String.toList_append, toList_nat]
    rfl

theorem space_notMem_toString (z : Int) : ' ' ∉ (toString z).toList := by
  have hdigits : ' ' ∉ Nat.toDigits 10 z.natAbs := by
    intro h
    exact isDecimal_ne (isDecimal_of_mem_toDigits _ h) (by decide) rfl
  rw [toList_int]
  split_ifs
  · exact hdigits
  · simpa using hdigits

theorem readDecimal_toString {z : Int} (h : z.natAbs < decimalBound) : readDecimal (toString z).toList = .ok z := by
  rw [toList_int]
  split_ifs with hz
  · rw [readDecimal_toDigits, if_pos h]
    exact congrArg _ (by omega)
  · obtain ⟨hdigits, hlength⟩ :=
      digits?_of_isDecimal (Nat.toDigits_ne_nil (b := 10) (n := z.natAbs)) isDecimal_of_mem_toDigits
    have hbound := length_toDigits_le_maxDigits.mpr h
    have hvalue := ofDigits_toDigits (b := 10) (by decide) (by decide) z.natAbs
    simp only [readDecimal, signed, hdigits]
    rw [if_neg (by omega), hvalue]
    exact congrArg _ (by omega)

end ScriptBinding.Text
