import Mathlib.Tactic.SplitIfs
import ScriptBinding.Text.Case

/-!
Lower case brings in no character from in front of the small letters.
-/

namespace ScriptBinding.Text

theorem small_of_mem_lowerRuns {r : CaseRun} (h : r ∈ lowerRuns) : 0x61 ≤ r.first + r.shift := by
  have hall : lowerRuns.all (fun r => decide (0x61 ≤ r.first + r.shift)) = true := by decide
  simpa using List.all_eq_true.mp hall r h

theorem lowerChar_cases (c : Char) : lowerChar c = c ∨ lowerChar c = '\x00' ∨ 0x61 ≤ (lowerChar c).toNat := by
  rw [lowerChar]
  cases hfind : lowerRuns.find? (·.has c.toNat) with
  | none => exact .inl rfl
  | some r =>
    have hsmall := small_of_mem_lowerRuns (List.mem_of_find?_eq_some hfind)
    have hfirst : r.first ≤ c.toNat := by
      have hhas := List.find?_some hfind
      simp only [CaseRun.has, Bool.and_eq_true, decide_eq_true_eq] at hhas
      exact hhas.1.1
    change Char.ofNat ((c.toNat : Int) + r.shift).toNat = c ∨ _
    by_cases hvalid : ((c.toNat : Int) + r.shift).toNat.isValidChar
    · have hvalue : (Char.ofNat ((c.toNat : Int) + r.shift).toNat).toNat = ((c.toNat : Int) + r.shift).toNat := by
        rw [Char.ofNat, dif_pos hvalid]
        rfl
      refine .inr (.inr ?_)
      rw [hvalue]
      omega
    · exact .inr (.inl (dif_neg hvalid))

theorem lowerBetween_cases {c d : Char} {before after : List Char} (h : d ∈ lowerBetween before c after) :
    d = c ∨ d = '\x00' ∨ 0x61 ≤ d.toNat := by
  rw [lowerBetween] at h
  split_ifs at h
  · simp only [List.mem_cons, List.not_mem_nil, or_false] at h
    rcases h with rfl | rfl <;> exact .inr (.inr (by decide))
  · obtain rfl := List.mem_singleton.mp h
    exact .inr (.inr (by decide))
  · obtain rfl := List.mem_singleton.mp h
    exact .inr (.inr (by decide))
  · obtain rfl := List.mem_singleton.mp h
    exact lowerChar_cases c

theorem mem_of_mem_lowerFrom {d : Char} (hnull : d ≠ '\x00') (hsmall : d.toNat < 0x61) {before cs : List Char}
    (h : d ∈ lowerFrom before cs) : d ∈ cs := by
  induction cs generalizing before with
  | nil => cases h
  | cons c cs ih =>
    rw [lowerFrom, List.mem_append] at h
    rcases h with h | h
    · rcases lowerBetween_cases h with rfl | rfl | hlarge
      · exact List.mem_cons_self
      · exact absurd rfl hnull
      · omega
    · exact List.mem_cons_of_mem _ (ih h)

theorem mem_of_mem_lower {d : Char} (hnull : d ≠ '\x00') (hsmall : d.toNat < 0x61) {s : String}
    (h : d ∈ (lower s).toList) : d ∈ s.toList := by
  rw [lower, String.toList_ofList] at h
  exact mem_of_mem_lowerFrom hnull hsmall h

end ScriptBinding.Text
