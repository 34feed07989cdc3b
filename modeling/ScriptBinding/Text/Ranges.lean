/-!
Sets of characters given as ascending ranges of code points.
-/

namespace ScriptBinding.Text

/-- Whether `n` is in one of the ranges; they ascend, so the search stops at the first that starts
beyond `n`. -/
def covers : List (Nat × Nat) → Nat → Bool
  | [], _ => false
  | (low, high) :: rest, n => if n < low then false else n ≤ high || covers rest n

def ascending : List (Nat × Nat) → Bool
  | [] => true
  | [(low, high)] => low ≤ high
  | (low, high) :: next :: rest => low ≤ high && high + 1 < next.1 && ascending (next :: rest)

@[simp] theorem covers_nil (n : Nat) : covers [] n = false := rfl

theorem ascending_cons {low high : Nat} {rest : List (Nat × Nat)} (h : ascending ((low, high) :: rest) = true) :
    low ≤ high ∧ ascending rest = true ∧ ∀ r ∈ rest, high < r.1 := by
  induction rest generalizing low high with
  | nil => exact ⟨by simpa [ascending] using h, rfl, by simp⟩
  | cons next rest ih =>
    obtain ⟨low', high'⟩ := next
    simp only [ascending, Bool.and_eq_true, decide_eq_true_eq] at h
    obtain ⟨⟨hrange, hgap⟩, hrest⟩ := h
    obtain ⟨hnext, -, hlater⟩ := ih hrest
    refine ⟨hrange, hrest, ?_⟩
    intro r hr
    rcases List.mem_cons.mp hr with rfl | hr
    · exact Nat.lt_of_succ_lt hgap
    · have := hlater r hr
      omega

/-- The search misses no range, although it stops early. -/
theorem covers_iff {ranges : List (Nat × Nat)} {n : Nat} (h : ascending ranges = true) :
    covers ranges n = true ↔ ∃ r ∈ ranges, r.1 ≤ n ∧ n ≤ r.2 := by
  induction ranges with
  | nil => simp
  | cons r rest ih =>
    obtain ⟨low, high⟩ := r
    obtain ⟨hrange, hrest, hlater⟩ := ascending_cons h
    simp only [List.mem_cons, or_and_right, exists_or, exists_eq_left]
    rw [← ih hrest, covers]
    by_cases hlow : n < low
    · have hnone : covers rest n = false := by
        rw [← Bool.not_eq_true, ih hrest]
        rintro ⟨r, hr, hbelow, -⟩
        have := hlater r hr
        omega
      simp [hlow, hnone, Nat.not_le_of_lt hlow]
    · simp [hlow, Nat.le_of_not_lt hlow]

end ScriptBinding.Text
