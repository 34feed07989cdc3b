import Mathlib.Tactic.SplitIfs
import ScriptBinding.Text.Digit
import ScriptBinding.Text.Lines
import ScriptBinding.Text.Word

/-!
The lines of a text: no line holds a break, and lines joined by newlines are found again.
-/

namespace ScriptBinding.Text

def Unbroken (cs : List Char) : Prop := ∀ c ∈ cs, isLineBreak c = false

instance : DecidablePred Unbroken := fun cs =>
  decidable_of_iff (cs.all (!isLineBreak ·) = true) (by simp [Unbroken])

theorem foldl_next_of_unbroken {cs : List Char} (h : Unbroken cs) (closed : List (List Char))
    (opened : List Char) :
    cs.foldl LineReader.next ⟨closed, opened, false⟩ = ⟨closed, cs.reverse ++ opened, false⟩ := by
  induction cs generalizing opened with
  | nil => rfl
  | cons c cs ih =>
    have hc : isLineBreak c = false := h c (by simp)
    simp only [List.foldl_cons, LineReader.next, Bool.false_and, Bool.false_eq_true, ↓reduceIte, hc]
    rw [ih fun c hc => h c (by simp [hc])]
    simp

theorem foldl_next_intercalate {l : List Char} {ls : List (List Char)}
    (h : ∀ m ∈ l :: ls, Unbroken m) (closed : List (List Char)) :
    (['\n'].intercalate (l :: ls)).foldl LineReader.next ⟨closed, [], false⟩ =
      ⟨(l :: ls).dropLast.reverse ++ closed, ((l :: ls).getLast (by simp)).reverse, false⟩ := by
  induction ls generalizing l closed with
  | nil =>
    rw [List.intercalate_singleton, foldl_next_of_unbroken (h l (by simp))]
    simp
  | cons m ls ih =>
    have hbreak : LineReader.next ⟨closed, l.reverse, false⟩ '\n' = ⟨l :: closed, [], false⟩ := by
      simp [LineReader.next, isLineBreak]
    rw [List.intercalate_cons_cons, List.foldl_append, List.foldl_append,
      foldl_next_of_unbroken (h l (by simp)), List.append_nil, List.foldl_cons, List.foldl_nil, hbreak,
      ih fun n hn => h n (by simp [hn])]
    simp [List.dropLast_cons_of_ne_nil]

/-- Joined lines are read again, except for an empty one at the end. -/
theorem lines_intercalate {ls : List (List Char)} (h : ∀ l ∈ ls, Unbroken l) :
    lines (['\n'].intercalate ls) = ls ∨ lines (['\n'].intercalate ls) ++ [[]] = ls := by
  cases ls with
  | nil => exact .inl rfl
  | cons l ls =>
    have hsplit : (l :: ls).dropLast ++ [(l :: ls).getLast (by simp)] = l :: ls :=
      List.dropLast_concat_getLast (by simp)
    have hlines := foldl_next_intercalate h []
    rw [List.append_nil] at hlines
    rw [lines, hlines, LineReader.lines]
    cases hlast : (l :: ls).getLast (by simp) with
    | nil =>
      right
      simpa [hlast] using hsplit
    | cons c cs =>
      left
      simpa [hlast] using hsplit

theorem lines_intercalate_of_getLast {ls : List (List Char)} (h : ∀ l ∈ ls, Unbroken l) (hlast : ls.getLast? ≠ some []) :
    lines (['\n'].intercalate ls) = ls := by
  rcases lines_intercalate h with hl | hl
  · exact hl
  · rw [← hl, List.getLast?_concat] at hlast
    exact absurd rfl hlast

structure LineReader.Clean (r : LineReader) : Prop where
  closed : ∀ l ∈ r.closed, Unbroken l
  opened : Unbroken r.opened

theorem Unbroken.reverse {cs : List Char} (h : Unbroken cs) : Unbroken cs.reverse :=
  fun c hc => h c (List.mem_reverse.mp hc)

theorem LineReader.Clean.next {r : LineReader} (h : r.Clean) (c : Char) : (r.next c).Clean := by
  rw [LineReader.next]
  split_ifs with hr hb
  · exact ⟨h.closed, h.opened⟩
  · refine ⟨?_, by simp [Unbroken]⟩
    intro l hl
    rcases List.mem_cons.mp hl with rfl | hl
    · exact h.opened.reverse
    · exact h.closed l hl
  · refine ⟨h.closed, ?_⟩
    intro d hd
    rcases List.mem_cons.mp hd with rfl | hd
    · simpa using hb
    · exact h.opened d hd

theorem LineReader.Clean.foldl {r : LineReader} (h : r.Clean) (cs : List Char) :
    (cs.foldl LineReader.next r).Clean := by
  induction cs generalizing r with
  | nil => exact h
  | cons c cs ih => exact ih (h.next c)

theorem unbroken_of_mem_lines {cs l : List Char} (h : l ∈ lines cs) : Unbroken l := by
  have hclean : LineReader.Clean {} := ⟨by simp, by simp [Unbroken]⟩
  obtain ⟨hc, ho⟩ := hclean.foldl cs
  rw [lines, LineReader.lines, List.mem_reverse] at h
  split_ifs at h with he
  · exact hc l h
  · rcases List.mem_cons.mp h with rfl | h
    · exact ho.reverse
    · exact hc l h

theorem lines_singleton {cs : List Char} (hne : cs ≠ []) (h : Unbroken cs) : lines cs = [cs] := by
  have hall : ∀ l ∈ [cs], Unbroken l := by simpa using h
  rcases lines_intercalate hall with hl | hl
  · simpa using hl
  · rw [List.append_eq_cons_iff] at hl
    simp_all

theorem newline_not_mem {cs : List Char} (h : Unbroken cs) : '\n' ∉ cs :=
  fun hm => by simpa [isLineBreak] using h '\n' hm

@[simp] theorem unbroken_nil : Unbroken [] := by simp [Unbroken]

@[simp] theorem unbroken_cons {c : Char} {cs : List Char} :
    Unbroken (c :: cs) ↔ isLineBreak c = false ∧ Unbroken cs := by
  simp [Unbroken]

@[simp] theorem unbroken_append {as bs : List Char} :
    Unbroken (as ++ bs) ↔ Unbroken as ∧ Unbroken bs := by
  simp [Unbroken, or_imp, forall_and]

def breakCodes : List Nat := [0x0a, 0x0b, 0x0c, 0x0d, 0x1c, 0x1d, 0x1e, 0x85, 0x2028, 0x2029]

theorem mem_breakCodes {c : Char} (h : isLineBreak c = true) : c.toNat ∈ breakCodes := by
  simp only [isLineBreak, Bool.or_eq_true, Bool.and_eq_true, decide_eq_true_eq, beq_iff_eq] at h
  simp only [breakCodes, List.mem_cons, List.not_mem_nil, or_false]
  omega

theorem unbroken_of_isDecimal {cs : List Char} (h : ∀ c ∈ cs, isDecimal c = true) : Unbroken cs := by
  have hcodes : ∀ n ∈ breakCodes, ∀ z ∈ zeros, ¬ (z ≤ n ∧ n < z + 10) := by decide
  intro c hc
  apply Bool.eq_false_iff.mpr
  intro hb
  have hd := h c hc
  simp only [isDecimal, decimalValue?, Option.isSome_map, List.find?_isSome, Bool.and_eq_true,
    decide_eq_true_eq] at hd
  obtain ⟨z, hz, hzc⟩ := hd
  exact hcodes _ (mem_breakCodes hb) z hz hzc

theorem unbroken_of_isWord {cs : List Char} (h : ∀ c ∈ cs, isWord c = true) : Unbroken cs := by
  have hcodes : ∀ n ∈ breakCodes, covers wordRanges n = false := by decide +kernel
  intro c hc
  apply Bool.eq_false_iff.mpr
  intro hb
  have hw := h c hc
  rw [isWord, hcodes _ (mem_breakCodes hb)] at hw
  cases hw

namespace LineReader

/-- The reader with some lines already closed in front of its own. -/
def behind (closed : List (List Char)) (r : LineReader) : LineReader := ⟨r.closed ++ closed, r.opened, r.afterReturn⟩

theorem next_behind (closed : List (List Char)) (r : LineReader) (c : Char) :
    (r.behind closed).next c = (r.next c).behind closed := by
  unfold next behind
  split_ifs <;> rfl

theorem foldl_behind (closed : List (List Char)) (r : LineReader) (cs : List Char) :
    cs.foldl next (r.behind closed) = (cs.foldl next r).behind closed := by
  induction cs generalizing r with
  | nil => rfl
  | cons c cs ih => rw [List.foldl_cons, List.foldl_cons, next_behind, ih]

theorem lines_behind (closed : List (List Char)) (r : LineReader) :
    (r.behind closed).lines = closed.reverse ++ r.lines := by
  unfold lines behind
  dsimp only
  split_ifs
  · exact List.reverse_append
  · rw [← List.cons_append, List.reverse_append]

theorem opened_next_eq_nil {r : LineReader} {c : Char} (h : (r.next c).afterReturn = true) :
    (r.next c).opened = [] := by
  unfold next at h ⊢
  split_ifs at h ⊢
  rfl

theorem opened_foldl_eq_nil {cs : List Char} (h : (cs.foldl next {}).afterReturn = true) :
    (cs.foldl next {}).opened = [] := by
  rcases List.eq_nil_or_concat cs with rfl | ⟨cs, c, rfl⟩
  · rfl
  · rw [List.concat_eq_append, List.foldl_append, List.foldl_cons, List.foldl_nil] at h ⊢
    exact opened_next_eq_nil h

end LineReader

theorem lines_append_newline (as bs : List Char) : lines (as ++ '\n' :: bs) = lines as ++ lines bs ∨
    lines (as ++ '\n' :: bs) = lines as ++ [] :: lines bs := by
  have hjoined (closed : List (List Char)) (h : (as.foldl LineReader.next {}).next '\n' = LineReader.behind closed {}) :
      lines (as ++ '\n' :: bs) = closed.reverse ++ lines bs := by
    rw [lines, List.foldl_append, List.foldl_cons, h, LineReader.foldl_behind, LineReader.lines_behind, lines]
  -- Only a newline at the start or behind a break other than a return adds an empty line.
  have hempty : (as.foldl LineReader.next {}).afterReturn = true → (as.foldl LineReader.next {}).opened = [] :=
    LineReader.opened_foldl_eq_nil
  have hlines : lines as = (as.foldl LineReader.next {}).lines := rfl
  generalize as.foldl LineReader.next {} = r at hjoined hempty hlines
  obtain ⟨closed, opened, afterReturn⟩ := r
  cases afterReturn with
  | true =>
    obtain rfl : opened = [] := hempty rfl
    left
    rw [hjoined closed rfl, hlines]
    rfl
  | false =>
    rw [hjoined (opened.reverse :: closed) rfl, hlines, List.reverse_cons, List.append_assoc]
    cases opened with
    | nil =>
      right
      rfl
    | cons c opened =>
      left
      rw [← List.append_assoc, ← List.reverse_cons]
      rfl

/-- A newline behind a return, and one behind another break. -/
example : lines "a\r\nb\rc\u2028\n".toList = ["a", "b", "c", ""].map String.toList := by
  decide

end ScriptBinding.Text
