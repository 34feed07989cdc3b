import Mathlib.Data.List.DropRight
import ScriptBinding.Text.Blank

/-!
Texts that neither begin nor end with a character of a class, which are those that trimming leaves as they are.
-/

namespace ScriptBinding.Text

variable {p : Char → Bool} {cs : List Char}

/-- No character of the class stands at either end. -/
structure Trimmed (p : Char → Bool) (cs : List Char) : Prop where
  head : ∀ c ∈ cs.head?, p c = false
  last : ∀ c ∈ cs.getLast?, p c = false

instance (p : Char → Bool) : DecidablePred (Trimmed p) := fun cs =>
  decidable_of_iff (cs.head?.all (!p ·) = true ∧ cs.getLast?.all (!p ·) = true) (by
    simp only [Option.all_eq_true, Bool.not_eq_true']
    exact ⟨fun h => ⟨h.1, h.2⟩, fun h => ⟨h.head, h.last⟩⟩)

theorem dropWhile_eq_self (h : ∀ c ∈ cs.head?, p c = false) : cs.dropWhile p = cs := by
  cases cs with
  | nil => rfl
  | cons c cs => exact List.dropWhile_cons_of_neg (by simp [h c rfl])

theorem head?_dropWhile : ∀ c ∈ (cs.dropWhile p).head?, p c = false := by
  induction cs with
  | nil => simp
  | cons c cs ih =>
    rw [List.dropWhile_cons]
    split
    · exact ih
    · next hc => simpa using hc

theorem rdropWhile_eq_self (h : ∀ c ∈ cs.getLast?, p c = false) : cs.rdropWhile p = cs := by
  rw [List.rdropWhile, dropWhile_eq_self (by simpa using h), List.reverse_reverse]

theorem getLast?_rdropWhile : ∀ c ∈ (cs.rdropWhile p).getLast?, p c = false := by
  rw [List.rdropWhile, List.getLast?_reverse]
  exact head?_dropWhile

theorem head?_rdropWhile (h : ∀ c ∈ cs.head?, p c = false) : ∀ c ∈ (cs.rdropWhile p).head?, p c = false := by
  obtain ⟨dropped, hdropped⟩ := List.rdropWhile_prefix p cs
  intro c hc
  apply h
  rw [← hdropped, List.head?_append, hc]
  rfl

theorem trimmed_rdropWhile_dropWhile : Trimmed p ((cs.dropWhile p).rdropWhile p) :=
  ⟨head?_rdropWhile head?_dropWhile, getLast?_rdropWhile⟩

theorem rdropWhile_dropWhile_eq_nil_iff : (cs.dropWhile p).rdropWhile p = [] ↔ ∀ c ∈ cs, p c = true := by
  rw [List.rdropWhile_eq_nil_iff, ← List.dropWhile_eq_nil_iff, List.dropWhile_idempotent, List.dropWhile_eq_nil_iff]

theorem Trimmed.eq_self (h : Trimmed p cs) : (cs.dropWhile p).rdropWhile p = cs := by
  rw [dropWhile_eq_self h.head, rdropWhile_eq_self h.last]

theorem trimmed_trim (cs : List Char) : Trimmed isBlank (trim cs) := trimmed_rdropWhile_dropWhile

theorem Trimmed.trim_eq_self (h : Trimmed isBlank cs) : trim cs = cs := h.eq_self

end ScriptBinding.Text
