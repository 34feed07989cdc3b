import Mathlib.Tactic.SplitIfs
import ScriptBinding.Code.Identifier
import ScriptBinding.Proofs.Code.OneLine

/-!
C identifiers. What a class name is turned into is a part of one, which may be empty.
-/

namespace ScriptBinding

open Code

namespace Code

/-- All characters are letters, digits and underscores, as in a part of an identifier. -/
def IsPart (s : String) : Prop := ∀ c ∈ s.toList, isNameChar c = true

/-- A C identifier: a part of one that is not empty and does not start with a digit. -/
def IsName (s : String) : Prop :=
  s.toList ≠ [] ∧ (∀ c ∈ s.toList.head?, isDigit c = false) ∧ IsPart s

instance : DecidablePred IsPart := fun s => decidable_of_iff (s.toList.all isNameChar = true) List.all_eq_true

instance : DecidablePred IsName := fun s =>
  decidable_of_iff (s.toList ≠ [] ∧ s.toList.head?.all (!isDigit ·) = true ∧ s.toList.all isNameChar = true)
    (by cases h : s.toList.head? <;> simp [IsName, IsPart, h])

theorem isPart_append {s t : String} : IsPart (s ++ t) ↔ IsPart s ∧ IsPart t := by
  simp [IsPart, or_imp, forall_and]

theorem IsName.append {s t : String} (hs : IsName s) (ht : IsPart t) : IsName (s ++ t) := by
  obtain ⟨hne, hhead, hpart⟩ := hs
  refine ⟨by simp [String.toList_append, hne], ?_, isPart_append.mpr ⟨hpart, ht⟩⟩
  cases hlist : s.toList with
  | nil => exact absurd hlist hne
  | cons c cs =>
    rw [hlist] at hhead
    simpa [String.toList_append, hlist] using hhead

theorem isName_append {s t : String} (hs : s = "" ∨ IsName s) (ht : IsName t) : IsName (s ++ t) := by
  rcases hs with rfl | hs
  · rwa [String.empty_append]
  · exact hs.append ht.2.2

theorem isDigit_of_isLetter {c : Char} (h : isLetter c = true) : isDigit c = false := by
  simp only [isLetter, Bool.or_eq_true, Bool.and_eq_true, decide_eq_true_eq, Char.le_def,
    UInt32.le_iff_toNat_le] at h
  simp only [isDigit, Bool.and_eq_false_iff, decide_eq_false_iff_not, Char.le_def, UInt32.le_iff_toNat_le]
  have hupper : 'A'.val.toNat = 65 := rfl
  have hlower : 'a'.val.toNat = 97 := rfl
  have hnine : '9'.val.toNat = 57 := rfl
  omega

theorem ne_of_isNameChar {c d : Char} (hc : isNameChar c = true) (hd : isNameChar d = false) : c ≠ d := by
  rintro rfl
  rw [hc] at hd
  cases hd

theorem IsPart.oneLine {s : String} (h : IsPart s) : OneLine s :=
  fun hm => ne_of_isNameChar (h _ hm) (by decide) rfl

end Code

theorem isNameChar_of_mem_bridgeGaps {inGap : Bool} {cs : List Char} :
    ∀ c ∈ bridgeGaps inGap cs, isNameChar c = true := by
  induction cs generalizing inGap with
  | nil => simp [bridgeGaps]
  | cons c cs ih =>
    rw [bridgeGaps]
    split_ifs with hc
    · simpa [hc] using fun d hd => ih d hd
    · exact ih
    · simpa [show isNameChar '_' = true by decide] using fun d hd => ih d hd

theorem isNameChar_of_mem_trimUnderscores {cs : List Char} (h : ∀ c ∈ cs, isNameChar c = true) :
    ∀ c ∈ trimUnderscores cs, isNameChar c = true := by
  intro c hc
  rw [trimUnderscores, List.mem_reverse] at hc
  have hfront := List.mem_reverse.mp ((List.dropWhile_sublist _).subset hc)
  exact h c ((List.dropWhile_sublist _).subset hfront)

theorem isNameChar_of_mem_guardDigit {cs : List Char} (h : ∀ c ∈ cs, isNameChar c = true) :
    ∀ c ∈ guardDigit cs, isNameChar c = true := by
  cases cs with
  | nil => simp [guardDigit]
  | cons d ds =>
    rw [guardDigit]
    split_ifs
    · exact List.forall_mem_cons.mpr ⟨by decide, h⟩
    · exact h

theorem isNameChar_of_mem_identifierChars {cs : List Char} : ∀ c ∈ identifierChars cs, isNameChar c = true :=
  isNameChar_of_mem_guardDigit (isNameChar_of_mem_trimUnderscores isNameChar_of_mem_bridgeGaps)

theorem isDigit_head_guardDigit (cs : List Char) : ∀ c ∈ (guardDigit cs).head?, isDigit c = false := by
  cases cs with
  | nil => simp [guardDigit]
  | cons d ds =>
    rw [guardDigit]
    split_ifs with hd
    · simp [show isDigit '_' = false by decide]
    · simpa using hd

theorem isPart_identifierOf (name : String) : IsPart (identifierOf name) := by
  rw [identifierOf, IsPart, String.toList_ofList]
  exact isNameChar_of_mem_identifierChars

theorem oneLine_identifierOf (name : String) : OneLine (identifierOf name) :=
  (isPart_identifierOf name).oneLine

theorem isName_identifierOf (name : String) : identifierOf name = "" ∨ IsName (identifierOf name) := by
  by_cases hempty : identifierOf name = ""
  · exact .inl hempty
  · right
    refine ⟨?_, ?_, isPart_identifierOf name⟩
    · simpa using hempty
    · rw [identifierOf, String.toList_ofList]
      exact isDigit_head_guardDigit _

theorem isIdentifier_of_isName {name : String} (h : IsName name) : isIdentifier name = true := by
  obtain ⟨hne, hhead, hpart⟩ := h
  rw [isIdentifier]
  rw [IsPart] at hpart
  cases hchars : name.toList with
  | nil => exact absurd hchars hne
  | cons c cs =>
    rw [hchars, List.forall_mem_cons] at hpart
    have hfirst : isDigit c = false := hhead c (by rw [hchars]; rfl)
    have hrest : cs.dropWhile isNameChar = [] := List.dropWhile_eq_nil_iff.mpr hpart.2
    have hc := hpart.1
    simp only [isNameChar, hfirst, Bool.or_false] at hc
    rw [isIdentifierChars, hrest, hc]
    rfl

/-- The names that are accepted for methods are those of C, unless a newline ends them. -/
theorem isName_of_isIdentifier {name : String} (h : isIdentifier name = true)
    (hlast : name.toList.getLast? ≠ some '\n') : IsName name := by
  rw [isIdentifier] at h
  cases hchars : name.toList with
  | nil => simp [hchars, isIdentifierChars] at h
  | cons c cs =>
    rw [hchars, isIdentifierChars, Bool.and_eq_true] at h
    obtain ⟨hc, hcs⟩ := h
    have hrest : cs.dropWhile isNameChar = [] := by
      split at hcs
      · next hdrop => exact hdrop
      · next hdrop =>
        obtain ⟨before, hbefore⟩ := List.dropWhile_suffix isNameChar (l := cs)
        rw [hdrop] at hbefore
        rw [hchars, ← hbefore, ← List.cons_append, List.getLast?_concat] at hlast
        exact absurd rfl hlast
      · cases hcs
    have hfirst : isNameChar c = true ∧ isDigit c = false := by
      rcases Bool.or_eq_true _ _ ▸ hc with hc | hc
      · exact ⟨by simp [isNameChar, hc], isDigit_of_isLetter hc⟩
      · obtain rfl : c = '_' := by simpa using hc
        decide
    refine ⟨by simp [hchars], by simpa [hchars] using hfirst.2, ?_⟩
    intro d hd
    rw [hchars] at hd
    rcases List.mem_cons.mp hd with rfl | hd
    · exact hfirst.1
    · exact List.dropWhile_eq_nil_iff.mp hrest d hd

end ScriptBinding
