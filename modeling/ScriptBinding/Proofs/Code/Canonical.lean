import ScriptBinding.Proofs.Code.Identifiers
import ScriptBinding.Proofs.Text.Ends

/-!
Identifiers in their canonical form. What is made of a text keeps its letters and digits, and a text that is
already canonical stays as it is.
-/

namespace ScriptBinding.Code

open Text

def isAlphanumeric (c : Char) : Bool := isLetter c || isDigit c

def isUnderscore (c : Char) : Bool := c = '_'

theorem isAlphanumeric_of_isNameChar {c : Char} (h : isNameChar c = true) : isAlphanumeric c = !isUnderscore c := by
  cases hc : isUnderscore c with
  | true =>
    obtain rfl : c = '_' := of_decide_eq_true hc
    rfl
  | false =>
    rw [isNameChar, show decide (c = '_') = false from hc, Bool.or_false] at h
    exact h

theorem bridgeGaps_eq_self {cs : List Char} (h : ∀ c ∈ cs, isNameChar c = true) : bridgeGaps false cs = cs := by
  induction cs with
  | nil => rfl
  | cons c cs ih =>
    obtain ⟨hc, hcs⟩ := List.forall_mem_cons.mp h
    rw [bridgeGaps, if_pos hc, ih hcs]

theorem filter_bridgeGaps (inGap : Bool) (cs : List Char) :
    (bridgeGaps inGap cs).filter isAlphanumeric = cs.filter isAlphanumeric := by
  induction cs generalizing inGap with
  | nil => rfl
  | cons c cs ih =>
    rw [bridgeGaps]
    split_ifs with hc hgap
    · rw [List.filter_cons, List.filter_cons, ih]
    all_goals
      have hdropped : ¬ isAlphanumeric c = true := by
        rw [isNameChar, Bool.or_eq_true, not_or] at hc
        exact hc.1
    · rw [List.filter_cons_of_neg hdropped]
      exact ih true
    · rw [List.filter_cons_of_neg hdropped, List.filter_cons_of_neg (by decide)]
      exact ih true

theorem trimUnderscores_bridgeGaps_eq_nil_iff {cs : List Char} :
    trimUnderscores (bridgeGaps false cs) = [] ↔ ∀ c ∈ cs, isAlphanumeric c = false := by
  have hkept : (∀ c ∈ bridgeGaps false cs, isUnderscore c = true) ↔
      (bridgeGaps false cs).filter isAlphanumeric = [] := by
    rw [List.filter_eq_nil_iff]
    refine forall₂_congr fun c hc => ?_
    rw [isAlphanumeric_of_isNameChar (isNameChar_of_mem_bridgeGaps c hc)]
    simp
  have htrim : trimUnderscores (bridgeGaps false cs) = [] ↔ ∀ c ∈ bridgeGaps false cs, isUnderscore c = true :=
    rdropWhile_dropWhile_eq_nil_iff
  rw [htrim, hkept, filter_bridgeGaps, List.filter_eq_nil_iff]
  simp

/-- The middle of an identifier: a digit may stand at its front. -/
structure Core (cs : List Char) : Prop where
  chars : ∀ c ∈ cs, isNameChar c = true
  trimmed : Trimmed isUnderscore cs

theorem core_trimUnderscores {cs : List Char} (h : ∀ c ∈ cs, isNameChar c = true) : Core (trimUnderscores cs) :=
  ⟨isNameChar_of_mem_trimUnderscores h, trimmed_rdropWhile_dropWhile⟩

theorem guardDigit_eq_self {cs : List Char} (h : ∀ c ∈ cs.head?, isDigit c = false) : guardDigit cs = cs := by
  cases cs with
  | nil => rfl
  | cons c cs => rw [guardDigit, h c rfl, if_neg Bool.false_ne_true]

theorem trimUnderscores_guardDigit {cs : List Char} (h : Trimmed isUnderscore cs) :
    trimUnderscores (guardDigit cs) = cs := by
  cases cs with
  | nil => rfl
  | cons c cs =>
    rw [guardDigit]
    split
    · exact h.eq_self
    · exact h.eq_self

/-- The underscore in front of a digit is trimmed and set again. -/
theorem Core.identifierChars_guardDigit {cs : List Char} (h : Core cs) :
    identifierChars (guardDigit cs) = guardDigit cs := by
  rw [identifierChars, bridgeGaps_eq_self (isNameChar_of_mem_guardDigit h.chars), trimUnderscores_guardDigit h.trimmed]

theorem guardDigit_eq_nil_iff {cs : List Char} : guardDigit cs = [] ↔ cs = [] := by
  cases cs with
  | nil => rfl
  | cons c cs =>
    rw [guardDigit]
    split <;> simp

theorem identifierOf_eq_empty_iff {name : String} :
    identifierOf name = "" ↔ ∀ c ∈ name.toList, isAlphanumeric c = false := by
  rw [identifierOf, String.ofList_eq_empty_iff, identifierChars, guardDigit_eq_nil_iff,
    trimUnderscores_bridgeGaps_eq_nil_iff]

theorem identifierOf_identifierOf (name : String) : identifierOf (identifierOf name) = identifierOf name := by
  have hcore : Core (trimUnderscores (bridgeGaps false name.toList)) :=
    core_trimUnderscores isNameChar_of_mem_bridgeGaps
  have htoList : (identifierOf name).toList = guardDigit (trimUnderscores (bridgeGaps false name.toList)) :=
    String.toList_ofList
  rw [identifierOf, htoList, hcore.identifierChars_guardDigit, ← htoList, String.ofList_toList]

theorem IsName.identifierOf_eq_self {name : String} (h : IsName name) (htrimmed : Trimmed isUnderscore name.toList) :
    identifierOf name = name := by
  obtain ⟨-, hhead, hpart⟩ := h
  have hchars := Core.identifierChars_guardDigit ⟨hpart, htrimmed⟩
  rw [guardDigit_eq_self hhead] at hchars
  rw [identifierOf, hchars, String.ofList_toList]

/-- What is made of a text is a name, unless the text has no letter and no digit; made again it stays the same, and so
does every name without an underscore at its ends. -/
theorem identifierOf_canonical (name : String) :
    (identifierOf name = "" ↔ ∀ c ∈ name.toList, isLetter c = false ∧ isDigit c = false) ∧
      (identifierOf name = "" ∨ IsName (identifierOf name)) ∧
      identifierOf (identifierOf name) = identifierOf name ∧
      (IsName name → Trimmed isUnderscore name.toList → identifierOf name = name) := by
  refine ⟨?_, isName_identifierOf name, identifierOf_identifierOf name, IsName.identifierOf_eq_self⟩
  rw [identifierOf_eq_empty_iff]
  exact forall₂_congr fun c _ => Bool.or_eq_false_iff

/-- An underscore stays at the front before a digit only, or is put there. -/
example : identifierOf "_1" = "_1" ∧ identifierOf "_a" = "a" ∧ identifierOf "3<x>" = "_3_x" := by decide

end ScriptBinding.Code
