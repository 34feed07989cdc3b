import ScriptBinding.Dump.Line
import ScriptBinding.Proofs.Text.Digits
import ScriptBinding.Proofs.Text.Lines

/-!
How a dump lays out a heading and an attribute, and that both are read back.
-/

namespace ScriptBinding.Dump

open Text

def tagText (tag : Option String) : List Char :=
  tag.elim [] fun tag => " (DW_TAG_".toList ++ (tag.toList ++ [')'])

/-- ` <1><2d>: Abbrev Number: 2 (DW_TAG_class_type)`, or the same without a tag. -/
def headingText (depth offset abbreviation : List Char) (tag : Option String) : List Char :=
  [' '] ++ '<' :: (depth ++ (['>', '<'] ++ (offset ++ (">: Abbrev Number: ".toList ++
    (abbreviation ++ tagText tag)))))

/-- `    <2e>   DW_AT_name : Led` -/
def attributeText (address : List Char) (key value : String) : List Char :=
  "    ".toList ++ '<' :: (address ++ (['>'] ++ ("   ".toList ++ ("DW_AT_".toList ++
    (key.toList ++ ([' '] ++ ':' :: ' ' :: value.toList))))))

def IsWordText (s : String) : Prop := s.toList ≠ [] ∧ ∀ c ∈ s.toList, isWord c = true

instance : DecidablePred IsWordText := fun s =>
  decidable_of_iff (s.toList ≠ [] ∧ s.toList.all isWord = true) (and_congr_right' List.all_eq_true)

theorem isDecimal_space : isDecimal ' ' = false := by decide

theorem isDecimal_close : isDecimal '>' = false := by decide

theorem isWord_space : isWord ' ' = false := by decide

theorem isWord_paren : isWord ')' = false := by decide

theorem readTag?_tagText {tag : Option String} (h : ∀ s ∈ tag, IsWordText s) :
    readTag? (tagText tag) = tag := by
  cases tag with
  | none => simp [readTag?, tagText, after?]
  | some tag =>
    obtain ⟨hne, hw⟩ := h tag rfl
    simp only [readTag?, tagText, Option.elim_some, after?_append, Option.bind_eq_bind, Option.bind_some]
    rw [run?_append hne hw (by simp [isWord_paren])]
    simp [after?]

theorem head?_tagText (tag : Option String) : ∀ c ∈ (tagText tag).head?, isDecimal c = false := by
  cases tag with
  | none => simp [tagText]
  | some tag => simp [tagText, isDecimal_space]

theorem after?_trimStart {c : Char} {cs : List Char} (hc : isBlank c = false) (blanks : List Char)
    (hb : ∀ b ∈ blanks, isBlank b = true) : after? [c] (trimStart (blanks ++ c :: cs)) = some cs := by
  rw [trimStart, List.dropWhile_append_of_pos hb, List.dropWhile_cons_of_neg (by simp [hc])]
  simp [after?]

theorem readHeading?_headingText {depth offset abbreviation : List Char} {tag : Option String}
    (hd : depth ≠ []) (hdd : ∀ c ∈ depth, isDecimal c = true) (ho : offset ≠ [])
    (hoh : ∀ c ∈ offset, isHexDigit c = true) (ha : abbreviation ≠ [])
    (had : ∀ c ∈ abbreviation, isDecimal c = true) (ht : ∀ s ∈ tag, IsWordText s) :
    readHeading? (headingText depth offset abbreviation tag) = some ⟨depth, offset, tag⟩ := by
  simp only [readHeading?, headingText, Option.bind_eq_bind]
  rw [after?_trimStart (by decide) [' '] (by simp [isBlank]), Option.bind_some,
    run?_append hd hdd (by simp [isDecimal_close]), Option.bind_some, after?_append, Option.bind_some,
    run?_append ho hoh (by simp [isHexDigit]), Option.bind_some, after?_append, Option.bind_some,
    run?_append ha had (head?_tagText tag), Option.bind_some, readTag?_tagText ht]
  rfl

theorem readAttribute?_attributeText {address : List Char} {key value : String} (ha : address ≠ [])
    (hah : ∀ c ∈ address, isHexDigit c = true) (hk : IsWordText key)
    (hv : trimEnd value.toList = value.toList) :
    readAttribute? (attributeText address key value) = some (key, value) := by
  have hcolon : after? [':'] (trimStart ([' '] ++ ':' :: ' ' :: value.toList)) =
      some ([' '] ++ value.toList) := after?_trimStart (by decide) [' '] (by simp [isBlank])
  simp only [readAttribute?, attributeText, Option.bind_eq_bind]
  rw [after?_trimStart (by decide) "    ".toList (by simp [isBlank]), Option.bind_some,
    run?_append ha hah (by simp [isHexDigit]), Option.bind_some, after?_append, Option.bind_some,
    run?_append (by decide) (by simp [isBlank]) (by simp [isBlank]), Option.bind_some, after?_append,
    Option.bind_some, run?_append hk.1 hk.2 (by simp [isWord_space]), Option.bind_some, hcolon,
    Option.bind_some, after?_append]
  simp [hv]

theorem readHeading?_attributeText {address : List Char} {key value : String}
    (hah : ∀ c ∈ address, isHexDigit c = true) :
    readHeading? (attributeText address key value) = none := by
  have hopen (rest : List Char) :
      after? ['>', '<'] ((address ++ ('>' :: ' ' :: rest)).dropWhile isDecimal) = none := by
    induction address with
    | nil => simp [isDecimal_close, after?]
    | cons c address ih =>
      have hc : c ≠ '>' := by
        rintro rfl
        simpa [isHexDigit] using hah '>' (by simp)
      by_cases hd : isDecimal c = true
      · rw [List.cons_append, List.dropWhile_cons_of_pos hd]
        exact ih fun c hc => hah c (by simp [hc])
      · rw [List.cons_append, List.dropWhile_cons_of_neg hd]
        simp [after?, Ne.symm hc]
  have hrest : address ++ (['>'] ++ ("   ".toList ++ ("DW_AT_".toList ++
      (key.toList ++ ([' '] ++ ':' :: ' ' :: value.toList))))) =
      address ++ ('>' :: ' ' :: ("  ".toList ++ ("DW_AT_".toList ++
        (key.toList ++ ([' '] ++ ':' :: ' ' :: value.toList))))) := by simp
  simp only [readHeading?, attributeText, Option.bind_eq_bind]
  rw [after?_trimStart (by decide) "    ".toList (by simp [isBlank]), Option.bind_some, hrest]
  cases hr : run? isDecimal (address ++ ('>' :: ' ' :: ("  ".toList ++ ("DW_AT_".toList ++
      (key.toList ++ ([' '] ++ ':' :: ' ' :: value.toList)))))) with
  | none => rfl
  | some r =>
    rw [Option.bind_some, (run?_eq_some hr).2.2, hopen]
    rfl

theorem toNat_of_isHexDigit {c : Char} (h : isHexDigit c = true) :
    (48 ≤ c.toNat ∧ c.toNat ≤ 57) ∨ (97 ≤ c.toNat ∧ c.toNat ≤ 102) ∨ (65 ≤ c.toNat ∧ c.toNat ≤ 70) := by
  simp only [isHexDigit, Bool.or_eq_true, Bool.and_eq_true, decide_eq_true_eq, Char.le_def,
    UInt32.le_iff_toNat_le, or_assoc] at h
  exact h

theorem unbroken_of_isHexDigit {cs : List Char} (h : ∀ c ∈ cs, isHexDigit c = true) : Unbroken cs := by
  intro c hc
  apply Bool.eq_false_iff.mpr
  intro hb
  have hrange := toNat_of_isHexDigit (h c hc)
  have hcode := mem_breakCodes hb
  simp only [breakCodes, List.mem_cons, List.not_mem_nil, or_false] at hcode
  omega

theorem unbroken_headingText {depth offset abbreviation : List Char} {tag : Option String}
    (hd : ∀ c ∈ depth, isDecimal c = true) (ho : ∀ c ∈ offset, isHexDigit c = true)
    (ha : ∀ c ∈ abbreviation, isDecimal c = true) (ht : ∀ s ∈ tag, IsWordText s) :
    Unbroken (headingText depth offset abbreviation tag) := by
  have htag : Unbroken (tagText tag) := by
    cases tag with
    | none => simp [tagText]
    | some s => simp [tagText, unbroken_of_isWord (ht s rfl).2, isLineBreak]
  simp [headingText, unbroken_of_isDecimal hd, unbroken_of_isHexDigit ho, unbroken_of_isDecimal ha,
    htag, isLineBreak]

theorem unbroken_attributeText {address : List Char} {key value : String}
    (ha : ∀ c ∈ address, isHexDigit c = true) (hk : IsWordText key) (hv : Unbroken value.toList) :
    Unbroken (attributeText address key value) := by
  simp [attributeText, unbroken_of_isHexDigit ha, unbroken_of_isWord hk.2, hv, isLineBreak]

end ScriptBinding.Dump
