import ScriptBinding.Dump.Entry
import ScriptBinding.Proofs.Text.Ends

/-!
The forms in which a dump stores a name. All that stands in front of the name is taken away, however many forms
there are, and nothing of the name itself is, even where it looks like a form.
-/

namespace ScriptBinding.Dump

open Text

/-- A form in its parentheses, with the blanks behind it. -/
structure StringForm where
  text : List Char
  blanks : List Char
  closed : ')' ∉ text
  blank : ∀ c ∈ blanks, isBlank c = true

def StringForm.chars (form : StringForm) : List Char := '(' :: (form.text ++ ')' :: form.blanks)

/-- What stands in front of a name: at least one form, a colon, and blanks. -/
structure Storage where
  forms : List StringForm
  gap : List Char
  nonempty : forms ≠ []
  blank : ∀ c ∈ gap, isBlank c = true

/-- The value that a dump prints for a stored name. -/
def Storage.value (s : Storage) (name : String) : String :=
  String.ofList (s.forms.flatMap StringForm.chars ++ ':' :: (s.gap ++ name.toList))

section Reading

variable {rest : List Char}

theorem afterForms?_text {text : List Char} (h : ')' ∉ text) :
    afterForms? .inside (text ++ ')' :: rest) = afterForms? .behind rest := by
  induction text with
  | nil => rfl
  | cons c text ih =>
    rw [List.mem_cons, not_or] at h
    rw [List.cons_append, afterForms?, if_neg (Ne.symm h.1), ih h.2]

theorem afterForms?_blanks {blanks : List Char} (h : ∀ c ∈ blanks, isBlank c = true) :
    afterForms? .behind (blanks ++ rest) = afterForms? .behind rest := by
  induction blanks with
  | nil => rfl
  | cons c blanks ih =>
    obtain ⟨hc, hblanks⟩ := List.forall_mem_cons.mp h
    have hopen : c ≠ '(' := by
      rintro rfl
      cases hc
    have hcolon : c ≠ ':' := by
      rintro rfl
      cases hc
    rw [List.cons_append, afterForms?, if_neg hopen, if_neg hcolon, if_pos hc, ih hblanks]

theorem afterForms?_inside (form : StringForm) :
    afterForms? .inside (form.text ++ ')' :: form.blanks ++ rest) = afterForms? .behind rest := by
  rw [List.append_assoc, List.cons_append, afterForms?_text form.closed, afterForms?_blanks form.blank]

theorem afterForms?_first (form : StringForm) :
    afterForms? .outside (form.chars ++ rest) = afterForms? .behind rest := afterForms?_inside form

theorem afterForms?_next (form : StringForm) :
    afterForms? .behind (form.chars ++ rest) = afterForms? .behind rest := afterForms?_inside form

theorem afterForms?_forms (forms : List StringForm) :
    afterForms? .behind (forms.flatMap StringForm.chars ++ rest) = afterForms? .behind rest := by
  induction forms with
  | nil => rfl
  | cons form forms ih =>
    rw [List.flatMap_cons, List.append_assoc, afterForms?_next, ih]

end Reading

variable {name : String}

theorem Storage.afterForms?_value (s : Storage) (h : Trimmed isBlank name.toList) :
    afterForms? .outside (s.value name).toList = some name.toList := by
  have hname : trimStart (s.gap ++ name.toList) = name.toList := by
    rw [trimStart, List.dropWhile_append_of_pos s.blank, dropWhile_eq_self h.head]
  rw [Storage.value, String.toList_ofList]
  cases hforms : s.forms with
  | nil => exact absurd hforms s.nonempty
  | cons form forms =>
    rw [List.flatMap_cons, List.append_assoc, afterForms?_first, afterForms?_forms]
    exact congrArg some hname

theorem Storage.withoutForms_value (s : Storage) (h : Trimmed isBlank name.toList) :
    withoutForms (s.value name) = name := by
  rw [withoutForms, s.afterForms?_value h, Option.getD_some, h.trim_eq_self, String.ofList_toList]

example : withoutForms "(indirect string, offset: 0x5e): on" = "on" := by decide

theorem afterForms?_of_head {cs : List Char} (h : cs.head? ≠ some '(') : afterForms? .outside cs = none := by
  cases cs with
  | nil => rfl
  | cons c cs =>
    have hc : c ≠ '(' := by simpa using h
    rw [afterForms?, if_neg hc]

theorem withoutForms_eq_self (h : Trimmed isBlank name.toList) (hhead : name.toList.head? ≠ some '(') :
    withoutForms name = name := by
  rw [withoutForms, afterForms?_of_head hhead, Option.getD_none, h.trim_eq_self, String.ofList_toList]

theorem Entry.name?_of_attribute {e : Entry} {value : String} (h : e.attribute? "name" = some value)
    (hname : withoutForms value = name) : e.name? = some name := by
  rw [Entry.name?, h, Option.map_some, hname]

/-- A stored name is read as it is, and so is a name that stands there itself unless it begins like a form: the entries
of both have that name. -/
theorem Storage.name_unchanged (s : Storage) (h : Trimmed isBlank name.toList) :
    withoutForms (s.value name) = name ∧
      (∀ stored : Entry, stored.attribute? "name" = some (s.value name) → stored.name? = some name) ∧
      (name.toList.head? ≠ some '(' → withoutForms name = name ∧
        ∀ direct : Entry, direct.attribute? "name" = some name → direct.name? = some name) := by
  refine ⟨s.withoutForms_value h, ?_, ?_⟩
  · intro stored hstored
    exact Entry.name?_of_attribute hstored (s.withoutForms_value h)
  · intro hhead
    refine ⟨withoutForms_eq_self h hhead, ?_⟩
    intro direct hdirect
    exact Entry.name?_of_attribute hdirect (withoutForms_eq_self h hhead)

/-- `(strx1) (offset: 0x10): ` -/
def indexedStorage : Storage where
  forms := [⟨"strx1".toList, [' '], by decide +kernel, by simp [isBlank]⟩,
    ⟨"offset: 0x10".toList, [], by decide +kernel, by simp⟩]
  gap := [' ']
  nonempty := List.cons_ne_nil _ _
  blank := by simp [isBlank]

theorem Storage.name_unchanged_lookalike :
    Trimmed isBlank "(on): x".toList ∧ indexedStorage.value "(on): x" = "(strx1) (offset: 0x10): (on): x" ∧
      withoutForms (indexedStorage.value "(on): x") = "(on): x" :=
  ⟨by decide +kernel, by decide +kernel, (indexedStorage.name_unchanged (by decide +kernel)).1⟩

end ScriptBinding.Dump
