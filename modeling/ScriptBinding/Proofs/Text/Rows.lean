import ScriptBinding.Proofs.Text.Lines

/-!
The lines of a text together with what ends them, and the text that is left when some of them are taken out. It has
the lines that are left, but for one case: an empty line that comes to stand behind a return ends in a newline which
then belongs to that return.
-/

namespace ScriptBinding.Text

/-- A line, and the break behind it: one character, a return with a newline, or nothing at the end of the text. -/
structure Row where
  text : List Char
  ending : List Char
deriving DecidableEq

namespace Row

def chars (row : Row) : List Char := row.text ++ row.ending

def endsInReturn (row : Row) : Bool := row.ending = ['\r']

def isNewline (row : Row) : Bool := row = ⟨[], ['\n']⟩

end Row

/-- Puts a character that breaks no line in front of the first row. -/
def lengthen (c : Char) : List Row → List Row
  | [] => [⟨[c], []⟩]
  | row :: rest => ⟨c :: row.text, row.ending⟩ :: rest

def rows : List Char → List Row
  | [] => []
  | '\r' :: '\n' :: cs => ⟨[], ['\r', '\n']⟩ :: rows cs
  | c :: cs => if isLineBreak c then ⟨[], [c]⟩ :: rows cs else lengthen c (rows cs)

def joinRows (rs : List Row) : List Char := rs.flatMap Row.chars

/-- Rows as a text can have them: every one but the last ends in a break. -/
inductive Written : List Row → Prop
  | nil : Written []
  | last {text : List Char} : text ≠ [] → Unbroken text → Written [⟨text, []⟩]
  | broken {text : List Char} {c : Char} {rs : List Row} :
    Unbroken text → isLineBreak c = true → Written rs → Written (⟨text, [c]⟩ :: rs)
  | returned {text : List Char} {rs : List Row} :
    Unbroken text → Written rs → Written (⟨text, ['\r', '\n']⟩ :: rs)

/-- Leaves out each newline on its own that stands directly behind a return. -/
def settle : Bool → List Row → List Row
  | _, [] => []
  | afterReturn, row :: rs =>
    if afterReturn && row.isNewline then settle false rs else row :: settle row.endsInReturn rs

section Rows

variable {text : List Char} {c : Char} {rs : List Row}

theorem joinRows_lengthen (c : Char) (rs : List Row) : joinRows (lengthen c rs) = c :: joinRows rs := by
  cases rs <;> rfl

theorem joinRows_rows (cs : List Char) : joinRows (rows cs) = cs := by
  fun_induction rows cs with
  | case1 => rfl
  | case2 cs ih => exact congrArg (['\r', '\n'] ++ ·) ih
  | case3 c cs _ _ ih => exact congrArg ([c] ++ ·) ih
  | case4 c cs _ _ ih => rw [joinRows_lengthen, ih]

theorem Written.lengthen (h : Written rs) (hc : isLineBreak c = false) : Written (lengthen c rs) := by
  cases h with
  | nil => exact .last (by simp) (by simp [hc])
  | last _ htext => exact .last (by simp) (by simp [hc, htext])
  | broken htext hbreak hrs => exact .broken (by simp [hc, htext]) hbreak hrs
  | returned htext hrs => exact .returned (by simp [hc, htext]) hrs

theorem written_rows (cs : List Char) : Written (rows cs) := by
  fun_induction rows cs with
  | case1 => exact .nil
  | case2 cs ih => exact .returned unbroken_nil ih
  | case3 c cs _ hc ih => exact .broken unbroken_nil hc ih
  | case4 c cs _ hc ih => exact ih.lengthen (by simpa using hc)

theorem Written.sublist {kept : List Row} (h : Written rs) (hkept : kept.Sublist rs) : Written kept := by
  induction h generalizing kept with
  | nil => rw [List.sublist_nil.mp hkept]; exact .nil
  | last hne htext =>
    cases hkept with
    | cons _ hkept => rw [List.sublist_nil.mp hkept]; exact .nil
    | cons_cons _ hkept => rw [List.sublist_nil.mp hkept]; exact .last hne htext
  | broken htext hc _ ih =>
    cases hkept with
    | cons _ hkept => exact ih hkept
    | cons_cons _ hkept => exact .broken htext hc (ih hkept)
  | returned htext _ ih =>
    cases hkept with
    | cons _ hkept => exact ih hkept
    | cons_cons _ hkept => exact .returned htext (ih hkept)

theorem settle_lengthen (afterReturn : Bool) (h : settle false rs = rs) :
    settle afterReturn (lengthen c rs) = lengthen c rs := by
  cases rs with
  | nil => simp [lengthen, settle, Row.isNewline]
  | cons row rs =>
    have hrest : settle row.endsInReturn rs = rs := by simpa [settle] using h
    simpa [lengthen, settle, Row.isNewline, Row.endsInReturn] using hrest

theorem settle_rows {cs : List Char} {afterReturn : Bool} (h : afterReturn = true → cs.head? ≠ some '\n') :
    settle afterReturn (rows cs) = rows cs := by
  fun_induction rows cs generalizing afterReturn with
  | case1 => rfl
  | case2 cs ih =>
    rw [settle, if_neg (by simp [Row.isNewline]), ih (by simp [Row.endsInReturn])]
  | case3 c cs hreturn hc ih =>
    have hnewline : ¬ (afterReturn && Row.isNewline ⟨[], [c]⟩) = true := by
      rw [Bool.and_eq_true]
      rintro ⟨hafter, hrow⟩
      exact h hafter (by simpa [Row.isNewline] using hrow)
    rw [settle, if_neg hnewline, ih]
    intro hends hhead
    obtain ⟨cs, rfl⟩ := List.head?_eq_some_iff.mp hhead
    exact hreturn cs (by simpa [Row.endsInReturn] using hends) rfl
  | case4 c cs _ _ ih => exact settle_lengthen afterReturn (ih (by simp))

theorem foldl_next_text (hne : text ≠ []) (h : Unbroken text) (closed : List (List Char)) (afterReturn : Bool) :
    text.foldl LineReader.next ⟨closed, [], afterReturn⟩ = ⟨closed, text.reverse, false⟩ := by
  cases text with
  | nil => exact absurd rfl hne
  | cons c text =>
    obtain ⟨hc, htext⟩ := unbroken_cons.mp h
    have hnewline : c ≠ '\n' := by
      rintro rfl
      simp [isLineBreak] at hc
    have hfirst : LineReader.next ⟨closed, [], afterReturn⟩ c = ⟨closed, [c], false⟩ := by
      simp [LineReader.next, hnewline, hc]
    rw [List.foldl_cons, hfirst, foldl_next_of_unbroken htext, List.reverse_cons]

theorem foldl_next_broken (h : Unbroken text) (hc : isLineBreak c = true) (closed : List (List Char))
    (afterReturn : Bool) : (text ++ [c]).foldl LineReader.next ⟨closed, [], afterReturn⟩ =
      if afterReturn && Row.isNewline ⟨text, [c]⟩ then ⟨closed, [], false⟩
      else ⟨text :: closed, [], Row.endsInReturn ⟨text, [c]⟩⟩ := by
  rw [List.foldl_append, List.foldl_cons, List.foldl_nil]
  by_cases hne : text = []
  · subst hne
    by_cases hnewline : c = '\n'
    · subst hnewline
      cases afterReturn <;> rfl
    · simp [LineReader.next, Row.isNewline, Row.endsInReturn, hnewline, hc]
  · rw [foldl_next_text hne h]
    simp [LineReader.next, Row.isNewline, Row.endsInReturn, hne, hc]

theorem foldl_next_returned (h : Unbroken text) (closed : List (List Char)) (afterReturn : Bool) :
    (text ++ ['\r', '\n']).foldl LineReader.next ⟨closed, [], afterReturn⟩ = ⟨text :: closed, [], false⟩ := by
  have hreturn := foldl_next_broken (c := '\r') h (by decide) closed afterReturn
  rw [if_neg (by simp [Row.isNewline])] at hreturn
  have hsplit : text ++ ['\r', '\n'] = (text ++ ['\r']) ++ ['\n'] := by simp
  rw [hsplit, List.foldl_append, hreturn]
  rfl

theorem lines_foldl_joinRows (h : Written rs) (closed : List (List Char)) (afterReturn : Bool) :
    ((joinRows rs).foldl LineReader.next ⟨closed, [], afterReturn⟩).lines =
      closed.reverse ++ (settle afterReturn rs).map Row.text := by
  -- Between two rows the reader has no line open, so all it remembers is whether the last row ended in a return.
  induction h generalizing closed afterReturn with
  | nil => exact (List.append_nil _).symm
  | @last text hne htext =>
    have hjoin : joinRows [⟨text, []⟩] = text := by simp [joinRows, Row.chars]
    have hsettle : settle afterReturn [⟨text, []⟩] = [⟨text, []⟩] := by simp [settle, Row.isNewline]
    rw [hjoin, foldl_next_text hne htext, hsettle]
    simp [LineReader.lines, hne]
  | @broken text c rs htext hc _ ih =>
    have hjoin : joinRows (⟨text, [c]⟩ :: rs) = (text ++ [c]) ++ joinRows rs := rfl
    rw [hjoin, List.foldl_append, foldl_next_broken htext hc, settle]
    split_ifs with hnewline
    · exact ih closed false
    · rw [ih, List.reverse_cons, List.append_assoc]
      rfl
  | @returned text rs htext _ ih =>
    have hjoin : joinRows (⟨text, ['\r', '\n']⟩ :: rs) = (text ++ ['\r', '\n']) ++ joinRows rs := rfl
    have hends : Row.endsInReturn ⟨text, ['\r', '\n']⟩ = false := by simp [Row.endsInReturn]
    rw [hjoin, List.foldl_append, foldl_next_returned htext, ih, settle, if_neg (by simp [Row.isNewline]), hends,
      List.reverse_cons, List.append_assoc]
    rfl

theorem lines_joinRows (h : Written rs) : lines (joinRows rs) = (settle false rs).map Row.text :=
  lines_foldl_joinRows h [] false

theorem map_text_rows (cs : List Char) : (rows cs).map Row.text = lines cs := by
  have h := lines_joinRows (written_rows cs)
  rw [joinRows_rows, settle_rows (by simp)] at h
  exact h.symm

end Rows

end ScriptBinding.Text
