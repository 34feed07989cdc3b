/-!
Fragments of code as lists of lines. Indentation is added from outside, one level at a time, and
empty lines stay empty.
-/

namespace ScriptBinding.Code

abbrev Fragment := List String

namespace Fragment

def indentLine (line : String) : String := if line.isEmpty then line else "    " ++ line

def indent (code : Fragment) : Fragment := code.map indentLine

def indentBy : Nat → Fragment → Fragment
  | 0, code => code
  | level + 1, code => indent (indentBy level code)

def block (header : String) (body : Fragment) (footer : String := "\x7d") : Fragment :=
  header :: indent body ++ [footer]

/-- The lines of a text: one more than it has newlines. -/
def ofText (text : String) : Fragment := (text.toList.splitOn '\n').map String.ofList

def toText (code : Fragment) : String := String.intercalate "\n" code

@[simp] theorem length_indent (code : Fragment) : (indent code).length = code.length := by
  simp [indent]

@[simp] theorem indent_nil : indent [] = [] := rfl

@[simp] theorem indent_cons (line : String) (code : Fragment) :
    indent (line :: code) = indentLine line :: indent code := rfl

@[simp] theorem indent_append (a b : Fragment) : indent (a ++ b) = indent a ++ indent b := by
  simp [indent]

@[simp] theorem length_indentBy (level : Nat) (code : Fragment) : (indentBy level code).length = code.length := by
  induction level with
  | zero => rfl
  | succ level ih => rw [indentBy, length_indent, ih]

@[simp] theorem indentBy_nil (level : Nat) : indentBy level [] = [] :=
  List.eq_nil_of_length_eq_zero (length_indentBy level [])

@[simp] theorem indentBy_append (level : Nat) (a b : Fragment) :
    indentBy level (a ++ b) = indentBy level a ++ indentBy level b := by
  induction level with
  | zero => rfl
  | succ level ih => simp [indentBy, ih]

theorem indentBy_indent (level : Nat) (code : Fragment) :
    indentBy level (indent code) = indent (indentBy level code) := by
  induction level with
  | zero => rfl
  | succ level ih => simp only [indentBy, ih]

end Fragment

end ScriptBinding.Code
