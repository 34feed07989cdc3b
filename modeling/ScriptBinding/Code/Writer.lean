import ScriptBinding.Code.Fragment

/-!
Code written step by step at a current level.
-/

namespace ScriptBinding.Code

/-- The lines written, the current level, and the footers of the open blocks, innermost first. -/
structure Writer where
  code : Fragment := []
  level : Nat := 0
  footers : List String := []

namespace Writer

inductive Step where
  | line (text : String)
  | lines (texts : List String)
  | raw (text : String)
  | indent
  | dedent
  | enter (header footer : String)
  | leave

def write (w : Writer) (code : Fragment) : Writer :=
  { w with code := w.code ++ Fragment.indentBy w.level code }

/-- Adds one element, which is indented at its start only even if it holds newlines. -/
def line (w : Writer) (text : String) : Writer := w.write [text]

def lines (w : Writer) (texts : List String) : Writer := texts.foldl line w

def raw (w : Writer) (text : String) : Writer := w.write (Fragment.ofText text)

def indent (w : Writer) : Writer := { w with level := w.level + 1 }

def dedent (w : Writer) : Writer := { w with level := w.level - 1 }

def openBlock (w : Writer) (header footer : String) : Writer :=
  { (w.line header).indent with footers := footer :: w.footers }

def closeBlock (w : Writer) : Writer :=
  match w.footers with
  | [] => w
  | footer :: rest => { w.dedent.line footer with footers := rest }

def step (w : Writer) : Step → Writer
  | .line text => w.line text
  | .lines texts => w.lines texts
  | .raw text => w.raw text
  | .indent => w.indent
  | .dedent => w.dedent
  | .enter header footer => w.openBlock header footer
  | .leave => w.closeBlock

def run (w : Writer) (steps : List Step) : Writer := steps.foldl step w

def text (w : Writer) : String := w.code.toText

theorem lines_eq_write (w : Writer) (texts : List String) : w.lines texts = w.write texts := by
  induction texts generalizing w with
  | nil => simp [lines, write]
  | cons text texts ih =>
    rw [lines, List.foldl_cons, ← lines, ih, line, write, write, write, List.append_assoc,
      ← Fragment.indentBy_append, List.singleton_append]

theorem run_append (w : Writer) (a b : List Step) : w.run (a ++ b) = (w.run a).run b := by
  simp [run]

theorem write_block (w : Writer) (header footer : String) (body : Fragment) :
    w.write (Fragment.block header body footer) =
      ((w.openBlock header footer).write body).closeBlock := by
  have h : Fragment.block header body footer = [header] ++ (Fragment.indent body ++ [footer]) := rfl
  simp only [h, write, openBlock, closeBlock, line, indent, dedent, Fragment.indentBy,
    Fragment.indentBy_append, Fragment.indentBy_indent, Nat.add_sub_cancel, List.append_assoc]

end Writer

end ScriptBinding.Code
