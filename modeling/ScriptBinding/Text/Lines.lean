/-!
Line breaks of a text, and the single newline that a file's text is read with.
-/

namespace ScriptBinding.Text

/-- Newline, vertical tab, form feed, return, the separators U+001C to U+001E, next line, and the line
and paragraph separators. -/
def isLineBreak (c : Char) : Bool :=
  let n := c.toNat
  (0x0a ≤ n && n ≤ 0x0d) || (0x1c ≤ n && n ≤ 0x1e) || n == 0x85 || n == 0x2028 || n == 0x2029

structure LineReader where
  closed : List (List Char) := []
  opened : List Char := []
  afterReturn : Bool := false

/-- A newline directly after a return belongs to the break already made. -/
def LineReader.next (r : LineReader) (c : Char) : LineReader :=
  if r.afterReturn && c = '\n' then { r with afterReturn := false }
  else if isLineBreak c then ⟨r.opened.reverse :: r.closed, [], c = '\r'⟩
  else ⟨r.closed, c :: r.opened, false⟩

def LineReader.lines (r : LineReader) : List (List Char) :=
  (if r.opened.isEmpty then r.closed else r.opened.reverse :: r.closed).reverse

/-- The lines of a text without their breaks; no empty line follows the last break. -/
def lines (cs : List Char) : List (List Char) := (cs.foldl LineReader.next {}).lines

structure NewlineReader where
  read : List Char := []
  afterReturn : Bool := false

def NewlineReader.next (r : NewlineReader) (c : Char) : NewlineReader :=
  if c = '\n' then ⟨if r.afterReturn then r.read else '\n' :: r.read, false⟩
  else if c = '\r' then ⟨'\n' :: r.read, true⟩
  else ⟨c :: r.read, false⟩

/-- A return, with or without a newline after it, becomes a newline. -/
def plainNewlines (cs : List Char) : List Char := (cs.foldl NewlineReader.next {}).read.reverse

end ScriptBinding.Text
