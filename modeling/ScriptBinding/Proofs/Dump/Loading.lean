import Mathlib.Tactic.SplitIfs
import ScriptBinding.Dump.Tree
import ScriptBinding.Proofs.Text.Utf8

/-!
Dumps in files. When a file is read its returns become newlines before any line is found, and its lines are still
those of the text that was written to it.
-/

namespace ScriptBinding

namespace Text

/-- Two readers behind the same characters: what the one has read with newlines alone has the lines that the other has
found. -/
structure Abreast (n : NewlineReader) (l : LineReader) : Prop where
  read : n.read.reverse.foldl LineReader.next {} = { l with afterReturn := false }
  afterReturn : n.afterReturn = l.afterReturn

namespace Abreast

variable {n : NewlineReader} {l : LineReader}

theorem foldl_cons (h : Abreast n l) (c : Char) :
    (c :: n.read).reverse.foldl LineReader.next {} = { l with afterReturn := false }.next c := by
  rw [List.reverse_cons, List.foldl_append, h.read]
  rfl

theorem next (h : Abreast n l) (c : Char) : Abreast (n.next c) (l.next c) := by
  rw [NewlineReader.next]
  split_ifs with hnewline hafter hreturn
  · -- The newline of a return: both have taken the break already.
    have hl : l.next c = { l with afterReturn := false } := by
      simp [LineReader.next, ← h.afterReturn, hafter, hnewline]
    exact ⟨by rw [hl, h.read], by rw [hl]⟩
  · subst hnewline
    have hl : l.next '\n' = ⟨l.opened.reverse :: l.closed, [], false⟩ := by
      simp [LineReader.next, ← h.afterReturn, hafter, isLineBreak]
    exact ⟨by rw [h.foldl_cons, hl]; rfl, by rw [hl]⟩
  · subst hreturn
    have hl : l.next '\r' = ⟨l.opened.reverse :: l.closed, [], true⟩ := by
      simp [LineReader.next, isLineBreak]
    exact ⟨by rw [h.foldl_cons, hl]; rfl, by rw [hl]⟩
  · have hl : { l with afterReturn := false }.next c = { l.next c with afterReturn := false } := by
      simp only [LineReader.next, hnewline, hreturn, decide_false, Bool.and_false, Bool.false_eq_true, if_false]
      split_ifs <;> rfl
    have hafter : (l.next c).afterReturn = false := by
      simp only [LineReader.next, hnewline, hreturn, decide_false, Bool.and_false, Bool.false_eq_true, if_false]
      split_ifs <;> rfl
    exact ⟨by rw [h.foldl_cons, hl], hafter.symm⟩

theorem foldl (h : Abreast n l) (cs : List Char) :
    Abreast (cs.foldl NewlineReader.next n) (cs.foldl LineReader.next l) := by
  induction cs generalizing n l with
  | nil => exact h
  | cons c cs ih => exact ih (h.next c)

end Abreast

/-- A return may become a newline, with the newline behind it or alone. -/
theorem lines_plainNewlines (cs : List Char) : lines (plainNewlines cs) = lines cs := by
  have hstart : Abreast {} {} := ⟨rfl, rfl⟩
  rw [lines, plainNewlines, (hstart.foldl cs).read]
  rfl

example : lines (plainNewlines "a\r\r\nb\n\rc\x85d\r".toList) = ["a", "", "b", "", "c", "d"].map String.toList := by
  decide +kernel

end Text

namespace Dump.Tree

open Text

/-- A file that holds a text in UTF-8 gives the tree of the text. -/
theorem load_toUTF8 (text : String) : load text.toUTF8.data.toList = parse text := by
  rw [← encodeUtf8_eq, load, decodeUtf8_encodeUtf8, parseChars, lines_plainNewlines]
  rfl

end Dump.Tree

end ScriptBinding
