import ScriptBinding.Proofs.Dump.Layout
import ScriptBinding.Proofs.Dump.Nesting
import ScriptBinding.Proofs.Traversal

/-!
Which texts can be read. Nothing but the digits of a depth can stop a reader.
-/

namespace ScriptBinding.Dump

open Text

def DepthsFit (ls : List (List Char)) : Prop :=
  ∀ l ∈ ls, ∀ h, readHeading? l = some h → h.depth.length ≤ maxDigits

theorem depth_of_readHeading? {cs : List Char} {h : Heading} (hr : readHeading? cs = some h) :
    h.depth ≠ [] ∧ ∀ c ∈ h.depth, isDecimal c = true := by
  simp only [readHeading?, Option.bind_eq_bind, Option.bind_eq_some_iff, Option.pure_def,
    Option.some.injEq] at hr
  obtain ⟨_, -, ⟨depth, _⟩, hd, _, -, ⟨offset, _⟩, -, _, -, _, -, rfl⟩ := hr
  obtain ⟨hne, hdec, -⟩ := run?_eq_some hd
  exact ⟨hne, hdec⟩

theorem read_heading {cs : List Char} {h : Heading} (hr : readHeading? cs = some h) {n : Nat}
    (hn : readDecimal h.depth = .ok n) : Line.read cs = .ok (.entry n (hexValue h.offset) h.tag) := by
  simp [Line.read, hr, hn]

theorem read_attribute {cs : List Char} (hr : readHeading? cs = none) {key value : String}
    (ha : readAttribute? cs = some (key, value)) : Line.read cs = .ok (.attribute key value) := by
  simp [Line.read, hr, ha]

theorem read_other {cs : List Char} (hr : readHeading? cs = none) (ha : readAttribute? cs = none) :
    Line.read cs = .ok .other := by
  simp [Line.read, hr, ha]

theorem read_longHeading {depth offset abbreviation : List Char} {tag : Option String}
    (hd : ∀ c ∈ depth, isDecimal c = true) (hlong : maxDigits < depth.length) (ho : offset ≠ [])
    (hoh : ∀ c ∈ offset, isHexDigit c = true) (ha : abbreviation ≠ [])
    (had : ∀ c ∈ abbreviation, isDecimal c = true) (ht : ∀ s ∈ tag, IsWordText s) :
    Line.read (headingText depth offset abbreviation tag) = .error (.longNumeral depth.length) := by
  have hne : depth ≠ [] := List.ne_nil_of_length_pos (Nat.zero_lt_of_lt hlong)
  have hread := readDecimal_of_isDecimal hne hd
  rw [if_pos hlong] at hread
  rw [Line.read, readHeading?_headingText hne hd ho hoh ha had ht]
  simp only [hread]

theorem read_cases (cs : List Char) :
    ((∃ line, Line.read cs = .ok line) ∧
        ∀ h, readHeading? cs = some h → h.depth.length ≤ maxDigits) ∨
      ∃ h, readHeading? cs = some h ∧ maxDigits < h.depth.length ∧
        Line.read cs = .error (.longNumeral h.depth.length) := by
  cases hr : readHeading? cs with
  | none =>
    refine .inl ⟨?_, by simp⟩
    cases ha : readAttribute? cs with
    | none => exact ⟨_, read_other hr ha⟩
    | some kv => exact ⟨_, read_attribute hr ha⟩
  | some h =>
    obtain ⟨hne, hd⟩ := depth_of_readHeading? hr
    have hread := readDecimal_of_isDecimal hne hd
    split_ifs at hread with hl
    · exact .inr ⟨h, rfl, hl, by simp [Line.read, hr, hread]⟩
    · refine .inl ⟨⟨_, read_heading hr hread⟩, ?_⟩
      rintro _ ⟨rfl⟩
      omega

theorem mapM_read_cases (ls : List (List Char)) :
    (DepthsFit ls ∧ ∃ read, ls.mapM Line.read = .ok read) ∨
      (¬ DepthsFit ls ∧ ∃ digits, maxDigits < digits ∧
        ls.mapM Line.read = .error (.longNumeral digits)) := by
  cases hm : ls.mapM Line.read with
  | ok read =>
    refine .inl ⟨?_, read, rfl⟩
    intro l hl h hh
    rcases read_cases l with ⟨-, hfit⟩ | ⟨h', -, -, he⟩
    · exact hfit h hh
    · obtain ⟨line, -, hline⟩ := exists_ok_of_mem hm hl
      simp [he] at hline
  | error e =>
    obtain ⟨l, hl, he⟩ := exists_of_mapM_error hm
    rcases read_cases l with ⟨⟨line, hline⟩, -⟩ | ⟨h, hh, hlong, he'⟩
    · simp [he] at hline
    · obtain rfl := Except.error.inj (he.symm.trans he')
      refine .inr ⟨?_, _, hlong, rfl⟩
      intro hfit
      have := hfit l hl h hh
      omega

theorem parse_of_mapM_read {text : String} {r : Except Fault (List Line)}
    (h : (lines text.toList).mapM Line.read = r) : Tree.parse text = r.map Tree.ofLines := by
  rw [Tree.parse, Tree.parseChars, h]

theorem linked_of_parse {text : String} {t : Tree} (h : Tree.parse text = .ok t) : t.Linked := by
  rw [Tree.parse, Tree.parseChars, Except.map_eq_ok_iff] at h
  obtain ⟨read, -, rfl⟩ := h
  exact Tree.linked_ofEntries (entriesOf read)

theorem parse_cases (text : String) :
    (DepthsFit (lines text.toList) ∧ ∃ t, Tree.parse text = .ok t) ∨
      (¬ DepthsFit (lines text.toList) ∧ ∃ digits, maxDigits < digits ∧
        Tree.parse text = .error (.longNumeral digits)) := by
  rcases mapM_read_cases (lines text.toList) with ⟨hfit, read, hread⟩ | ⟨hfit, digits, hlong, he⟩
  · exact .inl ⟨hfit, Tree.ofLines read, parse_of_mapM_read hread⟩
  · exact .inr ⟨hfit, digits, hlong, parse_of_mapM_read he⟩

end ScriptBinding.Dump
