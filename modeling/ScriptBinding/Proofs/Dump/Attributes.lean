import ScriptBinding.Proofs.Dump.Headings
import ScriptBinding.Proofs.Text.Rows

/-!
Which lines of a text have a say in the tree. A node has the attributes between its heading and the next one. Lines
that are neither headings nor attributes can be taken out of a text, and so can attributes that stand where no entry
is open: before the first heading, and behind one without a tag as long as none with a tag follows.
-/

namespace ScriptBinding.Dump

open Text

/-- What is gathered from some lines, if they can be read. -/
def gathered (ls : List (List Char)) : Except Fault Gathered := (ls.mapM Line.read).map (·.foldr gather {})

def treeOf (ls : List (List Char)) : Except Fault Tree := (gathered ls).map fun g => .ofEntries g.entries

theorem parse_eq_treeOf (text : String) : Tree.parse text = treeOf (lines text.toList) := by
  rw [Tree.parse, Tree.parseChars, treeOf, gathered]
  cases (lines text.toList).mapM Line.read <;> rfl

theorem gathered_cons (l : List Char) (ls : List (List Char)) :
    gathered (l :: ls) = (Line.read l).bind fun line => (gathered ls).map (gather line) := by
  rw [gathered, gathered, List.mapM_cons]
  cases Line.read l with
  | error fault => rfl
  | ok line => cases ls.mapM Line.read <;> rfl

/-- Whether attributes behind a line belong to an entry, given whether those before it do. -/
def opensEntry (isOpen : Bool) (l : List Char) : Bool := if isHeading l then isTagged l else isOpen

/-- A line that says nothing where it stands. -/
inductive Idle (isOpen : Bool) (l : List Char) : Prop
  | other : readHeading? l = none → readAttribute? l = none → Idle isOpen l
  | unowned : isOpen = false → (readAttribute? l).isSome = true → Idle isOpen l

/-- The rows that are left when any number of idle ones are taken out. -/
inductive Thinned : Bool → List Row → List Row → Prop
  | nil {isOpen : Bool} : Thinned isOpen [] []
  | keep {isOpen : Bool} {row : Row} {rs kept : List Row} :
    Thinned (opensEntry isOpen row.text) rs kept → Thinned isOpen (row :: rs) (row :: kept)
  | drop {isOpen : Bool} {row : Row} {rs kept : List Row} :
    Idle isOpen row.text → Thinned isOpen rs kept → Thinned isOpen (row :: rs) kept

/-- A text without any number of its lines that are idle where they stand. -/
def Thins (text kept : String) : Prop :=
  ∃ rs, Thinned false (rows text.toList) rs ∧ kept = String.ofList (joinRows rs)

/-- What a reader can still see of the rest of a text: attributes only if they belong to an entry. -/
def Gathered.seen (isOpen : Bool) (g : Gathered) : Gathered := if isOpen then g else ⟨[], g.entries⟩

section Steps

variable {isOpen : Bool} {l : List Char} {line : Line}

theorem seen_gather (h : Line.read l = .ok line) (g : Gathered) :
    (gather line g).seen isOpen = (gather line (g.seen (opensEntry isOpen l))).seen isOpen := by
  rw [read_said h, said, opensEntry, isHeading, isTagged]
  cases readHeading? l with
  | some heading => cases htag : heading.tag <;> simp [htag, gather, Gathered.seen]
  | none => cases isOpen <;> cases readAttribute? l <;> rfl

theorem Idle.readHeading? (h : Idle isOpen l) : readHeading? l = none := by
  cases h with
  | other hr _ => exact hr
  | unowned _ ha => exact readHeading?_of_readAttribute? ha

theorem Idle.read (h : Idle isOpen l) : Line.read l = .ok (said l) := by
  rw [Line.read, said, h.readHeading?]
  cases readAttribute? l <;> rfl

theorem Idle.seen_gather (h : Idle isOpen l) (g : Gathered) : (gather (said l) g).seen isOpen = g.seen isOpen := by
  rw [said, h.readHeading?]
  cases h with
  | other _ ha =>
    rw [ha]
    rfl
  | unowned hclosed _ =>
    subst hclosed
    cases readAttribute? l <;> rfl

end Steps

section Thinning

variable {isOpen : Bool} {rs kept : List Row}

theorem Thinned.sublist (h : Thinned isOpen rs kept) : kept.Sublist rs := by
  induction h with
  | nil => exact .slnil
  | keep _ ih => exact ih.cons_cons _
  | drop _ _ ih => exact ih.cons _

/-- What is seen of the rest of a text decides what is seen of the text, row by row from its end. -/
theorem Thinned.seen_gathered (h : Thinned isOpen rs kept) :
    (gathered (kept.map Row.text)).map (·.seen isOpen) = (gathered (rs.map Row.text)).map (·.seen isOpen) := by
  induction h with
  | nil => rfl
  | @keep isOpen row rs kept _ ih =>
    rw [List.map_cons, List.map_cons, gathered_cons, gathered_cons]
    cases hread : Line.read row.text with
    | error fault => rfl
    | ok line =>
      have hseen (x : Except Fault Gathered) : (x.map (gather line)).map (·.seen isOpen) =
          ((x.map (·.seen (opensEntry isOpen row.text))).map (gather line)).map (·.seen isOpen) := by
        cases x with
        | error fault => rfl
        | ok g => exact congrArg Except.ok (seen_gather hread g)
      change ((gathered (kept.map Row.text)).map (gather line)).map _ =
        ((gathered (rs.map Row.text)).map (gather line)).map _
      rw [hseen, ih, ← hseen]
  | @drop isOpen row rs kept hidle _ ih =>
    have hseen (x : Except Fault Gathered) :
        (x.map (gather (said row.text))).map (·.seen isOpen) = x.map (·.seen isOpen) := by
      cases x with
      | error fault => rfl
      | ok g => exact congrArg Except.ok (hidle.seen_gather g)
    rw [List.map_cons, gathered_cons, hidle.read, ih]
    exact (hseen _).symm

theorem thinned_settle (isOpen afterReturn : Bool) (rs : List Row) : Thinned isOpen rs (settle afterReturn rs) := by
  induction rs generalizing isOpen afterReturn with
  | nil => exact .nil
  | cons row rs ih =>
    rw [settle]
    split_ifs with hnewline
    · have hrow : row = ⟨[], ['\n']⟩ := by
        rw [Bool.and_eq_true] at hnewline
        simpa [Row.isNewline] using hnewline.2
      exact .drop (.other (by rw [hrow]; rfl) (by rw [hrow]; rfl)) (ih isOpen false)
    · exact .keep (ih _ _)

theorem Thinned.treeOf_eq (h : Thinned false rs kept) : treeOf (kept.map Row.text) = treeOf (rs.map Row.text) := by
  have hentries (x : Except Fault Gathered) : (x.map fun g => Tree.ofEntries g.entries) =
      (x.map (·.seen false)).map fun g => Tree.ofEntries g.entries := by
    cases x <;> rfl
  rw [treeOf, hentries, h.seen_gathered, ← hentries, treeOf]

theorem parse_thins {text kept : String} (h : Thins text kept) : Tree.parse kept = Tree.parse text := by
  obtain ⟨rs, hthinned, rfl⟩ := h
  have hwritten : Written rs := (written_rows text.toList).sublist hthinned.sublist
  rw [parse_eq_treeOf, parse_eq_treeOf, String.toList_ofList, lines_joinRows hwritten, ← map_text_rows]
  exact (thinned_settle false false rs).treeOf_eq.trans hthinned.treeOf_eq

end Thinning

theorem parse_attributes (text : String) :
    (∀ t, Tree.parse text = .ok t → t.Attributed (lines text.toList)) ∧
      ∀ kept, Thins text kept → Tree.parse kept = Tree.parse text := by
  exact ⟨fun t ht => attributed_of_parse ht, fun kept hkept => parse_thins hkept⟩

/-- An attribute before the first heading, a heading with one attribute, and a remark. -/
def remarkedRows : List Row := [
  ⟨"    <f>   DW_AT_name : lost".toList, ['\n']⟩,
  ⟨" <0><10>: Abbrev Number: 1 (DW_TAG_class_type)".toList, ['\r', '\n']⟩,
  ⟨"remark".toList, ['\n']⟩,
  ⟨"    <11>   DW_AT_name : Led".toList, []⟩]

def remarkedText : String := String.ofList (joinRows remarkedRows)

def plainText : String := String.ofList (joinRows [
  ⟨" <0><10>: Abbrev Number: 1 (DW_TAG_class_type)".toList, ['\r', '\n']⟩,
  ⟨"    <11>   DW_AT_name : Led".toList, []⟩])

def plainTree : Tree := .ofEntries [⟨"class_type", 0x10, 0, [("name", "Led")]⟩]

theorem parse_attributes_remarked : Tree.parse remarkedText = .ok plainTree ∧ Thins remarkedText plainText ∧
    plainTree.Attributed (lines remarkedText.toList) ∧ Tree.parse plainText = Tree.parse remarkedText := by
  have hparse : Tree.parse remarkedText = .ok plainTree := by
    rw [Tree.parse, remarkedText, String.toList_ofList, remarkedRows]
    repeat rw [String.toList_ofList]
    decide +kernel
  have hrows : rows remarkedText.toList = remarkedRows := by
    rw [remarkedText, String.toList_ofList, remarkedRows]
    repeat rw [String.toList_ofList]
    decide +kernel
  have hthins : Thins remarkedText plainText := by
    refine ⟨_, ?_, rfl⟩
    rw [hrows]
    have hlost : Idle false "    <f>   DW_AT_name : lost".toList := .unowned rfl (by decide +kernel)
    have hremark (isOpen : Bool) : Idle isOpen "remark".toList := .other (by decide +kernel) (by decide +kernel)
    exact .drop hlost (.keep (.drop (hremark _) (.keep .nil)))
  obtain ⟨hattributed, hsame⟩ := parse_attributes remarkedText
  exact ⟨hparse, hthins, hattributed plainTree hparse, hsame plainText hthins⟩

end ScriptBinding.Dump
