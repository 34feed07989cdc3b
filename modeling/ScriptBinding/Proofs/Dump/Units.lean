import ScriptBinding.Proofs.Dump.Beside
import ScriptBinding.Proofs.Dump.Printing

/-!
Texts one behind the other. If a text starts with an outermost entry, nothing in front of it changes how it is
read: neither an attribute nor a line break that is left over there.
-/

namespace ScriptBinding.Dump

open Text

def Line.HeadsUnit : Line → Prop
  | .entry depth _ tag => depth = 0 ∧ tag.isSome = true
  | .attribute _ _ => False
  | .other => False

instance : DecidablePred Line.HeadsUnit
  | .entry depth _ tag => inferInstanceAs (Decidable (depth = 0 ∧ tag.isSome = true))
  | .attribute _ _ => .isFalse id
  | .other => .isFalse id

/-- The first line that is a heading or an attribute heads an outermost entry, if it can be read. -/
def OpensUnit (text : String) : Prop :=
  ∀ l ∈ (lines text.toList).find? (Line.read · ≠ .ok .other), ∀ line ∈ (Line.read l).toOption, line.HeadsUnit

instance : DecidablePred OpensUnit := fun text =>
  inferInstanceAs (Decidable (∀ l ∈ (lines text.toList).find? (Line.read · ≠ .ok .other),
    ∀ line ∈ (Line.read l).toOption, line.HeadsUnit))

theorem opensUnit_intercalate {l : List Char} {ls : List (List Char)} {line : Line} (h : ∀ m ∈ l :: ls, Unbroken m)
    (hlast : (l :: ls).getLast? ≠ some []) (hread : Line.read l = .ok line) (hheads : line.HeadsUnit) :
    OpensUnit (String.ofList (['\n'].intercalate (l :: ls))) := by
  have hother : line ≠ .other := by
    rintro rfl
    exact hheads
  rw [OpensUnit, String.toList_ofList, lines_intercalate_of_getLast h hlast,
    List.find?_cons_of_pos (by simp [hread, hother])]
  rintro _ ⟨rfl⟩
  rw [hread]
  rintro _ ⟨rfl⟩
  exact hheads

theorem headsUnit_of_mapM_read {ls : List (List Char)} {read : List Line} (hread : ls.mapM Line.read = .ok read)
    (h : ∀ l ∈ ls.find? (Line.read · ≠ .ok .other), ∀ line ∈ (Line.read l).toOption, line.HeadsUnit) :
    ∀ line ∈ read.find? (· ≠ .other), line.HeadsUnit := by
  have hlines := mapM_eq_ok_iff.mp hread
  clear hread
  induction hlines with
  | nil => simp
  | @cons l line ls read hline _ ih =>
    by_cases hother : line = .other
    · rw [List.find?_cons_of_neg (by simp [hline, hother])] at h
      rw [List.find?_cons_of_neg (by simp [hother])]
      exact ih h
    · rw [List.find?_cons_of_pos (by simp [hline, hother])] at h
      rw [List.find?_cons_of_pos (by simp [hother])]
      rintro _ ⟨rfl⟩
      exact h l rfl line (by rw [hline]; rfl)

section Gather

variable {read : List Line} (h : ∀ line ∈ read.find? (· ≠ .other), line.HeadsUnit)
include h

/-- No attribute in front of a unit is left over, and its first entry is an outermost one. -/
theorem gathered_of_headsUnit : read.foldr gather {} = ⟨[], entriesOf read⟩ ∧
    ∀ e ∈ (entriesOf read).head?, e.depth = 0 := by
  induction read with
  | nil => exact ⟨rfl, by simp [entriesOf]⟩
  | cons line read ih =>
    by_cases hother : line = .other
    · subst hother
      exact ih (by simpa using h)
    · have hheads : line.HeadsUnit := h line (List.find?_cons_of_pos (by simp [hother]))
      -- A tagged heading takes up the attributes behind it, so none is left over.
      rcases line with ⟨depth, offset, tag⟩ | _ | _
      · obtain ⟨rfl, htag⟩ := hheads
        obtain ⟨tag, rfl⟩ := Option.isSome_iff_exists.mp htag
        refine ⟨rfl, ?_⟩
        rintro _ ⟨rfl⟩
        rfl
      · exact hheads.elim
      · exact hheads.elim

omit h in
theorem foldr_gather_append (before : List Line) (entries : List Entry) : before.foldr gather ⟨[], entries⟩ =
    ⟨(before.foldr gather {}).attributes, (before.foldr gather {}).entries ++ entries⟩ := by
  induction before with
  | nil => rfl
  | cons line before ih =>
    rw [List.foldr_cons, List.foldr_cons, ih]
    rcases line with ⟨depth, offset, _ | tag⟩ | _ | _ <;> rfl

theorem ofLines_append (before : List Line) :
    Tree.ofLines (before ++ read) = (Tree.ofLines before).beside (Tree.ofLines read) := by
  obtain ⟨hgathered, hdepth⟩ := gathered_of_headsUnit h
  have hentries : entriesOf (before ++ read) = entriesOf before ++ entriesOf read := by
    rw [entriesOf, List.foldr_append, hgathered, foldr_gather_append]
    rfl
  rw [Tree.ofLines, hentries, Tree.ofEntries_append _ hdepth]
  rfl

end Gather

section Parse

variable {a b : String} {t u : Tree} {fault : Fault}

theorem parse_eq (text : String) : Tree.parse text = ((lines text.toList).mapM Line.read).map Tree.ofLines := rfl

theorem parse_append_newline (a b : String) : Tree.parse (a ++ "\n" ++ b) =
    ((lines a.toList).mapM Line.read).bind fun before =>
      ((lines b.toList).mapM Line.read).map fun read => Tree.ofLines (before ++ read) := by
  have hchars : (a ++ "\n" ++ b).toList = a.toList ++ '\n' :: b.toList := by
    rw [String.toList_append, String.toList_append, List.append_assoc]
    rfl
  rw [parse_eq, hchars]
  rcases lines_append_newline a.toList b.toList with hlines | hlines
  · rw [hlines, List.mapM_append]
    cases (lines a.toList).mapM Line.read <;> cases (lines b.toList).mapM Line.read <;> rfl
  · rw [hlines, List.mapM_append, List.mapM_cons, read_nil]
    cases (lines a.toList).mapM Line.read with
    | error fault => rfl
    | ok before =>
      cases (lines b.toList).mapM Line.read with
      | error fault => rfl
      | ok read => exact congrArg Except.ok (ofLines_append_other before read)

theorem parse_append_of_error (ha : Tree.parse a = .error fault) : Tree.parse (a ++ "\n" ++ b) = .error fault := by
  rw [parse_eq, Except.map_eq_error_iff] at ha
  rw [parse_append_newline, ha]
  rfl

theorem parse_append_error (ha : Tree.parse a = .ok t) (hb : Tree.parse b = .error fault) :
    Tree.parse (a ++ "\n" ++ b) = .error fault := by
  rw [parse_eq, Except.map_eq_ok_iff] at ha
  rw [parse_eq, Except.map_eq_error_iff] at hb
  obtain ⟨before, hbefore, -⟩ := ha
  rw [parse_append_newline, hbefore, hb]
  rfl

theorem parse_append (ha : Tree.parse a = .ok t) (hunit : OpensUnit b) (hb : Tree.parse b = .ok u) :
    Tree.parse (a ++ "\n" ++ b) = .ok (t.beside u) := by
  rw [parse_eq, Except.map_eq_ok_iff] at ha hb
  obtain ⟨before, hbefore, rfl⟩ := ha
  obtain ⟨read, hread, rfl⟩ := hb
  rw [parse_append_newline, hbefore, hread]
  exact congrArg Except.ok (ofLines_append (headsUnit_of_mapM_read hread hunit) before)

theorem sealed_of_parse (h : Tree.parse a = .ok t) : t.Sealed := by
  rw [parse_eq, Except.map_eq_ok_iff] at h
  obtain ⟨read, -, rfl⟩ := h
  exact Tree.sealed_ofEntries (entriesOf read)

end Parse

/-- The nodes of `t` and behind them those of `u`, with the attributes and the links that each of the two has alone
and with no link between them. Of nodes with one offset, the last is found. -/
structure Tree.Joins (t u v : Tree) : Prop where
  entries : v.nodes.map Node.toEntry = t.nodes.map Node.toEntry ++ u.nodes.map Node.toEntry
  parent_front : ∀ i < t.size, v.parent? i = t.parent? i
  parent_back : ∀ i, v.parent? (t.size + i) = (u.parent? i).map (t.size + ·)
  children_front : ∀ i < t.size, v.children i = t.children i
  children_back : ∀ i, v.children (t.size + i) = (u.children i).map (t.size + ·)
  unlinked : ∀ i p, v.parent? i = some p ∨ i ∈ v.children p → (p < t.size ↔ i < t.size)
  roots : v.roots = t.roots ++ u.roots.map (t.size + ·)
  places : v.places = t.places ++ u.places.map (t.size + ·)
  tagged : ∀ tag, v.tagged tag = t.tagged tag ++ (u.tagged tag).map (t.size + ·)
  lookup : ∀ offset, v.lookup offset = ((u.lookup offset).map (t.size + ·)).or (t.lookup offset)

theorem Tree.parent_lt_iff_beside {t u : Tree} (ht : t.Sealed) {i p : Nat} (h : (t.beside u).parent? i = some p) :
    p < t.size ↔ i < t.size := by
  rcases Nat.lt_or_ge i t.size with hi | hi
  · rw [parent?_beside_left u hi] at h
    have hlt := parent_lt_of_inOrder ht.inOrder h
    omega
  · obtain ⟨j, rfl⟩ := Nat.exists_eq_add_of_le hi
    rw [parent?_beside_right, Option.map_eq_some_iff] at h
    obtain ⟨q, -, rfl⟩ := h
    omega

theorem Tree.joins_beside {t u : Tree} (ht : t.Sealed) (hu : u.Sealed) : t.Joins u (t.beside u) where
  entries := by
    rw [beside, ofNodes, Array.map_append, Array.map_map]
    rfl
  parent_front _ hi := parent?_beside_left u hi
  parent_back := parent?_beside_right t u
  children_front _ hi := ht.children_beside_left hu hi
  children_back := ht.children_beside_right hu
  unlinked i p h := by
    apply parent_lt_iff_beside ht
    exact h.elim id (ht.beside hu).linked.mem_children.mp
  roots := ht.roots_beside hu
  places := places_beside t u
  tagged := tagged_beside t u
  lookup := lookup_beside t u

/-- Behind any text a unit is read as it is alone. If one of the two is refused, both together are, and for the same
depth. -/
theorem parse_joins (a b : String) (hunit : OpensUnit b) :
    (∀ t u, Tree.parse a = .ok t → Tree.parse b = .ok u →
      ∃ v, Tree.parse (a ++ "\n" ++ b) = .ok v ∧ t.Joins u v) ∧
    (∀ fault, Tree.parse a = .error fault → Tree.parse (a ++ "\n" ++ b) = .error fault) ∧
    ∀ t fault, Tree.parse a = .ok t → Tree.parse b = .error fault →
      Tree.parse (a ++ "\n" ++ b) = .error fault := by
  refine ⟨?_, fun _ => parse_append_of_error, fun _ _ => parse_append_error⟩
  intro t u ht hu
  exact ⟨t.beside u, parse_append ht hunit hu, Tree.joins_beside (sealed_of_parse ht) (sealed_of_parse hu)⟩

def openLines : List (List Char) := [
  "<0><b>: Abbrev Number: 1 (DW_TAG_class_type)".toList,
  "<c> DW_AT_name:Led".toList,
  "<1><10>: Abbrev Number: 2 (DW_TAG_subprogram)\r".toList]

def unitLines : List (List Char) := [
  "remark".toList,
  "<0><b>: Abbrev Number: 1 (DW_TAG_class_type)".toList,
  "<c> DW_AT_name:Lamp".toList,
  "<1><20>: Abbrev Number: 3 (DW_TAG_member)".toList]

/-- A class with a method that is still open, behind it a return that the next newline belongs to. -/
def openText : String := .ofList (['\n'].intercalate openLines)

/-- A class with the same offset, behind a remark. -/
def unitText : String := .ofList (['\n'].intercalate unitLines)

def openTree : Tree := .ofEntries [⟨"class_type", 0xb, 0, [("name", "Led")]⟩, ⟨"subprogram", 0x10, 1, []⟩]

def unitTree : Tree := .ofEntries [⟨"class_type", 0xb, 0, [("name", "Lamp")]⟩, ⟨"member", 0x20, 1, []⟩]

theorem parse_joins_open : OpensUnit unitText ∧ Tree.parse openText = .ok openTree ∧
    Tree.parse unitText = .ok unitTree ∧ ∃ v, Tree.parse (openText ++ "\n" ++ unitText) = .ok v ∧
      openTree.Joins unitTree v ∧ v.lookup 0xb = some 2 ∧ v.parent? 3 = some 2 ∧ v.roots = [0, 2] := by
  have hunit : OpensUnit unitText := by
    rw [OpensUnit, unitText, String.toList_ofList, unitLines]
    repeat rw [String.toList_ofList]
    decide +kernel
  have hopen : Tree.parse openText = .ok openTree := by
    rw [Tree.parse, openText, String.toList_ofList, openLines]
    repeat rw [String.toList_ofList]
    decide +kernel
  have hparse : Tree.parse unitText = .ok unitTree := by
    rw [Tree.parse, unitText, String.toList_ofList, unitLines]
    repeat rw [String.toList_ofList]
    decide +kernel
  obtain ⟨v, hv, hjoins⟩ := (parse_joins openText unitText hunit).1 openTree unitTree hopen hparse
  refine ⟨hunit, hopen, hparse, v, hv, hjoins, ?_, ?_, ?_⟩
  · rw [hjoins.lookup]
    decide +kernel
  · exact (hjoins.parent_back 1).trans (by decide +kernel)
  · rw [hjoins.roots]
    decide +kernel

end ScriptBinding.Dump
