import ScriptBinding.Proofs.Dump.Reading

/-!
A dump of a forest. The entries are printed in preorder, each with its attributes, and a heading without a
tag ends every list of children. Reading the lines, with any other lines between them, gives the entries of
the forest with their levels as depths.
-/

namespace ScriptBinding.Dump

open Text

structure Attribute where
  address : Nat
  key : String
  value : String

/-- An entry as a dump shows it; the terminator is the address of the line that ends its children. -/
structure Record where
  tag : String
  offset : Nat
  abbreviation : Nat
  attributes : List Attribute
  terminator : Nat

namespace Record

def pairs (r : Record) : List (String × String) := r.attributes.map fun a => (a.key, a.value)

def entry (r : Record) (depth : Nat) : Entry := ⟨r.tag, r.offset, depth, r.pairs⟩

/-- Tag and keys are words, no key occurs twice, and each value is one line that no blank ends. -/
structure Printable (r : Record) : Prop where
  tag : IsWordText r.tag
  keys_nodup : (r.attributes.map (·.key)).Nodup
  key : ∀ a ∈ r.attributes, IsWordText a.key
  value : ∀ a ∈ r.attributes, Unbroken a.value.toList ∧ trimEnd a.value.toList = a.value.toList

instance : DecidablePred Printable := fun r =>
  decidable_of_iff
    ((IsWordText r.tag ∧ (r.attributes.map (·.key)).Nodup) ∧ (∀ a ∈ r.attributes, IsWordText a.key) ∧
      ∀ a ∈ r.attributes, Unbroken a.value.toList ∧ trimEnd a.value.toList = a.value.toList)
    ⟨fun h => ⟨h.1.1, h.1.2, h.2.1, h.2.2⟩, fun h => ⟨⟨h.tag, h.keys_nodup⟩, h.key, h.value⟩⟩

theorem Printable.nodup_keys {r : Record} (h : r.Printable) : (Keyed.keys r.pairs).Nodup := by
  rw [Keyed.keys, pairs, List.map_map]
  exact h.keys_nodup

end Record

inductive Shown where
  | heading (depth offset abbreviation : Nat) (tag : Option String)
  | pair (address : Nat) (key value : String)

namespace Shown

def text : Shown → List Char
  | heading depth offset abbreviation tag =>
    headingText (Nat.toDigits 10 depth) (Nat.toDigits 16 offset) (Nat.toDigits 10 abbreviation) tag
  | pair address key value => attributeText (Nat.toDigits 16 address) key value

def line : Shown → Line
  | heading depth offset _ tag => .entry depth offset tag
  | pair _ key value => .attribute key value

def Printable : Shown → Prop
  | heading _ _ _ tag => ∀ s ∈ tag, IsWordText s
  | pair _ key value =>
    IsWordText key ∧ Unbroken value.toList ∧ trimEnd value.toList = value.toList

def depth : Shown → Nat
  | heading depth _ _ _ => depth
  | pair _ _ _ => 0

theorem isHexDigit_of_mem_toDigits {n : Nat} : ∀ c ∈ Nat.toDigits 16 n, isHexDigit c = true := by
  intro c hc
  have hall : ∀ d < 16, isHexDigit (Nat.digitChar d) = true := by decide
  obtain ⟨d, hd, rfl⟩ := mem_toDigits (by decide) hc
  exact hall d hd

theorem unbroken_text {s : Shown} (h : s.Printable) : Unbroken s.text := by
  cases s with
  | heading depth offset abbreviation tag =>
    exact unbroken_headingText isDecimal_of_mem_toDigits isHexDigit_of_mem_toDigits
      isDecimal_of_mem_toDigits h
  | pair address key value =>
    exact unbroken_attributeText isHexDigit_of_mem_toDigits h.1 h.2.1

theorem readHeading?_text (depth offset abbreviation : Nat) {tag : Option String}
    (h : ∀ s ∈ tag, IsWordText s) :
    readHeading? (heading depth offset abbreviation tag).text =
      some ⟨Nat.toDigits 10 depth, Nat.toDigits 16 offset, tag⟩ :=
  readHeading?_headingText Nat.toDigits_ne_nil isDecimal_of_mem_toDigits
    Nat.toDigits_ne_nil isHexDigit_of_mem_toDigits Nat.toDigits_ne_nil
    isDecimal_of_mem_toDigits h

theorem read_text {s : Shown} (h : s.Printable) (hd : s.depth < decimalBound) :
    Line.read s.text = .ok s.line := by
  cases s with
  | heading depth offset abbreviation tag =>
    have hn := readDecimal_toDigits depth
    rw [if_pos (show depth < decimalBound from hd)] at hn
    rw [read_heading (readHeading?_text depth offset abbreviation h) hn, hexValue,
      ofDigits_toDigits (by decide) (by decide), line]
  | pair address key value =>
    exact read_attribute (readHeading?_attributeText isHexDigit_of_mem_toDigits)
      (readAttribute?_attributeText Nat.toDigits_ne_nil isHexDigit_of_mem_toDigits h.1 h.2.2)

theorem depth_lt_of_depthsFit {s : Shown} (h : s.Printable) {ls : List (List Char)} (hfit : DepthsFit ls)
    (hs : s.text ∈ ls) : s.depth < decimalBound := by
  cases s with
  | heading depth offset abbreviation tag =>
    exact length_toDigits_le_maxDigits.mp
      (hfit _ hs _ (readHeading?_text depth offset abbreviation h))
  | pair address key value => exact decimalBound_pos

end Shown

/-- Some lines with further lines of one kind anywhere between them. -/
inductive Interspersed {α : Type} (p : α → Prop) : List α → List α → Prop
  | nil : Interspersed p [] []
  | keep {a : α} {as bs : List α} : Interspersed p as bs → Interspersed p (a :: as) (a :: bs)
  | insert {b : α} {as bs : List α} : p b → Interspersed p as bs → Interspersed p as (b :: bs)

theorem Interspersed.mem {α : Type} {p : α → Prop} {as bs : List α} (h : Interspersed p as bs) {b : α}
    (hb : b ∈ bs) : b ∈ as ∨ p b := by
  induction h with
  | nil => simp at hb
  | keep _ ih =>
    rcases List.mem_cons.mp hb with rfl | hb
    · exact .inl (by simp)
    · exact (ih hb).imp_left (List.mem_cons_of_mem _)
  | insert hp _ ih =>
    rcases List.mem_cons.mp hb with rfl | hb
    · exact .inr hp
    · exact ih hb

theorem Interspersed.subset {α : Type} {p : α → Prop} {as bs : List α} (h : Interspersed p as bs) :
    as ⊆ bs := by
  induction h with
  | nil => simp
  | keep _ ih => exact List.cons_subset_cons _ ih
  | insert _ _ ih => exact List.subset_cons_of_subset _ ih

def IsOther (l : List Char) : Prop :=
  readHeading? l = none ∧ readAttribute? l = none ∧ Unbroken l

instance : DecidablePred IsOther := fun l =>
  inferInstanceAs (Decidable (readHeading? l = none ∧ readAttribute? l = none ∧ Unbroken l))

theorem gather_other (g : Gathered) : gather .other g = g := rfl

theorem mapM_read_interspersed {shown : List Shown} {ls : List (List Char)}
    (h : Interspersed IsOther (shown.map Shown.text) ls) (hp : ∀ s ∈ shown, s.Printable)
    (hd : ∀ s ∈ shown, s.depth < decimalBound) :
    ∃ read, ls.mapM Line.read = .ok read ∧
      read.foldr gather {} = (shown.map Shown.line).foldr gather {} := by
  generalize htexts : shown.map Shown.text = texts at h
  induction h generalizing shown with
  | nil =>
    obtain rfl := List.map_eq_nil_iff.mp htexts
    exact ⟨[], rfl, rfl⟩
  | keep _ ih =>
    obtain ⟨s, shown, rfl, rfl, rfl⟩ := List.map_eq_cons_iff.mp htexts
    obtain ⟨read, hread, hgather⟩ := ih (fun s hs => hp s (by simp [hs]))
      (fun s hs => hd s (by simp [hs])) rfl
    have hs := Shown.read_text (hp s (by simp)) (hd s (by simp))
    exact ⟨s.line :: read, mapM_eq_ok_iff.mpr (.cons hs (mapM_eq_ok_iff.mp hread)), by simp [hgather]⟩
  | insert hother _ ih =>
    obtain ⟨read, hread, hgather⟩ := ih hp hd htexts
    exact ⟨.other :: read,
      mapM_eq_ok_iff.mpr (.cons (read_other hother.1 hother.2.1) (mapM_eq_ok_iff.mp hread)),
      by simp [hgather, gather_other]⟩

theorem read_nil : Line.read [] = .ok .other := rfl

theorem ofLines_append_other (before read : List Line) :
    Tree.ofLines (before ++ .other :: read) = Tree.ofLines (before ++ read) := by
  rw [Tree.ofLines, entriesOf, List.foldr_append, List.foldr_cons, gather_other, ← List.foldr_append]
  rfl

theorem mapM_read_concat_nil (ls : List (List Char)) :
    ((ls ++ [[]]).mapM Line.read).map Tree.ofLines = (ls.mapM Line.read).map Tree.ofLines := by
  have hgather (read : List Line) : Tree.ofLines (read ++ [.other]) = Tree.ofLines read := by
    rw [ofLines_append_other, List.append_nil]
  rw [List.mapM_append, List.mapM_cons, List.mapM_nil, read_nil]
  cases ls.mapM Line.read with
  | error e => rfl
  | ok read => exact congrArg Except.ok (hgather read)

theorem parse_intercalate {ls : List (List Char)} (h : ∀ l ∈ ls, Unbroken l) :
    Tree.parse (String.ofList (['\n'].intercalate ls)) = (ls.mapM Line.read).map Tree.ofLines := by
  rcases lines_intercalate h with hl | hl
  · exact parse_of_mapM_read (by rw [String.toList_ofList, hl])
  · rw [← hl, mapM_read_concat_nil, hl]
    exact parse_of_mapM_read (by rw [String.toList_ofList])

end ScriptBinding.Dump
