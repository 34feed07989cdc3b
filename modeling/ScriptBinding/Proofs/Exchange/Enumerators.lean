import ScriptBinding.Exchange.Description
import ScriptBinding.Proofs.Text.Numerals
import ScriptBinding.Proofs.Traversal

/-!
The values of enumerators. A dump writes an integer in decimal or in hexadecimal, perhaps with more behind a blank, and
the integer is read back, in an entry and in the enumeration whose enumerators are written so.
-/

namespace ScriptBinding

open Dump Text

namespace Dump

variable {z : Int} {numeral : String}

/-- The decimal reading comes first, and it fails where the numeral is hexadecimal. -/
theorem readConstant_numeral (h : IsNumeral z numeral) {rest : List Char} (hrest : ∀ c ∈ rest.head?, isBlank c = true) :
    readConstant (numeral.toList ++ rest) = .ok z := by
  rw [readConstant, firstWord?_append h.ne_nil h.not_blank hrest]
  cases h with
  | decimal hdigits => simp only [readDecimal_toString (length_toDigits_le_maxDigits.mp hdigits)]
  | hexadecimal hnumeral => simp only [hnumeral.readDecimal, hnumeral.readHexadecimal?]

/-- The constant of the entry is `z`, written as a numeral with nothing or a blank behind it. -/
def Entry.Writes (e : Entry) (z : Int) : Prop :=
  ∃ numeral rest, IsNumeral z numeral ∧ (∀ c ∈ rest.toList.head?, isBlank c = true) ∧
    e.attribute? "const_value" = some (numeral ++ rest)

theorem Entry.Writes.constant? {e : Entry} (h : e.Writes z) : e.constant? = .ok (some z) := by
  obtain ⟨numeral, rest, hnumeral, hrest, hvalue⟩ := h
  simp only [Entry.constant?, hvalue, String.toList_append, readConstant_numeral hnumeral hrest]
  rfl

end Dump

namespace TypeTable

variable {t : TypeTable}

theorem enumerator_of_writes {j : Nat} {z : Int} (h : ∀ n ∈ t.tree.nodes[j]?, n.name? ≠ none → n.Writes z) :
    t.enumerator j = .ok ((t.tree.name? j).map (·, z)) := by
  rw [enumerator, Tree.name?]
  cases hn : t.tree.nodes[j]? with
  | none => rfl
  | some n =>
    cases hlabel : n.name? with
    | none => simp only [Option.bind_some, hlabel, Option.map_none]
    | some label =>
      have hwrites := h n hn (by simp [hlabel])
      simp only [Option.bind_some, hlabel, hwrites.constant?, Option.map_some]
      rfl

theorem enumeration_of_writes {i : Nat} {value : Nat → Int} (h : ∀ j ∈ t.tree.childrenTagged "enumerator" i,
      ∀ n ∈ t.tree.nodes[j]?, n.name? ≠ none → n.Writes (value j)) :
    ∃ type, t.enumeration i = .ok type ∧ type.enumeration.map (·.values) =
      some ((t.tree.childrenTagged "enumerator" i).filterMap fun j => (t.tree.name? j).map (·, value j)) := by
  have hvalues : (t.tree.childrenTagged "enumerator" i).mapM t.enumerator =
      .ok ((t.tree.childrenTagged "enumerator" i).map fun j => (t.tree.name? j).map (·, value j)) := by
    rw [mapM_eq_ok_iff, List.forall₂_map_right_iff, List.forall₂_same]
    intro j hj
    exact enumerator_of_writes (h j hj)
  rw [enumeration, hvalues]
  refine ⟨_, rfl, ?_⟩
  rw [Option.map_some, List.filterMap_map]
  rfl

/-- The integer that an entry writes is its constant, and an enumeration has the integers that its enumerators write, each
with its label and in their order. -/
theorem enumerators_read_back :
    (∀ (e : Entry) (z : Int), e.Writes z → e.constant? = .ok (some z)) ∧
      ∀ (t : TypeTable) (i : Nat) (value : Nat → Int),
        (∀ j ∈ t.tree.childrenTagged "enumerator" i, ∀ n ∈ t.tree.nodes[j]?, n.name? ≠ none → n.Writes (value j)) →
          ∃ type, t.enumeration i = .ok type ∧ type.enumeration.map (·.values) =
            some ((t.tree.childrenTagged "enumerator" i).filterMap fun j => (t.tree.name? j).map (·, value j)) := by
  constructor
  · intro e z h
    exact h.constant?
  · intro t i value h
    exact enumeration_of_writes h

def offEntry : Entry := ⟨"enumerator", 0x20, 1, [("name", "off"), ("const_value", "-1\t(signed)")]⟩

def onEntry : Entry := ⟨"enumerator", 0x30, 1, [("name", "on"), ("const_value", "0X0fF")]⟩

/-- `enum Mode { off = -1, on = 255 }` -/
def modeTable : TypeTable :=
  ⟨.ofEntries [⟨"enumeration_type", 0x10, 0, [("name", "Mode")]⟩, offEntry, onEntry], []⟩

theorem enumerators_read_back_mode :
    offEntry.Writes (-1) ∧ onEntry.Writes 255 ∧ offEntry.constant? = .ok (some (-1)) ∧
      onEntry.constant? = .ok (some 255) ∧ ∃ type, modeTable.enumeration 0 = .ok type ∧
        type.enumeration.map (·.values) = some [("off", -1), ("on", 255)] := by
  have hoff : offEntry.Writes (-1) :=
    ⟨"-1", "\t(signed)", .decimal (z := -1) (by decide), by simp [isBlank], rfl⟩
  have hon : onEntry.Writes 255 := ⟨"0X0fF", "", .hexadecimal (n := 255) ⟨1, by decide⟩, by simp, rfl⟩
  refine ⟨hoff, hon, enumerators_read_back.1 _ _ hoff, enumerators_read_back.1 _ _ hon, ?_⟩
  have hchildren : modeTable.tree.childrenTagged "enumerator" 0 = [1, 2] := by decide
  have hread := enumerators_read_back.2 modeTable 0 fun j => if j = 1 then -1 else 255
  rw [hchildren] at hread
  apply hread
  intro j hj n hn _
  rcases List.mem_pair.mp hj with rfl | rfl
  · obtain rfl := Option.some.inj hn
    exact hoff
  · obtain rfl := Option.some.inj hn
    exact hon

end TypeTable

end ScriptBinding
