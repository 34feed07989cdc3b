import Mathlib.Data.List.Find
import ScriptBinding.Proofs.Dump.Printing
import ScriptBinding.Proofs.Dump.Renaming

/-!
Offsets given anew to all entries of a tree, and to the references between them. The references of a text are
rewritten where they stand, and no other reference comes about: a reference opens with a bracket, and the
brackets stay where they were.
-/

namespace ScriptBinding

open Text

theorem Keyed.get?_map_values {κ α β : Type} [BEq κ] [LawfulBEq κ] (g : κ → α → β) (m : Keyed κ α) (key : κ) :
    get? (m.map fun p => (p.1, g p.1 p.2)) key = (m.get? key).map (g key) := by
  induction m with
  | nil => rfl
  | cons p m ih =>
    rw [List.map_cons, get?, get?]
    by_cases hp : (p.1 == key) = true
    · rw [if_pos hp, if_pos hp, eq_of_beq hp]
      rfl
    · rw [if_neg hp, if_neg hp, ih]

namespace Dump

def referenceDigits? (cs : List Char) : Option (List Char) := do
  let cs ← after? "<0x".toList cs
  let (digits, cs) ← run? isHexDigit cs
  let _ ← after? ['>'] cs
  return digits

def referenceText (offset : Nat) : List Char := "<0x".toList ++ (Nat.toDigits 16 offset ++ ['>'])

/-- Copies a text with `<0x..>` for the image of each offset, after skipping `skipped` characters. -/
def renumberFrom (f : Nat → Nat) : Nat → List Char → List Char
  | _, [] => []
  | skipped + 1, _ :: cs => renumberFrom f skipped cs
  | 0, c :: cs =>
    match referenceDigits? (c :: cs) with
    | some digits => referenceText (f (hexValue digits)) ++ renumberFrom f (digits.length + 3) cs
    | none => c :: renumberFrom f 0 cs

theorem readReference?_eq (cs : List Char) : readReference? cs = (referenceDigits? cs).map hexValue := by
  rw [readReference?, referenceDigits?]
  simp only [Option.bind_eq_bind, Option.pure_def, Option.map_bind, Function.comp_def, Option.map_some]

theorem referenceDigits?_eq_some_iff {cs digits : List Char} : referenceDigits? cs = some digits ↔
    digits ≠ [] ∧ (∀ c ∈ digits, isHexDigit c = true) ∧ "<0x".toList ++ (digits ++ ['>']) <+: cs := by
  simp only [referenceDigits?, Option.bind_eq_bind, Option.bind_eq_some_iff, Option.pure_def, Option.some.injEq]
  constructor
  · rintro ⟨inner, hopen, ⟨run, rest⟩, hrun, after, hclose, rfl⟩
    obtain ⟨hne, hhex, -⟩ := run?_eq_some hrun
    dsimp only at hclose ⊢
    refine ⟨hne, hhex, after, ?_⟩
    rw [eq_append_of_after? hopen, eq_append_of_run? hrun, eq_append_of_after? hclose]
    simp
  · rintro ⟨hne, hhex, after, rfl⟩
    refine ⟨digits ++ (['>'] ++ after), ?_, ⟨digits, ['>'] ++ after⟩, ?_, after, after?_append _ _, rfl⟩
    · rw [List.append_assoc, List.append_assoc]
      exact after?_append _ _
    · exact run?_append hne hhex (by simp [isHexDigit])

theorem referenceDigits?_referenceText (offset : Nat) (rest : List Char) :
    referenceDigits? (referenceText offset ++ rest) = some (Nat.toDigits 16 offset) :=
  referenceDigits?_eq_some_iff.mpr ⟨Nat.toDigits_ne_nil, Shown.isHexDigit_of_mem_toDigits, List.prefix_append _ _⟩

theorem prefix_of_prefix_renumberFrom (f : Nat → Nat) {p cs : List Char} (hp : '<' ∉ p)
    (h : p <+: renumberFrom f 0 cs) : p <+: cs := by
  induction cs generalizing p with
  | nil => exact h
  | cons c cs ih =>
    cases p with
    | nil => exact List.nil_prefix
    | cons d p =>
      rw [List.mem_cons, not_or] at hp
      obtain ⟨hd, hp⟩ := hp
      rw [renumberFrom] at h
      split at h
      · obtain ⟨hsame, -⟩ := List.cons_prefix_cons.mp h
        exact absurd hsame.symm hd
      · obtain ⟨rfl, hrest⟩ := List.cons_prefix_cons.mp h
        exact List.cons_prefix_cons.mpr ⟨rfl, ih hp hrest⟩

theorem referenceDigits?_cons_renumberFrom (f : Nat → Nat) {c : Char} {cs : List Char}
    (h : referenceDigits? (c :: cs) = none) : referenceDigits? (c :: renumberFrom f 0 cs) = none := by
  apply Option.eq_none_iff_forall_ne_some.mpr
  intro digits hread
  obtain ⟨hne, hhex, hopen⟩ := referenceDigits?_eq_some_iff.mp hread
  obtain ⟨hc, hinner⟩ := List.cons_prefix_cons.mp hopen
  have hbracket : '<' ∉ "0x".toList ++ (digits ++ ['>']) := by
    intro hmem
    simp only [List.mem_append, List.mem_singleton] at hmem
    rcases hmem with hmem | hmem | hmem
    · revert hmem
      decide
    · simpa [isHexDigit] using hhex _ hmem
    · revert hmem
      decide
  have hcs := prefix_of_prefix_renumberFrom f hbracket hinner
  have hfound := referenceDigits?_eq_some_iff.mpr ⟨hne, hhex, List.cons_prefix_cons.mpr ⟨hc, hcs⟩⟩
  rw [h] at hfound
  cases hfound

theorem firstRead?_renumberFrom (f : Nat → Nat) (cs : List Char) :
    firstRead? readReference? (renumberFrom f 0 cs) = (firstRead? readReference? cs).map f := by
  induction cs with
  | nil => rfl
  | cons c cs ih =>
    rw [renumberFrom]
    cases hread : referenceDigits? (c :: cs) with
    | some digits =>
      have himage := referenceDigits?_referenceText (f (hexValue digits)) (renumberFrom f (digits.length + 3) cs)
      dsimp only
      rw [firstRead?, readReference?_eq, hread]
      change firstRead? readReference? ('<' :: _) = _
      rw [firstRead?, readReference?_eq]
      change ((referenceDigits? (referenceText _ ++ _)).map hexValue).orElse _ = _
      rw [himage]
      exact congrArg some (ofDigits_toDigits (by decide) (by decide) _)
    | none =>
      dsimp only
      rw [firstRead?, firstRead?, readReference?_eq, readReference?_eq, hread,
        referenceDigits?_cons_renumberFrom f hread]
      exact ih

def renumberReferences (f : Nat → Nat) (value : String) : String := .ofList (renumberFrom f 0 value.toList)

namespace Entry

def renumber (f : Nat → Nat) (e : Entry) : Entry where
  tag := e.tag
  offset := f e.offset
  depth := e.depth
  attributes := e.attributes.map fun p => (p.1, if p.1 = "type" then renumberReferences f p.2 else p.2)

theorem attribute?_renumber (f : Nat → Nat) (e : Entry) (key : String) : (e.renumber f).attribute? key =
    (e.attribute? key).map fun value => if key = "type" then renumberReferences f value else value :=
  Keyed.get?_map_values (fun key value => if key = "type" then renumberReferences f value else value) _ _

theorem attribute?_renumber_of_ne (f : Nat → Nat) (e : Entry) {key : String} (h : key ≠ "type") :
    (e.renumber f).attribute? key = e.attribute? key := by
  rw [attribute?_renumber]
  simp [h]

theorem renamed_renumber (f : Nat → Nat) (e : Entry) : Entry.Renamed f e (e.renumber f) where
  tag := rfl
  name := by rw [name?, name?, attribute?_renumber_of_ne f e (by decide)]
  access := by rw [access?, access?, attribute?_renumber_of_ne f e (by decide)]
  artificial := by rw [isArtificial, isArtificial, attribute?_renumber_of_ne f e (by decide)]
  constant := by rw [constant?, constant?, attribute?_renumber_of_ne f e (by decide)]
  typeReference := by
    rw [typeReference?, typeReference?, attribute?_renumber]
    cases e.attribute? "type" with
    | none => rfl
    | some value =>
      simp only [Option.map_some, Option.bind_some, if_true, renumberReferences, String.toList_ofList]
      exact firstRead?_renumberFrom f value.toList

end Entry

def Node.renumber (f : Nat → Nat) (n : Node) : Node := { n with toEntry := n.toEntry.renumber f }

namespace Tree

/-- The tree with every offset and every reference to a type renumbered by `f`. -/
def renumber (f : Nat → Nat) (t : Tree) : Tree := { t with nodes := t.nodes.map (·.renumber f) }

variable {f : Nat → Nat} (t : Tree)

theorem getElem?_renumber (i : Nat) : (t.renumber f).nodes[i]? = t.nodes[i]?.map (·.renumber f) :=
  Array.getElem?_map

theorem lookup_renumber (hf : f.Injective) (offset : Nat) : (t.renumber f).lookup (f offset) = t.lookup offset := by
  have hplaces : (t.renumber f).places = t.places := by
    rw [places, size, renumber, Array.size_map]
    rfl
  rw [lookup, lookup, hplaces]
  apply List.find?_congr
  intro i _
  rw [getElem?_renumber, Option.any_map]
  cases t.nodes[i]? with
  | none => rfl
  | some n => simp [Node.renumber, Entry.renumber, hf.eq_iff]

theorem renamed_renumber (hf : f.Injective) : t.Renamed id f (t.renumber f) where
  injective := Function.injective_id
  size := Array.size_map
  node := by
    intro i
    rw [id, getElem?_renumber]
    cases t.nodes[i]? with
    | none => exact .none
    | some n => exact .some ⟨n.toEntry.renamed_renumber f, (List.map_id n.ancestors).symm⟩
  children := fun i => (List.map_id (t.children i)).symm
  lookup := by
    intro offset
    rw [t.lookup_renumber hf, Option.map_id, id]

theorem findClass_renumber (hf : f.Injective) (name : String) :
    (t.renumber f).findClass name = t.findClass name := by
  have hrenamed := t.renamed_renumber hf
  have htagged : (t.renumber f).tagged "class_type" = t.tagged "class_type" := by
    rw [tagged, tagged, places, hrenamed.size]
    exact List.filter_congr fun i _ => hrenamed.hasTag _ i
  have hname (i : Nat) : (t.renumber f).name? i = t.name? i := hrenamed.name? i
  have hbetter : (t.renumber f).better = t.better := rfl
  rw [findClass, findClass, htagged, hbetter]
  simp only [hname]

end Tree

end Dump

end ScriptBinding
