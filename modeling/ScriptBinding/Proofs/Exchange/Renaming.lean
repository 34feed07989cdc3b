import ScriptBinding.Proofs.Dump.Renaming
import ScriptBinding.Proofs.Exchange.Chains

/-!
Types are described alike in trees that differ only in places and offsets: no description holds either.
-/

namespace ScriptBinding

open Dump

/-- The link of a renamed tree. -/
def Link.renamed (offset : Nat → Nat) : Link → Link
  | .ends description => .ends description
  | .through layer next => .through layer (next.map offset)

namespace Dump.Tree.Renamed

open TypeTable

variable {place offset : Nat → Nat} {t u : Tree} (h : t.Renamed place offset u) {handlers : Keyed String Handler}
include h

theorem find (reference : Option Nat) :
    (TypeTable.mk u handlers).find (reference.map offset) = ((TypeTable.mk t handlers).find reference).map place := by
  cases reference with
  | none => rfl
  | some o => exact h.lookup o

theorem kind (i : Nat) : (TypeTable.mk u handlers).kind (place i) = (TypeTable.mk t handlers).kind i := by
  rw [TypeTable.kind, TypeTable.kind]
  rcases h.node_cases i with ⟨ht, hu⟩ | ⟨n, n', ht, hu, hn⟩
  · rw [ht, hu]
  · rw [ht, hu, Option.map_some, Option.map_some, hn.entry.tag]

theorem isAlias (i : Nat) : u.isAlias (place i) = t.isAlias i := by
  simp only [Tree.isAlias, h.hasTag]

theorem pointeeWithin (fuel : Nat) (isConst : Bool) (reference : Option Nat) :
    (TypeTable.mk u handlers).pointeeWithin fuel isConst (reference.map offset) =
      ((TypeTable.mk t handlers).pointeeWithin fuel isConst reference).map (Prod.map id (Option.map place)) := by
  have hmoved {reference : Option Nat} {i : Nat} (hi : (TypeTable.mk t handlers).find reference = some i) :
      (TypeTable.mk u handlers).find (reference.map offset) = some (place i) := by
    rw [h.find, hi, Option.map_some]
  induction fuel, reference using (TypeTable.mk t handlers).pointeeWithin_induction generalizing isConst with
  | ends fuel reference hends =>
    have hends' : ∀ i, (TypeTable.mk u handlers).find (reference.map offset) = some i → u.isAlias i = false := by
      intro i hi
      rw [h.find] at hi
      obtain ⟨j, hj, rfl⟩ := Option.map_eq_some_iff.mp hi
      exact (h.isAlias j).trans (hends j hj)
    rw [pointeeWithin_of_ends hends, pointeeWithin_of_ends (t := ⟨u, handlers⟩) hends', h.find]
    rfl
  | zero reference i hi halias =>
    rw [pointeeWithin_zero hi halias, pointeeWithin_zero (hmoved hi) ((h.isAlias i).trans halias)]
    rfl
  | succ fuel reference i hi halias ih =>
    rw [pointeeWithin_succ hi halias, pointeeWithin_succ (hmoved hi) ((h.isAlias i).trans halias), h.typeReference?,
      h.hasTag]
    exact ih _

theorem pointer (i : Nat) : (TypeTable.mk u handlers).pointer (place i) = (TypeTable.mk t handlers).pointer i := by
  have hpointee : (TypeTable.mk u handlers).pointee (place i) =
      ((TypeTable.mk t handlers).pointee i).map (Prod.map id (Option.map place)) := by
    rw [pointee, pointee, h.typeReference?, h.size]
    exact h.pointeeWithin _ _ _
  rw [TypeTable.pointer, TypeTable.pointer, hpointee]
  cases (TypeTable.mk t handlers).pointee i with
  | error fault => rfl
  | ok found =>
    obtain ⟨isConst, target⟩ := found
    cases target with
    | none => rfl
    | some j =>
      simp only [Except.map, Prod.map, id_eq, Option.map_some, Option.any_some, h.kind, h.name?]

theorem enumerator (i : Nat) :
    (TypeTable.mk u handlers).enumerator (place i) = (TypeTable.mk t handlers).enumerator i := by
  rw [TypeTable.enumerator, TypeTable.enumerator, h.name?]
  rcases h.node_cases i with ⟨ht, hu⟩ | ⟨n, n', ht, hu, hn⟩
  · rw [ht, hu]
  · rw [ht, hu]
    cases t.name? i with
    | none => rfl
    | some label =>
      dsimp only
      rw [hn.entry.constant]

theorem enumeration (i : Nat) :
    (TypeTable.mk u handlers).enumeration (place i) = (TypeTable.mk t handlers).enumeration i := by
  rw [TypeTable.enumeration, TypeTable.enumeration, h.childrenTagged, h.qualifiedName?, h.name?, List.mapM_map]
  have henumerator : (TypeTable.mk u handlers).enumerator ∘ place = (TypeTable.mk t handlers).enumerator :=
    funext h.enumerator
  rw [henumerator]

theorem linkOf (i : Nat) :
    (TypeTable.mk u handlers).linkOf (place i) = ((TypeTable.mk t handlers).linkOf i).renamed offset := by
  have hhandler : (TypeTable.mk u handlers).hasHandler = (TypeTable.mk t handlers).hasHandler := rfl
  have htarget : ((TypeTable.mk u handlers).find ((t.typeReference? i).map offset)).filter
        ((TypeTable.mk u handlers).kind · = .constant) =
      (((TypeTable.mk t handlers).find (t.typeReference? i)).filter
        ((TypeTable.mk t handlers).kind · = .constant)).map place := by
    rw [h.find]
    cases (TypeTable.mk t handlers).find (t.typeReference? i) with
    | none => rfl
    | some target =>
      rw [Option.map_some, Option.filter_some, Option.filter_some, h.kind]
      by_cases hconst : (TypeTable.mk t handlers).kind target = .constant <;> simp [hconst]
  rw [TypeTable.linkOf, TypeTable.linkOf, h.qualifiedName?, hhandler]
  cases (t.qualifiedName? i).filter (TypeTable.mk t handlers).hasHandler with
  | some name => rfl
  | none =>
    dsimp only
    rw [h.kind, h.typeReference?]
    cases (TypeTable.mk t handlers).kind i with
    | reference =>
      dsimp only
      rw [htarget]
      cases ((TypeTable.mk t handlers).find (t.typeReference? i)).filter
          ((TypeTable.mk t handlers).kind · = .constant) with
      | none => rfl
      | some target => exact congrArg (Link.through _) (h.typeReference? target)
    | typedef => exact congrArg (fun name => Link.through (.typedef _ name) _) (h.name? i)
    | pointer => exact congrArg Link.ends (h.pointer i)
    | enumeration => exact congrArg Link.ends (h.enumeration i)
    | fundamental | constant | volatile | other => rfl

theorem link (reference : Option Nat) :
    (TypeTable.mk u handlers).link (reference.map offset) =
      ((TypeTable.mk t handlers).link reference).renamed offset := by
  cases reference with
  | none => rfl
  | some o =>
    rw [Option.map_some, TypeTable.link, TypeTable.link]
    dsimp only
    rw [h.lookup]
    cases t.lookup o with
    | none => rfl
    | some i => exact h.linkOf i

theorem describe (reference : Option Nat) :
    (TypeTable.mk u handlers).describe (reference.map offset) = (TypeTable.mk t handlers).describe reference := by
  rw [TypeTable.describe, TypeTable.describe, h.size]
  generalize t.size = fuel
  have hrenamed {reference : Option Nat} {link : Link} (hlink : (TypeTable.mk t handlers).link reference = link) :
      (TypeTable.mk u handlers).link (reference.map offset) = link.renamed offset := by
    rw [h.link, hlink]
  fun_induction (TypeTable.mk t handlers).describeWithin fuel reference with
  | case1 fuel reference description hlink => exact describeWithin_of_ends (hrenamed hlink) fuel
  | case2 reference layer next fuel hlink ih =>
    rw [describeWithin_succ (hrenamed hlink)]
    exact congrArg _ ih
  | case3 reference layer next hlink => exact describeWithin_zero (hrenamed hlink)

end Dump.Tree.Renamed

end ScriptBinding
