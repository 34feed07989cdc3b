import Mathlib.Data.List.Chain
import Mathlib.Data.List.Nodup
import Mathlib.Data.List.Perm.Subperm
import Mathlib.Logic.Relation
import ScriptBinding.Proofs.Dump.Ways
import ScriptBinding.Proofs.Exchange.Chains

/-!
Trails of type references. Where none leads back to itself, no trail is longer than the tree, and every type can be
described.
-/

namespace ScriptBinding

open Dump

namespace Dump.Tree

variable (t : Tree)

/-- Aliases and references lead to the entry that their own type reference is for. -/
def LeadsTo (i j : Nat) : Prop :=
  (t.isAlias i = true ∨ t.isReference i = true) ∧ (t.typeReference? i).bind t.lookup = some j

def Acyclic : Prop := ∀ i, ¬ Relation.TransGen t.LeadsTo i i

/-- Entries of which each leads to the next. -/
structure Trail (path : List Nat) : Prop where
  chain : path.IsChain (Relation.TransGen t.LeadsTo)
  lt_size : ∀ i ∈ path, i < t.size

/-- The values of all enumerators can be read. -/
def Readable : Prop := ∀ n ∈ t.nodes, n.tag = "enumerator" → ∃ value, n.constant? = .ok value

instance : DecidablePred Readable := fun t =>
  decidable_of_iff (∀ n ∈ t.nodes, n.tag = "enumerator" → n.constant?.toOption.isSome = true) <| by
    refine forall₃_congr fun n _ _ => ?_
    cases n.constant? <;> simp [Except.toOption]

variable {t}

theorem lt_of_leadsTo (h : ∀ i ∈ t.places, ((t.typeReference? i).bind t.lookup).all (i < ·) = true) {i j : Nat}
    (hij : t.LeadsTo i j) : i < j := by
  obtain ⟨offset, hoffset, -⟩ := Option.bind_eq_some_iff.mp hij.2
  obtain ⟨n, hn, -⟩ := Option.bind_eq_some_iff.mp hoffset
  obtain ⟨hi, -⟩ := Array.getElem?_eq_some_iff.mp hn
  have hlater := h i (List.mem_range.mpr hi)
  rw [hij.2] at hlater
  simpa using hlater

/-- No type leads back to itself if every type reference is to a later entry. -/
theorem acyclic_of_forward (h : ∀ i ∈ t.places, ((t.typeReference? i).bind t.lookup).all (i < ·) = true) :
    t.Acyclic := by
  have hlt {i j : Nat} (hij : Relation.TransGen t.LeadsTo i j) : i < j := by
    induction hij with
    | single hij => exact lt_of_leadsTo h hij
    | tail _ hjk ih => exact ih.trans (lt_of_leadsTo h hjk)
  exact fun i hi => Nat.lt_irrefl i (hlt hi)

theorem Trail.singleton {i : Nat} (h : i < t.size) : t.Trail [i] := ⟨.singleton i, by simpa using h⟩

theorem Trail.cons {i j : Nat} {path : List Nat} (h : t.Trail path) (hj : path.head? = some j) (hi : i < t.size)
    (hij : Relation.TransGen t.LeadsTo i j) : t.Trail (i :: path) where
  chain := by
    refine List.isChain_cons.mpr ⟨?_, h.chain⟩
    intro k hk
    obtain rfl := Option.some.inj (hj.symm.trans hk)
    exact hij
  lt_size := List.forall_mem_cons.mpr ⟨hi, h.lt_size⟩

theorem Trail.nodup {path : List Nat} (h : t.Trail path) (hacyclic : t.Acyclic) : path.Nodup := by
  apply (List.isChain_iff_pairwise.mp h.chain).imp
  rintro i _ hij rfl
  exact hacyclic i hij

theorem Trail.length_le {path : List Nat} (h : t.Trail path) (hacyclic : t.Acyclic) : path.length ≤ t.size := by
  have hsubset : path ⊆ t.places := fun i hi => List.mem_range.mpr (h.lt_size i hi)
  have hle := ((h.nodup hacyclic).subperm hsubset).length_le
  simpa [places] using hle

end Dump.Tree

namespace TypeTable

variable {t : TypeTable} {reference next : Option Nat} {layer : Layer} {fuel : Nat} {fault : Fault}

theorem Continues.leadsTo {j : Nat} (h : t.Continues reference layer next) (hj : t.find next = some j) :
    ∃ i, t.find reference = some i ∧ Relation.TransGen t.tree.LeadsTo i j := by
  cases h with
  | @typedef _ i hi _ halias => exact ⟨i, hi, .single ⟨.inl halias, hj⟩⟩
  | @qualifier _ i hi _ halias => exact ⟨i, hi, .single ⟨.inl halias, hj⟩⟩
  | @constReference _ i target hi _ hreference htarget hconst =>
    have halias : t.tree.isAlias target = true := by simp [Tree.isAlias, hconst]
    exact ⟨i, hi, .head ⟨.inr hreference, htarget⟩ (.single ⟨.inl halias, hj⟩)⟩

theorem Continues.exists_find (h : t.Continues reference layer next) : ∃ i, t.find reference = some i := by
  cases h with
  | @typedef _ i hi | @qualifier _ i hi | @constReference _ i _ hi => exact ⟨i, hi⟩

theorem exists_trail_of_pointeeWithin {isConst : Bool} (h : t.pointeeWithin fuel isConst reference = .error fault) :
    ∃ path, t.tree.Trail path ∧ path.head? = t.find reference ∧ path.length = fuel + 1 := by
  induction fuel, reference using t.pointeeWithin_induction generalizing isConst with
  | ends fuel reference hends =>
    rw [pointeeWithin_of_ends hends] at h
    cases h
  | zero reference i hi halias => exact ⟨[i], .singleton (Tree.lt_size_of_find hi), hi.symm, rfl⟩
  | succ fuel reference i hi halias ih =>
    rw [pointeeWithin_succ hi halias] at h
    obtain ⟨path, htrail, hhead, hlength⟩ := ih h
    cases path with
    | nil => cases hlength
    | cons j path =>
      have hij : t.tree.LeadsTo i j := ⟨.inl halias, hhead.symm⟩
      exact ⟨i :: j :: path, htrail.cons rfl (Tree.lt_size_of_find hi) (.single hij), hi.symm, by simpa using hlength⟩

theorem exists_pointee (hacyclic : t.tree.Acyclic) (i : Nat) : ∃ target, t.pointee i = .ok target := by
  cases h : t.pointee i with
  | ok target => exact ⟨target, rfl⟩
  | error fault =>
    obtain ⟨path, htrail, -, hlength⟩ := exists_trail_of_pointeeWithin h
    have hle := htrail.length_le hacyclic
    omega

theorem exists_enumeration (hreadable : t.tree.Readable) (i : Nat) : ∃ type, t.enumeration i = .ok type := by
  have hvalues : ∃ values, (t.tree.childrenTagged "enumerator" i).mapM t.enumerator = .ok values := by
    apply exists_mapM_ok
    intro j hj
    have htag := (List.mem_filter.mp hj).2
    rw [enumerator]
    split
    · next n label hn hlabel =>
      have hmem : n ∈ t.tree.nodes := Array.mem_of_getElem? hn
      obtain ⟨value, hvalue⟩ := hreadable n hmem (by simpa [Tree.hasTag, hn] using htag)
      exact ⟨_, by rw [hvalue]; rfl⟩
    · exact ⟨none, rfl⟩
  obtain ⟨values, hvalues⟩ := hvalues
  rw [enumeration, hvalues]
  exact ⟨_, rfl⟩

section Acyclic

variable (hacyclic : t.tree.Acyclic) (hreadable : t.tree.Readable)
include hacyclic hreadable

theorem exists_of_link {description : Except Fault NativeType} (h : t.link reference = .ends description) :
    ∃ type, description = .ok type := by
  cases description with
  | ok type => exact ⟨type, rfl⟩
  | error fault =>
    obtain ⟨offset, i, rfl, -, hpointer | ⟨-, henumeration⟩⟩ := fails_of_link h
    · obtain ⟨target, htarget⟩ := exists_pointee hacyclic i
      rw [pointer, htarget] at hpointer
      cases hpointer
    · obtain ⟨type, htype⟩ := exists_enumeration hreadable i
      cases htype.symm.trans henumeration

theorem exists_describeWithin (fuel : Nat) (reference : Option Nat) :
    (∃ type, t.describeWithin fuel reference = .ok type) ∨
      ∃ path, t.tree.Trail path ∧ path.head? = t.find reference ∧ path.length = fuel + 1 := by
  fun_induction t.describeWithin fuel reference with
  | case1 fuel reference description hlink => exact .inl (exists_of_link hacyclic hreadable hlink)
  | case2 reference layer next fuel hlink ih =>
    rcases ih with ⟨type, htype⟩ | ⟨path, htrail, hhead, hlength⟩
    · exact .inl ⟨layer.apply type, by rw [htype]; rfl⟩
    · cases path with
      | nil => cases hlength
      | cons j path =>
        obtain ⟨i, hi, hij⟩ := (continues_of_link hlink).leadsTo hhead.symm
        exact .inr ⟨i :: j :: path, htrail.cons rfl (Tree.lt_size_of_find hi) hij, hi.symm, by simpa using hlength⟩
  | case3 reference layer next hlink =>
    obtain ⟨i, hi⟩ := (continues_of_link hlink).exists_find
    exact .inr ⟨[i], .singleton (Tree.lt_size_of_find hi), hi.symm, rfl⟩

theorem exists_describe (reference : Option Nat) : ∃ type, t.describe reference = .ok type := by
  rcases exists_describeWithin hacyclic hreadable t.tree.size reference with htype | ⟨path, htrail, -, hlength⟩
  · exact htype
  · have hle := htrail.length_le hacyclic
    omega

end Acyclic

end TypeTable

end ScriptBinding
