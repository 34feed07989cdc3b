import Mathlib.Data.List.Nodup
import Mathlib.Data.List.Perm.Subperm
import ScriptBinding.Dump.Tree

/-!
Ways along the references of a tree, for any rule by which a way goes on from an entry. It stops after no more steps
than the tree has nodes, or it comes back to an entry and never stops.
-/

namespace ScriptBinding.Dump.Tree

variable (t : Tree) (onward : Nat → Option (Option Nat))

/-- From a reference, the entries that are passed and the reference behind the last of them. -/
inductive Passes : Option Nat → List Nat → Option Nat → Prop where
  | here (reference : Option Nat) : Passes reference [] reference
  | on {reference next last : Option Nat} {i : Nat} {path : List Nat} : reference.bind t.lookup = some i →
      onward i = some next → Passes next path last → Passes reference (i :: path) last

/-- There is no entry at a reference, or none that a way goes on from. -/
def Stops (reference : Option Nat) : Prop := ∀ i, reference.bind t.lookup = some i → onward i = none

/-- The way reaches an entry that it has passed. -/
def ComesBack (reference : Option Nat) : Prop :=
  ∃ path last i, t.Passes onward reference path last ∧ last.bind t.lookup = some i ∧ i ∈ path

variable {t onward} {reference next middle last : Option Nat} {i : Nat} {path before behind : List Nat}

theorem lt_size_of_lookup {offset : Nat} (h : t.lookup offset = some i) : i < t.size := by
  have hmem := List.mem_of_find?_eq_some h
  simpa [places] using hmem

theorem lt_size_of_find (h : reference.bind t.lookup = some i) : i < t.size := by
  obtain ⟨offset, -, hoffset⟩ := Option.bind_eq_some_iff.mp h
  exact lt_size_of_lookup hoffset

namespace Passes

theorem lt_size (h : t.Passes onward reference path last) : ∀ i ∈ path, i < t.size := by
  induction h with
  | here => exact List.forall_mem_nil _
  | on hi _ _ ih => exact List.forall_mem_cons.mpr ⟨lt_size_of_find hi, ih⟩

theorem eq_nil (h : t.Passes onward reference path last) (hstops : t.Stops onward reference) : path = [] := by
  cases h with
  | here => rfl
  | on hi hnext _ =>
    rw [hstops _ hi] at hnext
    cases hnext

theorem split (h : t.Passes onward reference (before ++ behind) last) :
    ∃ middle, t.Passes onward reference before middle ∧ t.Passes onward middle behind last := by
  induction before generalizing reference with
  | nil => exact ⟨reference, .here reference, h⟩
  | cons i before ih =>
    cases h with
    | on hi hnext h =>
      obtain ⟨middle, hbefore, hbehind⟩ := ih h
      exact ⟨middle, .on hi hnext hbefore, hbehind⟩

theorem eq_nil_or_cons (h : t.Passes onward reference path last) (hi : reference.bind t.lookup = some i)
    (hnext : onward i = some next) :
    path = [] ∧ last = reference ∨ ∃ rest, path = i :: rest ∧ t.Passes onward next rest last := by
  cases h with
  | here => exact .inl ⟨rfl, rfl⟩
  | @on _ _ _ _ rest hj hnext' h =>
    obtain rfl := Option.some.inj (hi.symm.trans hj)
    obtain rfl := Option.some.inj (hnext.symm.trans hnext')
    exact .inr ⟨rest, rfl, h⟩

theorem exists_rest (h : t.Passes onward reference before middle) (hlong : t.Passes onward reference path last)
    (hstops : t.Stops onward last) : ∃ behind, path = before ++ behind ∧ t.Passes onward middle behind last := by
  induction h generalizing path with
  | here => exact ⟨path, rfl, hlong⟩
  | on hi hnext _ ih =>
    rcases hlong.eq_nil_or_cons hi hnext with ⟨-, rfl⟩ | ⟨rest, rfl, hrest⟩
    · rw [hstops _ hi] at hnext
      cases hnext
    · obtain ⟨behind, rfl, hbehind⟩ := ih hrest
      exact ⟨behind, rfl, hbehind⟩

theorem length_eq {other stop : Option Nat} {path' : List Nat} (h : t.Passes onward reference path last)
    (hstops : t.Stops onward last) (h' : t.Passes onward other path' stop) (hstops' : t.Stops onward stop)
    (hsame : reference.bind t.lookup = other.bind t.lookup) : path.length = path'.length := by
  cases h with
  | here =>
    have hother : t.Stops onward other := fun i hi => hstops i (hsame.trans hi)
    rw [h'.eq_nil hother]
  | on hi hnext h =>
    rcases h'.eq_nil_or_cons (hsame.symm.trans hi) hnext with ⟨-, rfl⟩ | ⟨rest, rfl, hrest⟩
    · rw [hstops' _ (hsame.symm.trans hi)] at hnext
      cases hnext
    · obtain ⟨behind, rfl, hbehind⟩ := h.exists_rest hrest hstops'
      rw [hbehind.eq_nil hstops, List.append_nil, List.length_cons]

end Passes

theorem exists_passes (t : Tree) (onward : Nat → Option (Option Nat)) (steps : Nat) (reference : Option Nat) :
    ∃ path last, t.Passes onward reference path last ∧
      (path.length = steps ∨ path.length < steps ∧ t.Stops onward last) := by
  induction steps generalizing reference with
  | zero => exact ⟨[], reference, .here reference, .inl rfl⟩
  | succ steps ih =>
    by_cases hstops : t.Stops onward reference
    · exact ⟨[], reference, .here reference, .inr ⟨Nat.succ_pos steps, hstops⟩⟩
    · obtain ⟨i, hi, hnext⟩ := not_forall₂.mp hstops
      obtain ⟨next, hnext⟩ := Option.ne_none_iff_exists'.mp hnext
      obtain ⟨path, last, hpasses, hlength⟩ := ih next
      refine ⟨i :: path, last, .on hi hnext hpasses, hlength.imp ?_ ?_⟩
      · exact congrArg Nat.succ
      · exact fun h => ⟨Nat.succ_lt_succ h.1, h.2⟩

theorem ComesBack.on (hi : reference.bind t.lookup = some i) (hnext : onward i = some next)
    (h : t.ComesBack onward next) : t.ComesBack onward reference := by
  obtain ⟨path, last, j, hpasses, hj, hmem⟩ := h
  exact ⟨i :: path, last, j, .on hi hnext hpasses, hj, List.mem_cons_of_mem i hmem⟩

theorem Passes.nodup (h : t.Passes onward reference path last) (hforth : ¬ t.ComesBack onward reference) :
    path.Nodup := by
  induction h with
  | here => exact List.nodup_nil
  | @on reference next last i path hi hnext hpasses ih =>
    refine List.nodup_cons.mpr ⟨?_, ih fun hback => hforth (hback.on hi hnext)⟩
    intro hmem
    obtain ⟨before, behind, rfl⟩ := List.append_of_mem hmem
    obtain ⟨middle, hbefore, hbehind⟩ := hpasses.split
    cases hbehind with
    | on hagain _ _ => exact hforth ⟨i :: before, middle, i, .on hi hnext hbefore, hagain, List.mem_cons_self⟩

/-- A way that does not come back stops after each entry has been passed once at most. -/
theorem exists_stop (h : ¬ t.ComesBack onward reference) :
    ∃ path last, t.Passes onward reference path last ∧ t.Stops onward last ∧ path.length ≤ t.size := by
  obtain ⟨path, last, hpasses, hlength⟩ := t.exists_passes onward (t.size + 1) reference
  have hsubset : path ⊆ t.places := fun i hi => List.mem_range.mpr (hpasses.lt_size i hi)
  have hle : path.length ≤ t.size := by simpa [places] using ((hpasses.nodup h).subperm hsubset).length_le
  rcases hlength with hlength | ⟨-, hstops⟩
  · omega
  · exact ⟨path, last, hpasses, hstops, hle⟩

theorem ComesBack.not_stops (h : t.ComesBack onward reference) (hpasses : t.Passes onward reference path last) :
    ¬ t.Stops onward last := by
  intro hstops
  obtain ⟨round, back, i, hround, hi, hmem⟩ := h
  obtain ⟨rest, rfl, hrest⟩ := hround.exists_rest hpasses hstops
  obtain ⟨before, behind, rfl⟩ := List.append_of_mem hmem
  rw [List.append_assoc] at hpasses
  obtain ⟨start, -, hstart⟩ := hpasses.split
  -- The rest of the way from `i` would be as long as itself with the round before it.
  have hlength : (i :: behind ++ rest).length = rest.length := by
    cases hstart with
    | on hj hnext hbehind =>
      exact (Passes.on hj hnext hbehind).length_eq hstops hrest hstops (hj.trans hi.symm)
  rw [List.length_append, List.length_cons] at hlength
  omega

theorem ComesBack.exists_passes (h : t.ComesBack onward reference) (steps : Nat) :
    ∃ path last, t.Passes onward reference path last ∧ path.length = steps := by
  obtain ⟨path, last, hpasses, hlength⟩ := t.exists_passes onward steps reference
  rcases hlength with hlength | ⟨-, hstops⟩
  · exact ⟨path, last, hpasses, hlength⟩
  · exact absurd hstops (h.not_stops hpasses)

end ScriptBinding.Dump.Tree
