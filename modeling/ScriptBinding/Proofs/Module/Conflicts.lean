import Mathlib.Data.List.Induction
import Mathlib.Data.List.ReduceOption
import ScriptBinding.Proofs.Methods.Partition
import ScriptBinding.Proofs.Module.References

/-!
Enumerations that come under one name with different values. A reference is reported if its name came with other
values just before, so a name is reported if any two of its references differ, and not if they all agree.
-/

namespace ScriptBinding

section Changes

variable {α : Type} [DecidableEq α]

/-- How often an element of a list differs from the one before it. -/
def changes (l : List α) : Nat := (l.zip l.tail).countP fun p => p.1 ≠ p.2

theorem changes_cons_cons (a b : α) (l : List α) :
    changes (a :: b :: l) = (if a = b then 0 else 1) + changes (b :: l) := by
  rw [changes, List.tail_cons, List.zip_cons_cons, List.countP_cons, Nat.add_comm]
  by_cases hab : a = b <;> simp [hab, changes]

theorem changes_concat (l : List α) (a : α) :
    changes (l ++ [a]) = changes l + if l.getLast?.any (· ≠ a) then 1 else 0 := by
  induction l with
  | nil => rfl
  | cons b l ih =>
    cases l with
    | nil => by_cases hba : b = a <;> simp [changes, hba]
    | cons c l =>
      rw [List.cons_append, List.cons_append, changes_cons_cons, ← List.cons_append, ih, changes_cons_cons,
        List.getLast?_cons_cons, Nat.add_assoc]

theorem changes_eq_zero_iff {l : List α} : changes l = 0 ↔ ∀ a ∈ l, ∀ b ∈ l, a = b := by
  induction l with
  | nil => simp [changes]
  | cons a l ih =>
    cases l with
    | nil => simp [changes]
    | cons b l =>
      rw [changes_cons_cons, Nat.add_eq_zero_iff, ih]
      constructor
      · rintro ⟨hab, hall⟩
        obtain rfl : a = b := by
          by_contra hne
          simp [hne] at hab
        intro c hc d hd
        have hrest {c : α} (hc : c ∈ a :: a :: l) : c ∈ a :: l := by simpa using hc
        exact hall c (hrest hc) d (hrest hd)
      · intro hall
        have hab : a = b := hall a List.mem_cons_self b (by simp)
        refine ⟨if_pos hab, ?_⟩
        intro c hc d hd
        exact hall c (List.mem_cons_of_mem _ hc) d (List.mem_cons_of_mem _ hd)

theorem changes_pos_iff {l : List α} : 0 < changes l ↔ ∃ a ∈ l, ∃ b ∈ l, a ≠ b := by
  rw [Nat.pos_iff_ne_zero, ne_eq, changes_eq_zero_iff]
  push Not
  rfl

end Changes

theorem foldl_elim {α β : Type} (f : β → α → β) (l : List (Option α)) (b : β) :
    l.foldl (fun b o => o.elim b (f b)) b = l.reduceOption.foldl f b := by
  induction l generalizing b with
  | nil => rfl
  | cons o l ih =>
    cases o with
    | none => exact ih b
    | some a => exact ih (f b a)

namespace Registry

theorem conflictWarning_injective : Function.Injective conflictWarning := by
  intro name name' h
  exact (String.append_right_inj _).mp ((String.append_left_inj _).mp h)

theorem count_warnings_add (r : Registry) (e : Enumeration) (name : String) :
    (r.add e).warnings.count (conflictWarning name) = r.warnings.count (conflictWarning name) +
      if e.entry.1 = name ∧ (r.enumerations.get? name).any (· ≠ e.entry.2) then 1 else 0 := by
  have hwarnings : (r.add e).warnings = if (r.enumerations.get? e.entry.1).any (· ≠ e.entry.2)
      then r.warnings ++ [conflictWarning e.entry.1] else r.warnings := rfl
  rw [hwarnings]
  by_cases hname : e.entry.1 = name
  · subst hname
    simp only [true_and]
    by_cases hdiffers : (r.enumerations.get? e.entry.1).any (· ≠ e.entry.2)
    · rw [if_pos hdiffers, if_pos hdiffers, List.count_append, List.count_singleton_self]
    · rw [if_neg hdiffers, if_neg hdiffers, Nat.add_zero]
  · have hother : [conflictWarning e.entry.1].count (conflictWarning name) = 0 :=
      List.count_eq_zero.mpr fun h => hname (conflictWarning_injective (List.mem_singleton.mp h).symm)
    simp only [hname, false_and, if_false, Nat.add_zero]
    split
    · rw [List.count_append, hother, Nat.add_zero]
    · rfl

theorem count_warnings (es : List Enumeration) (name : String) :
    (es.foldl add {}).warnings.count (conflictWarning name) =
      changes (Keyed.valuesOf (es.map (·.entry)) name) := by
  induction es using List.reverseRecOn with
  | nil => rfl
  | append_singleton es e ih =>
    rw [List.foldl_append, List.foldl_cons, List.foldl_nil, count_warnings_add, ih, enumerations_foldl_add,
      Keyed.get?_ofPairs, List.map_append, List.map_singleton, Keyed.valuesOf_concat]
    by_cases hname : e.entry.1 = name
    · simp [hname, changes_concat]
    · simp [hname]

/-- One pass through what has been bound: a method that could not be bound refers to nothing, and a type without an
enumeration to none. -/
def collect (descriptors : List (Option (Binding × List (Option Enumeration)))) : Registry :=
  descriptors.foldl (fun r descriptor => descriptor.elim r fun d => d.2.foldl (fun r e => e.elim r r.add) r) {}

theorem collect_eq (descriptors : List (Option (Binding × List (Option Enumeration)))) :
    collect descriptors = (descriptors.reduceOption.flatMap (·.2.reduceOption)).foldl add {} := by
  simp only [collect, foldl_elim, List.foldl_flatMap]

/-- Each name once, in the order in which the names first come, with the values that it comes with last; and one line
for each time that its values are not those it had before. -/
structure Settles (r : Registry) (references : Keyed String EnumValues) : Prop where
  once : r.enumerations.keys.Nodup
  names : ∀ name, name ∈ r.enumerations.keys ↔ name ∈ references.keys
  inOrder : r.enumerations.keys.Pairwise fun a b => references.keys.idxOf a < references.keys.idxOf b
  last : ∀ name, r.enumerations.get? name = (references.valuesOf name).getLast?
  counted : ∀ name, r.warnings.count (conflictWarning name) = changes (references.valuesOf name)
  warned : ∀ name, conflictWarning name ∈ r.warnings ↔
    ∃ values ∈ references.valuesOf name, ∃ others ∈ references.valuesOf name, values ≠ others
  only : ∀ line ∈ r.warnings, ∃ name, line = conflictWarning name

theorem settles_ofBindings (bindings : List Binding) :
    (ofBindings bindings).Settles ((bindings.flatMap (·.enumerations)).map (·.entry)) := by
  have henumerations := enumerations_ofBindings bindings
  have hcount : ∀ name, (ofBindings bindings).warnings.count (conflictWarning name) =
      changes (Keyed.valuesOf ((bindings.flatMap (·.enumerations)).map (·.entry)) name) :=
    count_warnings _
  have hkeys := (Keyed.latest_ofPairs ((bindings.flatMap (·.enumerations)).map (·.entry))).inOrder
  rw [← henumerations] at hkeys
  generalize (bindings.flatMap (·.enumerations)).map (·.entry) = references at henumerations hcount hkeys ⊢
  constructor
  case once =>
    rw [hkeys]
    exact nodup_firstOccurrences [] _
  case names =>
    intro name
    rw [hkeys, mem_firstOccurrences]
    simp
  case inOrder =>
    rw [hkeys]
    exact pairwise_firstOccurrences [] _
  case last =>
    intro name
    rw [henumerations, Keyed.get?_ofPairs]
  case counted => exact hcount
  case warned =>
    intro name
    rw [← List.count_pos_iff, hcount, changes_pos_iff]
  case only =>
    intro line hline
    exact exists_of_mem_warnings hline

/-- A name is reported once for each change of its values on the way, even if it has its first values again at the
end. -/
theorem conflicts_counted (descriptors : List (Option (Binding × List (Option Enumeration)))) :
    let bindings := descriptors.reduceOption.map fun d => { d.1 with enumerations := d.2.reduceOption }
    let references := (descriptors.reduceOption.flatMap (·.2.reduceOption)).map (·.entry)
    ofBindings bindings = collect descriptors ∧ (ofBindings bindings).Settles references := by
  intro bindings references
  have hbindings : bindings.flatMap (·.enumerations) = descriptors.reduceOption.flatMap (·.2.reduceOption) :=
    List.flatMap_map ..
  have hsettles := settles_ofBindings bindings
  rw [hbindings] at hsettles
  exact ⟨by rw [collect_eq, ofBindings, hbindings], hsettles⟩

/-- Two changes for a name that ends with the values it began with, and none for the name between them. -/
example : let refer (values : EnumValues) : Enumeration := ⟨some "Mode", values⟩
    (ofBindings [⟨.method "set", 1, "", [refer [("on", 1)], ⟨some "Pin", []⟩], ""⟩,
      ⟨.method "get", 0, "", [refer [("on", 2)], ⟨some "Pin", []⟩, refer [("on", 1)]], ""⟩]).warnings =
      [conflictWarning "Mode", conflictWarning "Mode"] := by
  decide +kernel

end Registry

end ScriptBinding
