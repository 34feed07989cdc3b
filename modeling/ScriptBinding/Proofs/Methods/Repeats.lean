import Mathlib.Data.List.Forall2
import ScriptBinding.Methods.Dispatcher

/-!
Elements that a list repeats, each reported where it comes the second time.
-/

namespace ScriptBinding

variable {α : Type} [DecidableEq α] {before l : List α} {a : α}

theorem mem_secondOccurrences :
    a ∈ secondOccurrences before l ↔ before.count a ≤ 1 ∧ 2 ≤ before.count a + l.count a := by
  induction l generalizing before with
  | nil =>
    rw [secondOccurrences, List.count_nil]
    simp only [List.not_mem_nil, false_iff]
    omega
  | cons b l ih =>
    rw [secondOccurrences]
    by_cases ha : a = b
    · subst ha
      have hlater : a ∈ secondOccurrences (a :: before) l ↔
          before.count a + 1 ≤ 1 ∧ 2 ≤ before.count a + 1 + l.count a := by
        rw [ih, List.count_cons_self]
      rw [List.count_cons_self]
      split
      · simp only [List.mem_cons_self, true_iff]
        omega
      · rw [hlater]
        omega
    · have hlater : a ∈ secondOccurrences (b :: before) l ↔
          before.count a ≤ 1 ∧ 2 ≤ before.count a + l.count a := by
        rw [ih, List.count_cons_of_ne (Ne.symm ha)]
      rw [List.count_cons_of_ne (Ne.symm ha), ← hlater]
      split
      · rw [List.mem_cons, or_iff_right ha]
      · rfl

theorem nodup_secondOccurrences (before l : List α) : (secondOccurrences before l).Nodup := by
  induction l generalizing before with
  | nil => exact List.nodup_nil
  | cons a l ih =>
    rw [secondOccurrences]
    split
    · next ha =>
      apply List.nodup_cons.mpr
      refine ⟨?_, ih (a :: before)⟩
      rw [mem_secondOccurrences, List.count_cons_self, ha]
      omega
    · exact ih (a :: before)

/-- The element stands at this place, and once before it. -/
structure IsSecond (l : List α) (a : α) (i : Nat) : Prop where
  here : l[i]? = some a
  once : (l.take i).count a = 1

theorem exists_places_secondOccurrences (before l : List α) : ∃ places : List Nat, places.Pairwise (· < ·) ∧
    List.Forall₂ (fun a i => l[i]? = some a ∧ before.count a + (l.take i).count a = 1)
      (secondOccurrences before l) places := by
  induction l generalizing before with
  | nil => exact ⟨[], .nil, .nil⟩
  | cons b l ih =>
    obtain ⟨places, hsorted, hplaces⟩ := ih (b :: before)
    have hnext : (places.map (· + 1)).Pairwise (· < ·) :=
      List.pairwise_map.mpr (hsorted.imp fun hlt => Nat.add_lt_add_right hlt 1)
    have hmoved : List.Forall₂ (fun a i => (b :: l)[i]? = some a ∧ before.count a + ((b :: l).take i).count a = 1)
        (secondOccurrences (b :: before) l) (places.map (· + 1)) := by
      rw [List.forall₂_map_right_iff]
      apply hplaces.imp
      rintro a i ⟨hi, hcount⟩
      refine ⟨by rwa [List.getElem?_cons_succ], ?_⟩
      rw [List.count_cons] at hcount
      rw [List.take_succ_cons, List.count_cons]
      omega
    rw [secondOccurrences]
    split
    · next hb =>
      refine ⟨0 :: places.map (· + 1), ?_, .cons ⟨rfl, by rw [hb]; rfl⟩ hmoved⟩
      apply List.pairwise_cons.mpr
      refine ⟨?_, hnext⟩
      intro i hi
      obtain ⟨j, -, rfl⟩ := List.mem_map.mp hi
      exact Nat.zero_lt_succ j
    · exact ⟨places.map (· + 1), hnext, hmoved⟩

namespace Dispatcher

variable (d : Dispatcher)

theorem nodup_ambiguousArities : d.ambiguousArities.Nodup := nodup_secondOccurrences _ _

theorem mem_ambiguousArities {arity : Int} :
    arity ∈ d.ambiguousArities ↔ 2 ≤ d.overloads.countP (·.arity = arity) := by
  have hcount : (d.overloads.map (·.arity)).count arity = d.overloads.countP (·.arity = arity) := by
    rw [List.count, List.countP_map]
    apply List.countP_congr
    intro b _
    simp
  rw [ambiguousArities, mem_secondOccurrences, hcount, List.count_nil]
  omega

theorem exists_places_ambiguousArities : ∃ places : List Nat, places.Pairwise (· < ·) ∧
    List.Forall₂ (IsSecond (d.overloads.map (·.arity))) d.ambiguousArities places := by
  obtain ⟨places, hsorted, hplaces⟩ := exists_places_secondOccurrences [] (d.overloads.map (·.arity))
  refine ⟨places, hsorted, hplaces.imp ?_⟩
  rintro arity i ⟨hi, hcount⟩
  exact ⟨hi, by simpa using hcount⟩

end Dispatcher

end ScriptBinding
