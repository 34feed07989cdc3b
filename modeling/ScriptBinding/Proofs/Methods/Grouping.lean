import Mathlib.Data.List.Nodup
import ScriptBinding.Methods.Dispatcher

/-!
Bindings in groups, one for each member. The groups come in the order of their first bindings and each
keeps the order of its own; together they hold every binding once.
-/

namespace ScriptBinding

section

variable {α β : Type} [DecidableEq β] {before l : List β} {f : α → β}

theorem mem_firstOccurrences {b : β} : b ∈ firstOccurrences before l ↔ b ∈ l ∧ b ∉ before := by
  induction l generalizing before with
  | nil => simp [firstOccurrences]
  | cons a l ih =>
    rw [firstOccurrences]
    by_cases ha : a ∈ before
    · rw [if_pos (by simpa using ha), ih, List.mem_cons]
      constructor
      · rintro ⟨hl, hb⟩
        exact ⟨.inr hl, hb⟩
      · rintro ⟨rfl | hl, hb⟩
        · exact absurd ha hb
        · exact ⟨hl, hb⟩
    · rw [if_neg (by simpa using ha), List.mem_cons, ih, List.mem_cons, List.mem_cons]
      by_cases hb : b = a
      · subst b
        simp [ha]
      · simp [hb]

theorem nodup_firstOccurrences (before l : List β) : (firstOccurrences before l).Nodup := by
  induction l generalizing before with
  | nil => exact List.nodup_nil
  | cons a l ih =>
    rw [firstOccurrences]
    split
    · exact ih before
    · apply List.nodup_cons.mpr
      refine ⟨?_, ih (a :: before)⟩
      rw [mem_firstOccurrences]
      simp

theorem sublist_firstOccurrences (before : List β) (xs : List α) :
    ((firstOccurrences before (xs.map f)).filterMap fun b => xs.find? (f · = b)).Sublist xs := by
  induction xs generalizing before with
  | nil => exact List.Sublist.refl _
  | cons x xs ih =>
    -- A group whose first element is behind `x` does not hold `x`.
    have hrest (before : List β) (hx : f x ∈ before) :
        (firstOccurrences before (xs.map f)).filterMap (fun b => (x :: xs).find? (f · = b)) =
          (firstOccurrences before (xs.map f)).filterMap fun b => xs.find? (f · = b) := by
      apply List.filterMap_congr
      intro b hb
      have hne : f x ≠ b := by
        rintro rfl
        exact (mem_firstOccurrences.mp hb).2 hx
      rw [List.find?_cons_of_neg (by simpa using hne)]
    rw [List.map_cons, firstOccurrences]
    by_cases hx : f x ∈ before
    · rw [if_pos (by simpa using hx), hrest before hx]
      exact (ih before).cons x
    · have hfirst : (x :: xs).find? (f · = f x) = some x := List.find?_cons_of_pos (by simp)
      rw [if_neg (by simpa using hx), List.filterMap_cons, hfirst, hrest _ (by simp)]
      exact (ih _).cons_cons x

theorem perm_flatMap_filter {keys : List β} (hkeys : keys.Nodup) (xs : List α) :
    (keys.flatMap fun b => xs.filter (f · = b)).Perm (xs.filter (f · ∈ keys)) := by
  induction keys with
  | nil => simp
  | cons b keys ih =>
    obtain ⟨hb, hkeys⟩ := List.nodup_cons.mp hkeys
    have hhere : (xs.filter (f · ∈ b :: keys)).filter (f · = b) = xs.filter (f · = b) := by
      rw [List.filter_filter]
      apply List.filter_congr
      intro x _
      by_cases hx : f x = b <;> simp [hx]
    have hthere : (xs.filter (f · ∈ b :: keys)).filter (fun x => !decide (f x = b)) =
        xs.filter (f · ∈ keys) := by
      rw [List.filter_filter]
      apply List.filter_congr
      intro x _
      by_cases hx : f x = b
      · simp [hx, hb]
      · simp [hx]
    rw [List.flatMap_cons]
    apply ((ih hkeys).append_left _).trans
    rw [← hhere, ← hthere]
    exact List.filter_append_perm _ _

end

namespace Naming

variable (n : Naming) (bindings : List Binding)

theorem map_fst_nameMembers (others : List String) (members : List Member) :
    (n.nameMembers others members).map (·.1) = members := by
  induction members generalizing others with
  | nil => rfl
  | cons member members ih => rw [nameMembers, List.map_cons, ih]

theorem map_member_dispatchers :
    (n.dispatchers bindings).map (·.member) = firstOccurrences [] (bindings.map (·.member)) := by
  have h := n.map_fst_nameMembers [] (firstOccurrences [] (bindings.map (·.member)))
  rw [dispatchers, List.map_map]
  exact h

variable {n bindings}

theorem overloads_of_mem_dispatchers {d : Dispatcher} (h : d ∈ n.dispatchers bindings) :
    d.overloads = bindings.filter (·.member = d.member) := by
  obtain ⟨p, -, rfl⟩ := List.mem_map.mp h
  rfl

theorem member_ne_of_mem_methods {d : Dispatcher} (h : d ∈ (n.dispatch bindings).methods) :
    d.member ≠ .constructor := by
  simpa using (List.mem_filter.mp h).2

theorem overloads_of_mem_methods {d : Dispatcher} (h : d ∈ (n.dispatch bindings).methods) :
    d.overloads = bindings.filter (·.member = d.member) :=
  overloads_of_mem_dispatchers (List.mem_filter.mp h).1

variable (n bindings)

theorem map_member_methods : (n.dispatch bindings).methods.map (·.member) =
    (firstOccurrences [] (bindings.map (·.member))).filter (· ≠ .constructor) := by
  rw [← n.map_member_dispatchers, List.filter_map]
  rfl

/-- The constructor is dispatched even if no binding is for it. -/
theorem constructor_cases : (n.dispatch bindings).constructor ∈ n.dispatchers bindings ∧
      (n.dispatch bindings).constructor.member = .constructor ∨
    (n.dispatch bindings).constructor = ⟨.constructor, n.scriptClass.constructor, []⟩ ∧
      ∀ b ∈ bindings, b.member ≠ .constructor := by
  have hconstructor : (n.dispatch bindings).constructor =
      ((n.dispatchers bindings).find? (·.member = .constructor)).getD
        ⟨.constructor, n.scriptClass.constructor, []⟩ := rfl
  rw [hconstructor]
  cases hfind : (n.dispatchers bindings).find? (·.member = .constructor) with
  | some d =>
    left
    exact ⟨List.mem_of_find?_eq_some hfind, by simpa using List.find?_some hfind⟩
  | none =>
    right
    refine ⟨rfl, ?_⟩
    intro b hb hmember
    have hfirst : Member.constructor ∈ (n.dispatchers bindings).map (·.member) := by
      rw [map_member_dispatchers, mem_firstOccurrences]
      exact ⟨List.mem_map.mpr ⟨b, hb, hmember⟩, by simp⟩
    obtain ⟨d, hd, hd'⟩ := List.mem_map.mp hfirst
    have hnone := List.find?_eq_none.mp hfind d hd
    simp [hd'] at hnone

theorem member_constructor : (n.dispatch bindings).constructor.member = .constructor := by
  rcases n.constructor_cases bindings with ⟨-, h⟩ | ⟨h, -⟩
  · exact h
  · rw [h]

theorem overloads_constructor :
    (n.dispatch bindings).constructor.overloads = bindings.filter (·.member = .constructor) := by
  rcases n.constructor_cases bindings with ⟨h, hmember⟩ | ⟨h, hnone⟩
  · rw [overloads_of_mem_dispatchers h, hmember]
  · rw [h]
    symm
    apply List.filter_eq_nil_iff.mpr
    intro b hb
    simpa using hnone b hb

theorem nodup_members : (((n.dispatch bindings).methods ++ [(n.dispatch bindings).constructor]).map
    (·.member)).Nodup := by
  rw [List.map_append, List.map_cons, List.map_nil, member_constructor, map_member_methods]
  apply List.nodup_append.mpr
  refine ⟨(nodup_firstOccurrences _ _).filter _, by simp, ?_⟩
  intro member hmember other hother
  rw [List.mem_singleton.mp hother]
  simpa using (List.mem_filter.mp hmember).2

theorem mem_members {b : Binding} (hb : b ∈ bindings) :
    b.member ∈ ((n.dispatch bindings).methods ++ [(n.dispatch bindings).constructor]).map (·.member) := by
  rw [List.map_append, List.map_cons, List.map_nil, member_constructor, map_member_methods, List.mem_append,
    List.mem_filter, mem_firstOccurrences, List.mem_singleton]
  by_cases hc : b.member = .constructor
  · exact .inr hc
  · left
    exact ⟨⟨List.mem_map_of_mem hb, by simp⟩, by simpa using hc⟩

end Naming

end ScriptBinding
