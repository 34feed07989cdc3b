import Mathlib.Data.List.Forall2

/-!
Going through a list with a function that may fail: the results of a success, and where a failure comes
from.
-/

namespace ScriptBinding

variable {ε α β : Type} {f : α → Except ε β} {l : List α}

theorem Except.bind_eq_ok_iff {x : Except ε α} {g : α → Except ε β} {b : β} :
    x.bind g = .ok b ↔ ∃ a, x = .ok a ∧ g a = .ok b := by
  cases x <;> simp [Except.bind]

theorem Except.map_eq_ok_iff {x : Except ε α} {g : α → β} {b : β} :
    x.map g = .ok b ↔ ∃ a, x = .ok a ∧ g a = b := by
  cases x <;> simp [Except.map]

theorem Except.bind_eq_error_iff {x : Except ε α} {g : α → Except ε β} {e : ε} :
    x.bind g = .error e ↔ x = .error e ∨ ∃ a, x = .ok a ∧ g a = .error e := by
  cases x <;> simp [Except.bind]

theorem Except.map_eq_error_iff {x : Except ε α} {g : α → β} {e : ε} : x.map g = .error e ↔ x = .error e := by
  cases x <;> simp [Except.map]

theorem mapM_eq_ok_iff {bs : List β} :
    l.mapM f = .ok bs ↔ List.Forall₂ (fun a b => f a = .ok b) l bs := by
  induction l generalizing bs with
  | nil => cases bs <;> simp [pure, Except.pure]
  | cons a l ih =>
    simp only [List.mapM_cons, bind, pure, Except.pure, Except.bind_eq_ok_iff, Except.ok.injEq, ih]
    constructor
    · rintro ⟨b, hb, cs, hcs, rfl⟩
      exact .cons hb hcs
    · rintro (_ | ⟨hb, hbs⟩)
      exact ⟨_, hb, _, hbs, rfl⟩

theorem exists_ok_of_mem {bs : List β} (h : l.mapM f = .ok bs) {a : α} (ha : a ∈ l) :
    ∃ b ∈ bs, f a = .ok b := by
  have h₂ := mapM_eq_ok_iff.mp h
  clear h
  induction h₂ with
  | nil => simp at ha
  | cons hb _ ih =>
    rcases List.mem_cons.mp ha with rfl | ha
    · exact ⟨_, by simp, hb⟩
    · obtain ⟨b, hbs, hab⟩ := ih ha
      exact ⟨b, by simp [hbs], hab⟩

theorem exists_of_mem_forall₂ {R : α → β → Prop} {bs : List β} (h : List.Forall₂ R l bs) {b : β} (hb : b ∈ bs) :
    ∃ a ∈ l, R a b := by
  induction h with
  | nil => simp at hb
  | cons ha _ ih =>
    rcases List.mem_cons.mp hb with rfl | hb
    · exact ⟨_, by simp, ha⟩
    · obtain ⟨a, hal, hab⟩ := ih hb
      exact ⟨a, by simp [hal], hab⟩

theorem exists_of_mem_mapM {bs : List β} (h : l.mapM f = .ok bs) {b : β} (hb : b ∈ bs) :
    ∃ a ∈ l, f a = .ok b :=
  exists_of_mem_forall₂ (mapM_eq_ok_iff.mp h) hb

theorem exists_of_mapM_error {e : ε} (h : l.mapM f = .error e) : ∃ a ∈ l, f a = .error e := by
  induction l with
  | nil => simp [pure, Except.pure] at h
  | cons a l ih =>
    cases ha : f a with
    | error e' =>
      simp only [List.mapM_cons, ha, bind, Except.bind, Except.error.injEq] at h
      exact ⟨a, by simp, h ▸ ha⟩
    | ok b =>
      cases hl : l.mapM f with
      | error e' =>
        simp only [List.mapM_cons, ha, hl, bind, Except.bind, Except.error.injEq] at h
        obtain ⟨c, hc, hce⟩ := ih (h ▸ hl)
        exact ⟨c, by simp [hc], hce⟩
      | ok bs => simp [List.mapM_cons, ha, hl, bind, Except.bind, pure, Except.pure] at h

theorem exists_mapM_ok (h : ∀ a ∈ l, ∃ b, f a = .ok b) : ∃ bs, l.mapM f = .ok bs := by
  cases hl : l.mapM f with
  | ok bs => exact ⟨bs, rfl⟩
  | error fault =>
    obtain ⟨a, ha, hfault⟩ := exists_of_mapM_error hl
    obtain ⟨b, hb⟩ := h a ha
    rw [hb] at hfault
    cases hfault

end ScriptBinding
