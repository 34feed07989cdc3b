import ScriptBinding.Methods.Registry
import ScriptBinding.Proofs.Dump.Names
import ScriptBinding.Proofs.Exchange.Chains
import ScriptBinding.Proofs.Methods.Acceptance

/-!
The names and labels of enumerations. They are names in a dump, so the code that registers an enumeration is made
of single lines.
-/

namespace ScriptBinding

open Code Dump

/-- No name of an enumeration holds a newline, nor one of its labels. -/
structure Enumeration.Flat (e : Enumeration) : Prop where
  name : OneLine (e.name.getD "None")
  labels : ∀ v ∈ e.values, OneLine v.1

namespace TypeTable

variable {t : TypeTable} (ht : t.tree.Flat)
include ht

theorem oneLine_name (i : Nat) {other : String} (hother : OneLine other) :
    OneLine ((t.tree.name? i).getD other) := by
  cases h : t.tree.name? i with
  | none => exact hother
  | some name => exact ht.name? h

theorem flat_enumeration_of_enumeration {i : Nat} {type : NativeType} (h : t.enumeration i = .ok type) :
    ∀ e ∈ type.enumeration, e.Flat := by
  obtain ⟨values, hvalues, h⟩ := Except.bind_eq_ok_iff.mp h
  obtain rfl := Except.ok.inj h
  intro e he
  obtain rfl := Option.some.inj he
  refine ⟨oneLine_name ht i (by decide), ?_⟩
  intro v hv
  obtain ⟨j, -, hj⟩ := exists_of_mem_mapM hvalues (by simpa using hv)
  rw [enumerator] at hj
  split at hj
  · next hlabel =>
    obtain ⟨z, -, hz⟩ := Except.map_eq_ok_iff.mp hj
    obtain ⟨value, -, rfl⟩ := Option.map_eq_some_iff.mp hz
    exact ht.name? hlabel
  · cases hj

theorem flat_enumeration_of_ends {reference : Option Nat} {type : NativeType} (h : t.Ends reference type) :
    ∀ e ∈ type.enumeration, e.Flat := by
  intro e he
  obtain ⟨offset, i, rfl, -, -, henumeration⟩ := h.exists_enumeration he
  exact flat_enumeration_of_enumeration ht henumeration e he

theorem flat_enumeration_of_continues {reference next : Option Nat} {layer : Layer} {inner : NativeType}
    (h : t.Continues reference layer next) (hinner : ∀ e ∈ inner.enumeration, e.Flat) :
    ∀ e ∈ (layer.apply inner).enumeration, e.Flat := by
  cases h with
  | @typedef _ i _ _ _ =>
    rw [Layer.apply]
    split
    · intro e he
      obtain ⟨e', he', rfl⟩ := Option.map_eq_some_iff.mp he
      rw [Enumeration.named]
      split
      · exact hinner e' he'
      · exact ⟨oneLine_name ht i (by decide), (hinner e' he').labels⟩
    · exact hinner
  | qualifier _ _ _ => exact hinner
  | constReference _ _ _ _ _ =>
    rw [Layer.apply]
    split
    · exact hinner
    · simp [NativeType.unsupported]

theorem flat_enumeration_of_describe {reference : Option Nat} {type : NativeType}
    (h : t.describe reference = .ok type) : ∀ e ∈ type.enumeration, e.Flat :=
  describe_induction (P := fun _ type => ∀ e ∈ type.enumeration, e.Flat) (flat_enumeration_of_ends ht)
    (flat_enumeration_of_continues ht) h

end TypeTable

theorem Target.flat_enumerations {c : Target} (ht : c.tree.Flat) {method : Nat} {siblings : List Nat} {b : Binding}
    (h : c.binding? method siblings = .ok (some b)) : ∀ e ∈ b.enumerations, e.Flat := by
  obtain ⟨m, haccepts, hbind⟩ := exists_bind_of_binding? h
  rw [enumerations_of_bind hbind]
  intro e he
  obtain ⟨type, htype, hte⟩ := List.mem_filterMap.mp (List.mem_filter.mp he).1
  rcases List.mem_append.mp htype with htype | htype
  · obtain ⟨p, -, hp⟩ := exists_of_mem_mapM haccepts.parameters htype
    exact TypeTable.flat_enumeration_of_describe ht hp e hte
  · rw [List.mem_singleton.mp htype] at hte
    exact TypeTable.flat_enumeration_of_describe ht haccepts.result e hte

theorem Registry.flat_ofBindings {bindings : List Binding}
    (h : ∀ b ∈ bindings, ∀ e ∈ b.enumerations, e.Flat) :
    ∀ p ∈ (ofBindings bindings).enumerations, OneLine p.1 ∧ ∀ v ∈ p.2, OneLine v.1 := by
  have hfold (es : List Enumeration) (hes : ∀ e ∈ es, e.Flat) (r : Registry)
      (hr : ∀ p ∈ r.enumerations, OneLine p.1 ∧ ∀ v ∈ p.2, OneLine v.1) :
      ∀ p ∈ (es.foldl add r).enumerations, OneLine p.1 ∧ ∀ v ∈ p.2, OneLine v.1 := by
    induction es generalizing r with
    | nil => exact hr
    | cons e es ih =>
      apply ih fun e' he' => hes e' (List.mem_cons_of_mem e he')
      intro p hp
      rcases Keyed.mem_of_mem_put hp with rfl | hp
      · exact ⟨(hes e List.mem_cons_self).name, (hes e List.mem_cons_self).labels⟩
      · exact hr p hp
  apply hfold _ _ {} (by simp)
  intro e he
  obtain ⟨b, hb, he⟩ := List.mem_flatMap.mp he
  exact h b hb e he

end ScriptBinding
