import ScriptBinding.Proofs.Module.Faults

/-!
The faults that a run can end with, and those that it cannot. Some faults guard against misuse of a part from inside:
a value of a type that nothing converts, or a module put together without one of its fragments. What a description
can say of a type is either converted by a handler or by the built-in code, or it keeps a method from being bound,
and every plan of a class has its fragments.
-/

namespace ScriptBinding

open Dump

/-- The faults of a conversion that does not exist and of a plan that lacks a fragment. -/
inductive Fault.IsInternal : Fault → Prop where
  | fromScript (spelling : String) : IsInternal (.noConversionFromScript spelling)
  | toScript (spelling : String) : IsInternal (.noConversionToScript spelling)
  | destructor (className : String) : IsInternal (.noDestructor className)
  | nativeWrapper (className : String) : IsInternal (.noNativeWrapper className)

namespace TypeTable

variable {t : TypeTable} {reference : Option Nat} {type : NativeType}

/-- No argument can be read as `void` or as an unsupported type, unless a handler has taken that name. -/
theorem readArgument_fails_iff (h : t.describe reference = .ok type) (position : Int) (name : String) :
    (∃ fault, t.readArgument type position name = .error fault) ↔
      t.handlerOf? type = none ∧ type.isPassable = false := by
  cases hpassable : type.isPassable with
  | true =>
    obtain ⟨code, hcode⟩ := exists_readArgument h hpassable position name
    simp [hcode]
  | false =>
    rw [readArgument]
    cases t.handlerOf? type with
    | some handler => simp
    | none =>
      cases hcategory : type.category <;>
        simp [NativeType.isPassable, NativeType.isSupported, hcategory] at hpassable ⊢

theorem toScript_fails_iff (h : t.describe reference = .ok type) (name : String) :
    (∃ fault, t.toScript type name = .error fault) ↔ t.handlerOf? type = none ∧ type.isSupported = false := by
  cases hsupported : type.isSupported with
  | true =>
    obtain ⟨value, hvalue⟩ := exists_toScript h hsupported name
    simp [hvalue]
  | false =>
    rw [toScript]
    cases t.handlerOf? type with
    | some handler => simp
    | none => cases hcategory : type.category <;> simp [NativeType.isSupported, hcategory] at hsupported ⊢

end TypeTable

/-- Why a run ends without a module. -/
inductive Settings.Stop (s : Settings) (handlers : Keyed String Handler) (tree : Tree) : Fault → Prop where
  | notFound : tree.namedClasses s.className = [] → Stop s handlers tree (.classNotFound s.className)
  | method {place m : Nat} {fault : Fault} : tree.findClass s.className = .ok place →
      Target.Cause ⟨⟨tree, handlers⟩, place, ⟨s.scriptName⟩⟩ m fault → Stop s handlers tree fault
  | tooLong {place : Nat} : tree.findClass s.className = .ok place → Stop s handlers tree .longInteger

theorem Target.Run.fault_cases {c : Target} {headerLine library : String} {r : Report Package} {fault : Fault}
    (hrun : c.Run headerLine library r) (h : r.result = .error fault) :
    (∃ m, c.Cause m fault) ∨ fault = .longInteger := by
  cases hfirst : c.methods.findSome? c.fault? with
  | some first =>
    obtain ⟨m, hm, hfault⟩ := List.exists_of_findSome?_eq_some hfirst
    rw [hrun.stopped first hfirst] at h
    obtain rfl := Except.error.inj h
    exact .inl ⟨m, hrun.cause m hm first hfault⟩
  | none =>
    by_cases hfit : ∀ e ∈ (c.planFor headerLine (c.methods.filterMap (c.boundAs? c.methods))).enumerations,
        e.2.Printable
    · obtain ⟨package, hpackage⟩ := hrun.printed hfirst hfit
      rw [h] at hpackage
      cases hpackage
    · rw [hrun.tooLong hfirst hfit] at h
      exact .inr (Except.error.inj h).symm

theorem Settings.stop_of_package {s : Settings} {handlers : Keyed String Handler} {tree : Tree} {fault : Fault}
    (h : (s.package handlers tree).result = .error fault) : s.Stop handlers tree fault := by
  by_cases hnone : tree.namedClasses s.className = []
  · rw [Settings.package_of_notFound (Tree.findClass_of_empty hnone)] at h
    obtain rfl := Except.error.inj h
    exact .notFound hnone
  · obtain ⟨place, hplace, -⟩ := Tree.exists_findClass hnone
    have hclass : tree.name? place ≠ none := by simp [Tree.name_of_findClass hplace]
    rw [Settings.package_of_findClass hplace] at h
    have hrun := Target.run_plan (c := ⟨⟨tree, handlers⟩, place, ⟨s.scriptName⟩⟩) hclass s.headerLine s.library
    rcases hrun.fault_cases h with ⟨m, hcause⟩ | rfl
    · exact .method hplace hcause
    · exact .tooLong hplace

theorem not_isInternal_of_cause {c : Target} {method : Nat} {fault : Fault} (h : c.Cause method fault) :
    ¬ fault.IsInternal := by
  intro hinternal
  cases h with
  | described _ _ hobstacle =>
    cases hobstacle with
    | constant _ _ _ _ hconstant => cases hconstant <;> cases hinternal
    | cycle => cases hinternal
    | pointee => cases hinternal
  | nameless => cases hinternal

/-- Whatever the tree and the handlers are, no run ends with a fault that guards a part from inside. -/
theorem Settings.package_not_internal (s : Settings) (handlers : Keyed String Handler) (tree : Tree) :
    ¬ ∃ fault, fault.IsInternal ∧ (s.package handlers tree).result = .error fault := by
  rintro ⟨fault, hinternal, h⟩
  cases Settings.stop_of_package h with
  | notFound => cases hinternal
  | method _ hcause => exact not_isInternal_of_cause hcause hinternal
  | tooLong => cases hinternal

end ScriptBinding
