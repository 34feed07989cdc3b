import ScriptBinding.Proofs.Dump.Renumbering
import ScriptBinding.Proofs.Exchange.Renaming
import ScriptBinding.Proofs.Module.Accounting

/-!
The same module comes from trees that differ only in places and offsets, once the class is found at
corresponding places.
-/

namespace ScriptBinding

open Code Dump

namespace Dump.Tree.Renamed

variable {place offset : Nat → Nat} {t u : Tree} (h : t.Renamed place offset u) {handlers : Keyed String Handler}
  {i : Nat} {script : ScriptClass}
include h

theorem className :
    (Target.mk ⟨u, handlers⟩ (place i) script).className = (Target.mk ⟨t, handlers⟩ i script).className :=
  congrArg (Option.getD · "None") (h.qualifiedName? i)

theorem isArtificial (p : Nat) : (Target.mk ⟨u, handlers⟩ (place i) script).isArtificial (place p) =
    (Target.mk ⟨t, handlers⟩ i script).isArtificial p := by
  apply h.any_node
  intro n n' hn
  exact hn.entry.artificial

theorem allParameters (method : Nat) : (Target.mk ⟨u, handlers⟩ (place i) script).allParameters (place method) =
    ((Target.mk ⟨t, handlers⟩ i script).allParameters method).map place :=
  h.childrenTagged "formal_parameter" method

theorem parameters (method : Nat) : (Target.mk ⟨u, handlers⟩ (place i) script).parameters (place method) =
    ((Target.mk ⟨t, handlers⟩ i script).parameters method).map place := by
  rw [Target.parameters, Target.parameters, h.allParameters]
  apply filter_map_of_comp
  intro p
  rw [h.isArtificial]

theorem isStatic (method : Nat) : (Target.mk ⟨u, handlers⟩ (place i) script).isStatic (place method) =
    (Target.mk ⟨t, handlers⟩ i script).isStatic method := by
  rw [Target.isStatic, Target.isStatic, h.allParameters, List.any_map]
  exact congrArg _ (congrArg _ (funext h.isArtificial))

theorem describeReference (p : Nat) : (TypeTable.mk u handlers).describe (u.typeReference? (place p)) =
    (TypeTable.mk t handlers).describe (t.typeReference? p) := by
  rw [h.typeReference?, h.describe]

theorem describeParameters (method : Nat) :
    (Target.mk ⟨u, handlers⟩ (place i) script).describeParameters (place method) =
      (Target.mk ⟨t, handlers⟩ i script).describeParameters method := by
  rw [Target.describeParameters, Target.describeParameters, h.parameters, List.mapM_map]
  exact congrArg (fun f => List.mapM f _) (funext h.describeReference)

theorem describeResult (method : Nat) : (Target.mk ⟨u, handlers⟩ (place i) script).describeResult (place method) =
    (Target.mk ⟨t, handlers⟩ i script).describeResult method :=
  h.describeReference method

theorem signature (method : Nat) : (Target.mk ⟨u, handlers⟩ (place i) script).signature (place method) =
    (Target.mk ⟨t, handlers⟩ i script).signature method := by
  have hname : u.name? (place method) = t.name? method := h.name? method
  rw [Target.signature, Target.signature, h.describeParameters]
  exact congrArg (fun name => Except.bind _ (signatureOf name)) hname

theorem callableName? (method : Nat) : (Target.mk ⟨u, handlers⟩ (place i) script).callableName? (place method) =
    (Target.mk ⟨t, handlers⟩ i script).callableName? method := by
  have hfixed : (u.childrenTagged "unspecified_parameters" (place method)).isEmpty =
      (t.childrenTagged "unspecified_parameters" method).isEmpty := by
    rw [h.childrenTagged, List.isEmpty_map]
  have hname : u.name? (place method) = t.name? method := h.name? method
  rw [Target.callableName?, Target.callableName?]
  change (if (u.childrenTagged _ _).isEmpty then (u.name? _).filter isIdentifier else none) = _
  rw [hfixed, hname]
  rfl

theorem accept (method : Nat) : (Target.mk ⟨u, handlers⟩ (place i) script).accept (place method) =
    (Target.mk ⟨t, handlers⟩ i script).accept method := by
  have hclass : (Target.mk ⟨u, handlers⟩ (place i) script).tree.name? (place i) =
      (Target.mk ⟨t, handlers⟩ i script).tree.name? i := h.name? i
  have hreceiver (className name : String) :
      (Target.mk ⟨u, handlers⟩ (place i) script).receiverOf className name (place method) =
        (Target.mk ⟨t, handlers⟩ i script).receiverOf className name method := by
    rw [Target.receiverOf, Target.receiverOf, h.isStatic]
  unfold Target.accept
  simp only [h.callableName?, hclass, hreceiver, h.describeParameters, h.describeResult]

/-- The code of a method is made from its types, not from its place. -/
theorem bind (m : Method) (isOverloaded : Bool) :
    (Target.mk ⟨u, handlers⟩ (place i) script).bind m isOverloaded =
      (Target.mk ⟨t, handlers⟩ i script).bind m isOverloaded := by
  unfold Target.bind Target.bodyOf Target.receiverCode Target.callAndResult Target.call Target.callee
  rw [h.className]
  rfl

theorem hasNamesake (name : String) (method : Nat) (siblings : List Nat) :
    (Target.mk ⟨u, handlers⟩ (place i) script).hasNamesake name (place method) (siblings.map place) =
      (Target.mk ⟨t, handlers⟩ i script).hasNamesake name method siblings := by
  rw [Target.hasNamesake, Target.hasNamesake, List.any_map]
  apply congrArg
  funext s
  have hname : (Target.mk ⟨u, handlers⟩ (place i) script).tree.name? (place s) =
      (Target.mk ⟨t, handlers⟩ i script).tree.name? s := h.name? s
  simp only [Function.comp_apply, hname, h.injective.ne_iff]

theorem binding? (method : Nat) (siblings : List Nat) :
    (Target.mk ⟨u, handlers⟩ (place i) script).binding? (place method) (siblings.map place) =
      (Target.mk ⟨t, handlers⟩ i script).binding? method siblings := by
  unfold Target.binding?
  simp only [h.accept, h.hasNamesake, h.bind]

theorem bindings (siblings methods : List Nat) :
    (Target.mk ⟨u, handlers⟩ (place i) script).bindings (siblings.map place) (methods.map place) =
      (Target.mk ⟨t, handlers⟩ i script).bindings siblings methods := by
  induction methods with
  | nil => rfl
  | cons method methods ih => rw [List.map_cons, Target.bindings, Target.bindings, h.binding?, h.signature, ih]

theorem destructorCode :
    (Target.mk ⟨u, handlers⟩ (place i) script).destructorCode = (Target.mk ⟨t, handlers⟩ i script).destructorCode := by
  rw [Target.destructorCode, Target.destructorCode, h.className]

theorem nativeWrapperCode (methods : List Dispatcher) :
    (Target.mk ⟨u, handlers⟩ (place i) script).nativeWrapperCode methods =
      (Target.mk ⟨t, handlers⟩ i script).nativeWrapperCode methods := by
  rw [Target.nativeWrapperCode, Target.nativeWrapperCode, h.className]

theorem planFor (headerLine : String) (bindings : List Binding) :
    (Target.mk ⟨u, handlers⟩ (place i) script).planFor headerLine bindings =
      (Target.mk ⟨t, handlers⟩ i script).planFor headerLine bindings := by
  rw [Target.planFor, Target.planFor, h.className, h.destructorCode, h.nativeWrapperCode]
  rfl

theorem classBindings :
    (Target.mk ⟨u, handlers⟩ (place i) script).bindings (u.publicMethods (place i)) (u.publicMethods (place i)) =
      (Target.mk ⟨t, handlers⟩ i script).bindings (t.publicMethods i) (t.publicMethods i) := by
  rw [h.publicMethods, h.bindings]

theorem planned (headerLine : String) (bindings : List Binding) :
    (Target.mk ⟨u, handlers⟩ (place i) script).planned headerLine bindings =
      (Target.mk ⟨t, handlers⟩ i script).planned headerLine bindings := by
  have hnaming : (Target.mk ⟨u, handlers⟩ (place i) script).naming = (Target.mk ⟨t, handlers⟩ i script).naming := rfl
  rw [Target.planned, Target.planned, h.planFor, hnaming]

theorem plan (headerLine : String) : (Target.mk ⟨u, handlers⟩ (place i) script).plan headerLine =
    (Target.mk ⟨t, handlers⟩ i script).plan headerLine := by
  have hbindings : (Target.mk ⟨u, handlers⟩ (place i) script).bindings
        ((Target.mk ⟨u, handlers⟩ (place i) script).tree.publicMethods (place i))
        ((Target.mk ⟨u, handlers⟩ (place i) script).tree.publicMethods (place i)) =
      (Target.mk ⟨t, handlers⟩ i script).bindings
        ((Target.mk ⟨t, handlers⟩ i script).tree.publicMethods i)
        ((Target.mk ⟨t, handlers⟩ i script).tree.publicMethods i) := h.classBindings
  rw [Target.plan_eq, Target.plan_eq, hbindings]
  exact congrArg _ (funext (h.planned headerLine))

theorem package {s : Settings}
    (hclass : u.findClass s.className = (t.findClass s.className).map place) :
    s.package handlers u = s.package handlers t := by
  cases hfound : t.findClass s.className with
  | error fault =>
    rw [hfound] at hclass
    rw [Settings.package_of_notFound hclass, Settings.package_of_notFound hfound]
  | ok i =>
    rw [hfound] at hclass
    rw [Settings.package_of_findClass hclass, Settings.package_of_findClass hfound, h.plan]

end Dump.Tree.Renamed

/-- No offset reaches a module or the lines said of it. -/
theorem Settings.package_renumber (s : Settings) (handlers : Keyed String Handler) (tree : Tree) (f : Nat → Nat)
    (hf : f.Injective) : s.package handlers (tree.renumber f) = s.package handlers tree := by
  apply (tree.renamed_renumber hf).package
  rw [tree.findClass_renumber hf]
  cases tree.findClass s.className <;> rfl

/-- Two entries of one offset, a reference to the later one, and one that leads nowhere. -/
def dimmerTree : Tree := .ofEntries [
  ⟨"base_type", 0x5, 0, [("name", "int")]⟩,
  ⟨"class_type", 0xb, 0, [("name", "Dimmer")]⟩,
  ⟨"subprogram", 0x10, 1, [("name", "dim"), ("accessibility", "1 (public)")]⟩,
  ⟨"formal_parameter", 0x13, 2, [("type", "<0X5> <0x05>, <0x40>")]⟩,
  ⟨"subprogram", 0x20, 1, [("name", "glow"), ("accessibility", "1 (public)"), ("type", "<0x40>")]⟩,
  ⟨"base_type", 0x5, 0, [("name", "float")]⟩]

def shiftedDimmerTree : Tree := .ofEntries [
  ⟨"base_type", 0x1005, 0, [("name", "int")]⟩,
  ⟨"class_type", 0x100b, 0, [("name", "Dimmer")]⟩,
  ⟨"subprogram", 0x1010, 1, [("name", "dim"), ("accessibility", "1 (public)")]⟩,
  ⟨"formal_parameter", 0x1013, 2, [("type", "<0X5> <0x1005>, <0x1040>")]⟩,
  ⟨"subprogram", 0x1020, 1, [("name", "glow"), ("accessibility", "1 (public)"), ("type", "<0x1040>")]⟩,
  ⟨"base_type", 0x1005, 0, [("name", "float")]⟩]

def dimmerSettings : Settings := ⟨"dimmer.txt", "Dimmer", "Dimmer", "dimmer", "#include \"dimmer.h\"", true, "output"⟩

theorem Settings.package_renumber_dimmer :
    (fun offset : Nat => offset + 0x1000).Injective ∧
      dimmerTree.renumber (fun offset => offset + 0x1000) = shiftedDimmerTree ∧
      (dimmerSettings.package [] dimmerTree).lines =
        ["  >> warning: skipping glow()",
          "  >> warning: Dimmer has no public constructor that can be wrapped"] ∧
      dimmerSettings.package [] shiftedDimmerTree = dimmerSettings.package [] dimmerTree := by
  have hinjective : (fun offset : Nat => offset + 0x1000).Injective := fun a b hab => Nat.add_right_cancel hab
  have hshifted : dimmerTree.renumber (fun offset => offset + 0x1000) = shiftedDimmerTree := by decide +kernel
  refine ⟨hinjective, hshifted, by decide +kernel, ?_⟩
  rw [← hshifted]
  exact Settings.package_renumber dimmerSettings [] dimmerTree _ hinjective

end ScriptBinding
