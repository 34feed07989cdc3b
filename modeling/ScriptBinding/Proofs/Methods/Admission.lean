import ScriptBinding.Proofs.Code.Identifiers
import ScriptBinding.Proofs.Exchange.Grammar
import ScriptBinding.Proofs.Exchange.Trails
import ScriptBinding.Proofs.Module.Faults
import ScriptBinding.Proofs.Text.Ends

/-!
Which methods scripts can call. Where types have names and no type leads back to itself, acceptance never ends the run,
and the accepted methods are those that the grammar of types admits.
-/

namespace ScriptBinding

open Code Dump Text

theorem Dump.Tree.isIdentifier_iff_isName {t : Tree} {i : Nat} {name : String} (h : t.name? i = some name) :
    isIdentifier name = true ↔ IsName name := by
  obtain ⟨n, -, hname⟩ := Option.bind_eq_some_iff.mp h
  obtain ⟨value, -, rfl⟩ := Option.map_eq_some_iff.mp hname
  refine ⟨fun hidentifier => isName_of_isIdentifier hidentifier ?_, isIdentifier_of_isName⟩
  intro hlast
  rw [withoutForms, String.toList_ofList] at hlast
  exact absurd ((trimmed_trim _).last _ hlast) (by decide)

namespace Target

variable {c : Target} {method : Nat} {m : Method} {parameters : List NativeType}

/-- The method is called like the class without its template arguments. -/
def IsConstructor (c : Target) (method : Nat) : Prop :=
  ∃ className, c.tree.name? c.place = some className ∧ c.tree.name? method = some (templateName className)

structure Admits (c : Target) (method : Nat) : Prop where
  name : ∃ name, c.tree.name? method = some name ∧ IsName name
  fixed : c.tree.childrenTagged "unspecified_parameters" method = []
  parameters : ∀ p ∈ c.parameters method, c.tree.Marshallable (c.tree.typeReference? p)
  result : c.IsConstructor method ∨ c.tree.Marshallable (c.tree.typeReference? method) ∨
    c.tree.IsVoid (c.tree.typeReference? method)

theorem callableName?_eq_some_iff {name : String} : c.callableName? method = some name ↔
    c.tree.name? method = some name ∧ IsName name ∧ c.tree.childrenTagged "unspecified_parameters" method = [] := by
  rw [callableName?]
  split_ifs with hfixed
  · rw [Option.filter_eq_some_iff, ← List.isEmpty_iff]
    simp only [hfixed, and_true]
    exact and_congr_right fun hname => Tree.isIdentifier_iff_isName hname
  · simp [← List.isEmpty_iff, hfixed]

theorem receiverOf_eq_newObject_iff {className name : String} (hclass : c.tree.name? c.place = some className)
    (hname : c.tree.name? method = some name) :
    c.receiverOf className name method = .newObject ↔ c.IsConstructor method := by
  rw [receiverOf]
  constructor
  · intro h
    split_ifs at h with hconstructor
    exact ⟨className, hclass, hconstructor ▸ hname⟩
  · rintro ⟨other, hother, hconstructor⟩
    obtain rfl := Option.some.inj (hclass.symm.trans hother)
    rw [if_pos (Option.some.inj (hname.symm.trans hconstructor))]

section

variable (hno : c.types.handlers = [])
include hno

theorem all_isPassable_iff (h : c.describeParameters method = .ok parameters) :
    parameters.all (·.isPassable) = true ↔
      ∀ p ∈ c.parameters method, c.tree.Marshallable (c.tree.typeReference? p) := by
  rw [List.all_eq_true]
  constructor
  · intro hpassable p hp
    obtain ⟨type, htype, hdescribe⟩ := exists_ok_of_mem h hp
    exact (TypeTable.isPassable_iff hno hdescribe).mp (hpassable type htype)
  · intro hmarshallable type htype
    obtain ⟨p, hp, hdescribe⟩ := exists_of_mem_mapM h htype
    exact (TypeTable.isPassable_iff hno hdescribe).mpr (hmarshallable p hp)

theorem admits_of_accepts (h : c.Accepts method m) : c.Admits method := by
  obtain ⟨hread, hname, hfixed⟩ := callableName?_eq_some_iff.mp h.name
  obtain ⟨className, hclass, hreceiver⟩ := h.receiver
  refine ⟨⟨m.name, hread, hname⟩, hfixed, ?_, ?_⟩
  · exact (all_isPassable_iff hno h.parameters).mp (List.all_eq_true.mpr h.passable)
  · apply h.supported.imp
    · exact fun hnew => (receiverOf_eq_newObject_iff hclass hread).mp (hreceiver ▸ hnew)
    · exact (TypeTable.isSupported_iff hno h.result).mp

theorem exists_accept_of_admits {result : NativeType} (hclass : c.tree.name? c.place ≠ none)
    (hparameters : c.describeParameters method = .ok parameters) (hresult : c.describeResult method = .ok result)
    (h : c.Admits method) : ∃ m, c.accept method = .ok (some m) := by
  obtain ⟨className, hclass⟩ := Option.ne_none_iff_exists'.mp hclass
  obtain ⟨name, hread, hname⟩ := h.name
  have hcallable := callableName?_eq_some_iff.mpr ⟨hread, hname, h.fixed⟩
  have hpassable := (all_isPassable_iff hno hparameters).mpr h.parameters
  have hsupported : c.receiverOf className name method = .newObject ∨ result.isSupported = true :=
    h.result.imp (receiverOf_eq_newObject_iff hclass hread).mpr (TypeTable.isSupported_iff hno hresult).mpr
  rw [accept_of_passable hcallable hclass hparameters hpassable, hresult, Except.map,
    if_pos (by simpa using hsupported)]
  exact ⟨_, rfl⟩

end

section

variable (hacyclic : c.tree.Acyclic) (hreadable : c.tree.Readable)
include hacyclic hreadable

theorem exists_describeParameters (method : Nat) : ∃ parameters, c.describeParameters method = .ok parameters :=
  exists_mapM_ok fun _ _ => TypeTable.exists_describe hacyclic hreadable _

theorem fault?_eq_none (hnamed : c.tree.NamesTypedefs) (method : Nat) : c.fault? method = none := by
  cases hfault : c.fault? method with
  | none => rfl
  | some fault =>
    cases cause_of_fault? hfault with
    | described _ hdescribe _ =>
      obtain ⟨type, htype⟩ := TypeTable.exists_describe (t := c.types) hacyclic hreadable _
      rw [htype] at hdescribe
      cases hdescribe
    | nameless hparameters htype hnone =>
      obtain ⟨p, -, hdescribe⟩ := exists_of_mem_mapM hparameters (List.mem_of_getElem? htype)
      exact absurd hnone (TypeTable.spelling_of_describeWithin hnamed hdescribe)

/-- Every method of a class with a name is either bound or skipped, and it is bound just if the grammar admits it. -/
theorem bound_iff_admits (hno : c.types.handlers = []) (hnamed : c.tree.NamesTypedefs)
    (hclass : c.tree.name? c.place ≠ none) (method : Nat) (siblings : List Nat) :
    ∃ accepted, c.binding? method siblings = .ok accepted ∧ (accepted.isSome = true ↔ c.Admits method) := by
  have hfault := fault?_eq_none hacyclic hreadable hnamed method
  cases outcome hclass siblings method with
  | bound b _ hbinding =>
    obtain ⟨m, _, haccepts, _⟩ := exists_of_binding? hbinding
    exact ⟨some b, hbinding, fun _ => admits_of_accepts hno haccepts, fun _ => rfl⟩
  | skipped _ _ hbinding _ =>
    refine ⟨none, hbinding, by simp, ?_⟩
    intro hadmits
    obtain ⟨parameters, hparameters⟩ := exists_describeParameters hacyclic hreadable method
    obtain ⟨result, hresult⟩ := TypeTable.exists_describe (t := c.types) hacyclic hreadable _
    obtain ⟨m, haccept⟩ := exists_accept_of_admits hno hclass hparameters hresult hadmits
    rw [binding?, haccept] at hbinding
    obtain ⟨b, -, hsome⟩ := Except.map_eq_ok_iff.mp hbinding
    cases hsome
  | refused fault hrefused | unsigned fault hrefused =>
    rw [hfault] at hrefused
    cases hrefused

end

def panelTree : Tree := .ofEntries [
  ⟨"class_type", 0xb, 0, [("name", "Panel")]⟩,
  ⟨"subprogram", 0x10, 1, [("name", "show"), ("type", "<0x60>")]⟩,
  ⟨"formal_parameter", 0x20, 2, [("type", "<0x40>")]⟩, ⟨"subprogram", 0x30, 1, [("name", "fill")]⟩,
  ⟨"formal_parameter", 0x38, 2, [("type", "<0x50>")]⟩, ⟨"reference_type", 0x40, 0, [("type", "<0x48>")]⟩,
  ⟨"const_type", 0x48, 0, [("type", "<0x58>")]⟩, ⟨"pointer_type", 0x50, 0, [("type", "<0x58>")]⟩,
  ⟨"typedef", 0x58, 0, [("name", "level"), ("type", "<0x70>")]⟩, ⟨"enumeration_type", 0x60, 0, []⟩,
  ⟨"enumerator", 0x68, 1, [("name", "off"), ("const_value", "0")]⟩, ⟨"base_type", 0x70, 0, [("name", "int")]⟩]

def panelTarget : Target := ⟨⟨panelTree, []⟩, 0, ⟨"Panel"⟩⟩

/-- A reference to a constant behind a type definition is admitted, and a pointer to the same type is not. -/
theorem bound_iff_admits_panel :
    panelTree.Acyclic ∧ panelTree.Readable ∧ panelTree.NamesTypedefs ∧ panelTarget.Admits 1 ∧ ¬ panelTarget.Admits 3 := by
  have hacyclic : panelTree.Acyclic := Tree.acyclic_of_forward (by decide +kernel)
  have hreadable : panelTree.Readable := by decide +kernel
  have hnamed : panelTree.NamesTypedefs := by decide +kernel
  have hclass : panelTree.name? 0 ≠ none := by decide +kernel
  have hadmits (method : Nat) : ∃ accepted, panelTarget.binding? method [1, 3] = .ok accepted ∧
      (accepted.isSome = true ↔ panelTarget.Admits method) :=
    bound_iff_admits (c := panelTarget) hacyclic hreadable rfl hnamed hclass method [1, 3]
  obtain ⟨shown, hshow, hshown⟩ := hadmits 1
  obtain ⟨filled, hfill, hfilled⟩ := hadmits 3
  have hisSome : (panelTarget.binding? 1 [1, 3]).toOption.join.isSome = true := by decide +kernel
  have hisNone : (panelTarget.binding? 3 [1, 3]).toOption.join.isSome = false := by decide +kernel
  rw [hshow] at hisSome
  rw [hfill] at hisNone
  refine ⟨hacyclic, hreadable, hnamed, hshown.mp hisSome, ?_⟩
  intro hadmitted
  have hbound := hfilled.mpr hadmitted
  cases filled with
  | none => cases hbound
  | some b => cases hisNone

end Target

end ScriptBinding
