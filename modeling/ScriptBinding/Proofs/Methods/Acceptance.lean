import ScriptBinding.Methods.Target
import ScriptBinding.Proofs.Traversal

/-!
What is known of an accepted method and of the code that binds it.
-/

namespace ScriptBinding

open Code Dump

structure Target.Accepts (c : Target) (method : Nat) (m : Method) : Prop where
  name : c.callableName? method = some m.name
  receiver : ∃ className, c.tree.name? c.place = some className ∧
    m.receiver = c.receiverOf className m.name method
  parameters : c.describeParameters method = .ok m.parameters
  passable : ∀ type ∈ m.parameters, type.isPassable = true
  result : c.describeResult method = .ok m.result
  supported : m.receiver = .newObject ∨ m.result.isSupported = true

namespace Target

variable {c : Target} {method : Nat} {m : Method}

theorem accepts_of_accept (h : c.accept method = .ok (some m)) : c.Accepts method m := by
  rw [accept] at h
  cases hname : c.callableName? method with
  | none => simp [hname] at h
  | some name =>
    cases hclass : c.tree.name? c.place with
    | none => simp [hname, hclass] at h
    | some className =>
      simp only [hname, hclass] at h
      obtain ⟨parameters, hparameters, h⟩ := Except.bind_eq_ok_iff.mp h
      by_cases hpassable : parameters.all (·.isPassable) = true
      · rw [if_pos hpassable, Except.map_eq_ok_iff] at h
        obtain ⟨result, hresult, h⟩ := h
        split at h
        · next hsupported =>
          obtain rfl := Option.some.inj h
          exact ⟨hname, ⟨className, hclass, rfl⟩, hparameters, List.all_eq_true.mp hpassable, hresult,
            by simpa using hsupported⟩
        · cases h
      · rw [if_neg hpassable] at h
        cases h

theorem receiver_eq_thisObject_iff (h : c.Accepts method m) :
    m.receiver = .thisObject ↔ m.member ≠ .constructor ∧ c.isStatic method = false := by
  obtain ⟨className, -, hreceiver⟩ := h.receiver
  have hmember : m.member = .constructor ↔ m.receiver = .newObject := by
    rw [Method.member]
    cases m.receiver <;> simp
  rw [ne_eq, hmember, hreceiver, receiverOf]
  split_ifs <;> simp_all

theorem length_parameters (h : c.Accepts method m) :
    m.parameters.length = ((c.tree.childrenTagged "formal_parameter" method).filter
      fun p => !c.isArtificial p).length :=
  (mapM_eq_ok_iff.mp h.parameters).length_eq.symm

structure Writes (c : Target) (m : Method) (isOverloaded : Bool) (body : MethodBody) : Prop where
  comment : commentOf m isOverloaded = .ok body.comment
  receiver : body.receiver = c.receiverCode m
  checks : body.checks = m.parameters.zipIdx.map fun (type, position) => c.checkCode m type position
  reads : (m.parameters.zipIdx.mapM fun (type, position) => c.readCode type position) = .ok body.reads
  call : c.callAndResult m = .ok (body.call, body.result)
  releases : body.releases = m.parameters.zipIdx.map fun (type, position) => releaseCode type position

theorem writes_of_bodyOf {isOverloaded : Bool} {body : MethodBody} (h : c.bodyOf m isOverloaded = .ok body) :
    c.Writes m isOverloaded body := by
  rw [bodyOf] at h
  obtain ⟨comment, hcomment, h⟩ := Except.bind_eq_ok_iff.mp h
  obtain ⟨reads, hreads, h⟩ := Except.bind_eq_ok_iff.mp h
  obtain ⟨⟨call, result⟩, hcall, h⟩ := Except.bind_eq_ok_iff.mp h
  obtain rfl := Except.ok.inj h
  exact ⟨hcomment, rfl, rfl, hreads, hcall, rfl⟩

theorem exists_bind_of_binding? {siblings : List Nat} {b : Binding} (h : c.binding? method siblings = .ok (some b)) :
    ∃ m, c.Accepts method m ∧ c.bind m (c.hasNamesake m.name method siblings) = .ok b := by
  obtain ⟨accepted, haccept, h⟩ := Except.bind_eq_ok_iff.mp h
  cases accepted with
  | none => cases h
  | some m =>
    obtain ⟨b', hbind, h⟩ := Except.map_eq_ok_iff.mp h
    obtain rfl := Option.some.inj h
    exact ⟨m, accepts_of_accept haccept, hbind⟩

theorem enumerations_of_bind {isOverloaded : Bool} {b : Binding} (h : c.bind m isOverloaded = .ok b) :
    b.enumerations = enumerationsOf m := by
  obtain ⟨body, -, h⟩ := Except.bind_eq_ok_iff.mp h
  obtain ⟨signature, -, h⟩ := Except.bind_eq_ok_iff.mp h
  rw [← Except.ok.inj h]

theorem exists_of_binding? {siblings : List Nat} {b : Binding}
    (h : c.binding? method siblings = .ok (some b)) :
    ∃ m body, c.Accepts method m ∧ c.Writes m (c.hasNamesake m.name method siblings) body ∧
      signatureOf (some m.name) m.parameters = .ok b.signature ∧ b.member = m.member ∧
      b.arity = m.parameters.length ∧ b.body = body.code.toText := by
  obtain ⟨m, haccepts, h⟩ := exists_bind_of_binding? h
  obtain ⟨body, hbody, h⟩ := Except.bind_eq_ok_iff.mp h
  obtain ⟨signature, hsignature, h⟩ := Except.bind_eq_ok_iff.mp h
  obtain rfl := Except.ok.inj h
  exact ⟨m, body, haccepts, writes_of_bodyOf hbody, hsignature, rfl, rfl, rfl⟩

end Target

end ScriptBinding
