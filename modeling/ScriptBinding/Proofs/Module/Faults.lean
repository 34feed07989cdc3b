import ScriptBinding.Proofs.Exchange.Faults
import ScriptBinding.Proofs.Methods.Choice
import ScriptBinding.Proofs.Module.References
import ScriptBinding.Proofs.Module.Wiring

/-!
What stops a run. A type that is not supported only makes a method be skipped, but a type that cannot be described
or spelled ends the run, whether or not the method would have been skipped for another reason.
-/

namespace ScriptBinding

open Code Dump

def faultOf {α : Type} : Except Fault α → Option Fault
  | .ok _ => none
  | .error fault => some fault

theorem faultOf_eq_none {α : Type} {x : Except Fault α} : faultOf x = none ↔ ∃ a, x = .ok a := by
  cases x <;> simp [faultOf]

theorem faultOf_eq_some {α : Type} {x : Except Fault α} {fault : Fault} :
    faultOf x = some fault ↔ x = .error fault := by
  cases x <;> simp [faultOf]

namespace Target

variable {c : Target} {method : Nat} {siblings methods : List Nat} {m : Method} {fault : Fault}

/-- The fault of a method: of a type that it takes, of the type that it returns if the method is not rejected for
its parameters, or of the text of its signature. -/
def fault? (c : Target) (method : Nat) : Option Fault :=
  match c.describeParameters method with
  | .error fault => some fault
  | .ok parameters =>
    let described := (c.callableName? method).isSome && parameters.all (·.isPassable)
    (if described then faultOf (c.describeResult method) else none).or (faultOf (joinSpellings parameters))

section Bind

variable (h : c.Accepts method m)
include h

theorem exists_reads : ∃ reads, (m.parameters.zipIdx.mapM fun (type, position) => c.readCode type position) =
    .ok reads := by
  apply exists_mapM_ok
  rintro ⟨type, position⟩ hmem
  have htype : type ∈ m.parameters := (List.mem_zipIdx' hmem).2 ▸ List.getElem_mem _
  obtain ⟨p, -, hp⟩ := exists_of_mem_mapM h.parameters htype
  exact TypeTable.exists_readArgument hp (h.passable type htype) position (argumentName position)

theorem exists_callAndResult : ∃ callAndResult, c.callAndResult m = .ok callAndResult := by
  rw [callAndResult]
  split
  · exact ⟨_, rfl⟩
  · exact ⟨_, rfl⟩
  · next hreceiver _ =>
    obtain ⟨value, hvalue⟩ := TypeTable.exists_toScript h.result (h.supported.resolve_left hreceiver) "result"
    rw [hvalue]
    exact ⟨_, rfl⟩

theorem exists_bodyOf {isOverloaded : Bool} {comment : Fragment} (hcomment : commentOf m isOverloaded = .ok comment) :
    ∃ body, c.bodyOf m isOverloaded = .ok body := by
  obtain ⟨reads, hreads⟩ := exists_reads h
  obtain ⟨⟨call, result⟩, hcall⟩ := exists_callAndResult h
  rw [bodyOf, hcomment, hreads, hcall]
  exact ⟨_, rfl⟩

theorem exists_bind (isOverloaded : Bool) {signature : String}
    (hsignature : signatureOf (some m.name) m.parameters = .ok signature) : ∃ b, c.bind m isOverloaded = .ok b := by
  have hcomment : ∃ comment, commentOf m isOverloaded = .ok comment := by
    cases isOverloaded with
    | false => exact ⟨[], rfl⟩
    | true => exact ⟨["// " ++ signature], by rw [commentOf, hsignature]; rfl⟩
  obtain ⟨comment, hcomment⟩ := hcomment
  obtain ⟨body, hbody⟩ := exists_bodyOf h hcomment
  rw [bind, hbody, hsignature]
  exact ⟨_, rfl⟩

theorem bind_error (isOverloaded : Bool) (hsignature : signatureOf (some m.name) m.parameters = .error fault) :
    c.bind m isOverloaded = .error fault := by
  cases isOverloaded with
  | false =>
    have hcomment : commentOf m false = .ok [] := rfl
    obtain ⟨body, hbody⟩ := exists_bodyOf h hcomment
    rw [bind, hbody, hsignature]
    rfl
  | true =>
    have hcomment : commentOf m true = .error fault := by
      rw [commentOf, hsignature]
      rfl
    rw [bind, bodyOf, hcomment]
    rfl

end Bind

theorem signatureOf_error_iff {name : Option String} {parameters : List NativeType} :
    signatureOf name parameters = .error fault ↔ joinSpellings parameters = .error fault := by
  rw [signatureOf, Except.map_eq_error_iff]

theorem exists_signatureOf (name : Option String) {parameters : List NativeType}
    (h : faultOf (joinSpellings parameters) = none) : ∃ signature, signatureOf name parameters = .ok signature := by
  obtain ⟨spellings, hspellings⟩ := faultOf_eq_none.mp h
  rw [signatureOf, hspellings]
  exact ⟨_, rfl⟩

/-- What the run makes of a method: a binding, a report that it is skipped, or its end. -/
inductive Outcome (c : Target) (siblings : List Nat) (method : Nat) : Prop where
  | bound (b : Binding) : c.fault? method = none → c.binding? method siblings = .ok (some b) → Outcome c siblings method
  | skipped (signature : String) : c.fault? method = none → c.binding? method siblings = .ok none →
      c.signature method = .ok signature → Outcome c siblings method
  | refused (fault : Fault) : c.fault? method = some fault → c.binding? method siblings = .error fault →
      Outcome c siblings method
  | unsigned (fault : Fault) : c.fault? method = some fault → c.binding? method siblings = .ok none →
      c.signature method = .error fault → Outcome c siblings method

theorem binding?_of_rejected (h : c.accept method = .ok none) : c.binding? method siblings = .ok none := by
  rw [binding?, h]
  rfl

theorem binding?_of_refused (h : c.accept method = .error fault) : c.binding? method siblings = .error fault := by
  rw [binding?, h]
  rfl

theorem outcome_of_rejected {parameters : List NativeType} (hparameters : c.describeParameters method = .ok parameters)
    (haccept : c.accept method = .ok none) (hfault : c.fault? method = faultOf (joinSpellings parameters)) :
    c.Outcome siblings method := by
  have hbinding : c.binding? method siblings = .ok none := binding?_of_rejected haccept
  have hsignature : c.signature method = signatureOf (c.tree.name? method) parameters := by
    rw [signature, hparameters]
    rfl
  cases hjoin : faultOf (joinSpellings parameters) with
  | none =>
    obtain ⟨signature, htext⟩ := exists_signatureOf (c.tree.name? method) hjoin
    exact .skipped signature (hfault.trans hjoin) hbinding (hsignature.trans htext)
  | some fault =>
    have herror : signatureOf (c.tree.name? method) parameters = .error fault :=
      signatureOf_error_iff.mpr (faultOf_eq_some.mp hjoin)
    exact .unsigned fault (hfault.trans hjoin) hbinding (hsignature.trans herror)

theorem outcome_of_accepted (haccept : c.accept method = .ok (some m)) : c.Outcome siblings method := by
  have h := accepts_of_accept haccept
  have hfault : c.fault? method = faultOf (joinSpellings m.parameters) := by
    have hpassable : m.parameters.all (·.isPassable) = true := List.all_eq_true.mpr h.passable
    simp [fault?, h.parameters, h.name, hpassable, h.result, faultOf]
  have hbinding : c.binding? method siblings = (c.bind m (c.hasNamesake m.name method siblings)).map some := by
    rw [binding?, haccept]
    rfl
  cases hjoin : faultOf (joinSpellings m.parameters) with
  | none =>
    obtain ⟨signature, htext⟩ := exists_signatureOf (some m.name) hjoin
    obtain ⟨b, hb⟩ := exists_bind h (c.hasNamesake m.name method siblings) htext
    rw [hb] at hbinding
    exact .bound b (hfault.trans hjoin) hbinding
  | some fault =>
    have herror : signatureOf (some m.name) m.parameters = .error fault :=
      signatureOf_error_iff.mpr (faultOf_eq_some.mp hjoin)
    rw [bind_error h _ herror] at hbinding
    exact .refused fault (hfault.trans hjoin) hbinding

section

variable {name className : String} (hname : c.callableName? method = some name)
  (hclass : c.tree.name? c.place = some className)
include hname hclass

theorem accept_error (h : c.describeParameters method = .error fault) : c.accept method = .error fault := by
  rw [accept, hname, hclass, h]
  rfl

variable {parameters : List NativeType} (hparameters : c.describeParameters method = .ok parameters)
include hparameters

theorem accept_of_notPassable (h : parameters.all (·.isPassable) = false) : c.accept method = .ok none := by
  rw [accept, hname, hclass, hparameters]
  simp [Except.bind, h]

theorem accept_of_passable (h : parameters.all (·.isPassable) = true) :
    c.accept method = (c.describeResult method).map fun result =>
      if c.receiverOf className name method = .newObject || result.isSupported then
        some ⟨name, c.receiverOf className name method, parameters, result⟩
      else none := by
  rw [accept, hname, hclass, hparameters]
  simp [Except.bind, h]

theorem outcome_of_callable (siblings : List Nat) : c.Outcome siblings method := by
  cases hpassable : parameters.all (·.isPassable) with
  | false =>
    have haccept := accept_of_notPassable hname hclass hparameters hpassable
    exact outcome_of_rejected hparameters haccept (by simp [fault?, hparameters, hpassable])
  | true =>
    have haccept := accept_of_passable hname hclass hparameters hpassable
    cases hresult : c.describeResult method with
    | error fault =>
      rw [hresult] at haccept
      exact .refused fault (by simp [fault?, hparameters, hname, hpassable, hresult, faultOf])
        (binding?_of_refused haccept)
    | ok result =>
      rw [hresult, Except.map] at haccept
      split at haccept
      · exact outcome_of_accepted haccept
      · exact outcome_of_rejected hparameters haccept
          (by simp [fault?, hparameters, hname, hpassable, hresult, faultOf])

end

theorem outcome (hclass : c.tree.name? c.place ≠ none) (siblings : List Nat) (method : Nat) :
    c.Outcome siblings method := by
  obtain ⟨className, hclass⟩ := Option.ne_none_iff_exists'.mp hclass
  have hunnamed (hname : c.callableName? method = none) : c.accept method = .ok none := by
    rw [accept, hname]
  cases hparameters : c.describeParameters method with
  | ok parameters =>
    cases hname : c.callableName? method with
    | none => exact outcome_of_rejected hparameters (hunnamed hname) (by simp [fault?, hparameters, hname])
    | some name => exact outcome_of_callable hname hclass hparameters siblings
  | error fault =>
    have hfault : c.fault? method = some fault := by rw [fault?, hparameters]
    have hsignature : c.signature method = .error fault := by
      rw [signature, hparameters]
      rfl
    cases hname : c.callableName? method with
    | none => exact .unsigned fault hfault (binding?_of_rejected (hunnamed hname)) hsignature
    | some name => exact .refused fault hfault (binding?_of_refused (accept_error hname hclass hparameters))

/-- The report of a method that is skipped. -/
def skipLine? (c : Target) (siblings : List Nat) (method : Nat) : Option String :=
  match c.binding? method siblings, c.signature method with
  | .ok none, .ok signature => some (skipWarning signature)
  | _, _ => none

theorem bindings_cons_of_error (h : c.binding? method siblings = .error fault) :
    c.bindings siblings (method :: methods) = ⟨[], .error fault⟩ := by
  rw [bindings, h]
  rfl

theorem bindings_cons_of_unsigned (h : c.binding? method siblings = .ok none)
    (hsignature : c.signature method = .error fault) :
    c.bindings siblings (method :: methods) = ⟨[], .error fault⟩ := by
  rw [bindings, h, hsignature]
  rfl

theorem bindings_cons_of_skipped {signature : String} (h : c.binding? method siblings = .ok none)
    (hsignature : c.signature method = .ok signature) :
    c.bindings siblings (method :: methods) =
      ⟨skipWarning signature :: (c.bindings siblings methods).lines, (c.bindings siblings methods).result⟩ := by
  rw [bindings, h, hsignature]
  rfl

theorem bindings_cons_of_bound {b : Binding} (h : c.binding? method siblings = .ok (some b)) :
    c.bindings siblings (method :: methods) =
      ⟨(c.bindings siblings methods).lines, (c.bindings siblings methods).result.map (b :: ·)⟩ := by
  rw [bindings, h]
  change (c.bindings siblings methods).bind (fun rest => .pure (b :: rest)) = _
  cases hresult : (c.bindings siblings methods).result with
  | ok rest => simp [Report.bind, Report.pure, Except.map, hresult]
  | error fault => simp [Report.bind, Except.map, hresult]

/-- The run over the methods ends with the first fault, after the reports of the methods before it. -/
theorem bindings_eq (hclass : c.tree.name? c.place ≠ none) (siblings methods : List Nat) :
    c.bindings siblings methods =
      ⟨(methods.takeWhile fun m => (c.fault? m).isNone).filterMap (c.skipLine? siblings),
        match methods.findSome? c.fault? with
        | some fault => .error fault
        | none => .ok (methods.filterMap (c.boundAs? siblings))⟩ := by
  induction methods with
  | nil => rfl
  | cons method methods ih =>
    cases outcome hclass siblings method with
    | bound b hfault hbinding =>
      have hskip : c.skipLine? siblings method = none := by rw [skipLine?, hbinding]
      rw [bindings_cons_of_bound hbinding, ih, List.takeWhile_cons_of_pos (by simp [hfault]),
        List.filterMap_cons_none hskip, List.findSome?_cons, hfault,
        List.filterMap_cons_some (boundAs?_of_binding? hbinding)]
      cases methods.findSome? c.fault? <;> rfl
    | skipped signature hfault hbinding hsignature =>
      have hskip : c.skipLine? siblings method = some (skipWarning signature) := by
        rw [skipLine?, hbinding, hsignature]
      rw [bindings_cons_of_skipped hbinding hsignature, ih, List.takeWhile_cons_of_pos (by simp [hfault]),
        List.filterMap_cons_some hskip, List.findSome?_cons, hfault,
        List.filterMap_cons_none (boundAs?_of_binding? hbinding)]
    | refused fault hfault hbinding =>
      rw [bindings_cons_of_error hbinding, List.takeWhile_cons_of_neg (by simp [hfault]),
        List.findSome?_cons, hfault]
      rfl
    | unsigned fault hfault hbinding hsignature =>
      rw [bindings_cons_of_unsigned hbinding hsignature, List.takeWhile_cons_of_neg (by simp [hfault]),
        List.findSome?_cons, hfault]
      rfl

/-- Why a method has a fault: a type that cannot be described, or the type of a parameter that has no name. -/
inductive Cause (c : Target) (method : Nat) : Fault → Prop where
  | described {i : Nat} {fault : Fault} : i ∈ c.parameters method ++ [method] →
      c.types.describe (c.tree.typeReference? i) = .error fault →
      c.types.Obstacle (c.tree.typeReference? i) fault → Cause c method fault
  | nameless {parameters : List NativeType} {type : NativeType} {position : Nat} :
      c.describeParameters method = .ok parameters → parameters[position]? = some type → type.spelling = none →
      Cause c method (.namelessParameterType position)

theorem cause_of_describe {i : Nat} (hi : i ∈ c.parameters method ++ [method])
    (h : c.types.describe (c.tree.typeReference? i) = .error fault) : c.Cause method fault :=
  .described hi h (TypeTable.obstacle_of_describe h)

theorem cause_of_join {parameters : List NativeType} (hparameters : c.describeParameters method = .ok parameters)
    (h : joinSpellings parameters = .error fault) : c.Cause method fault := by
  rw [joinSpellings] at h
  split at h
  · next position hposition =>
    obtain rfl := Except.error.inj h
    obtain ⟨hlt, hnone, -⟩ := List.findIdx?_eq_some_iff_getElem.mp hposition
    exact .nameless hparameters (List.getElem?_eq_getElem hlt) (by simpa using hnone)
  · cases h

theorem cause_of_fault? (h : c.fault? method = some fault) : c.Cause method fault := by
  rw [fault?] at h
  split at h
  · next fault' hparameters =>
    obtain rfl := Option.some.inj h
    obtain ⟨p, hp, hdescribe⟩ := exists_of_mapM_error hparameters
    exact cause_of_describe (List.mem_append_left _ hp) hdescribe
  · next parameters hparameters =>
    rcases Option.or_eq_some_iff.mp h with hresult | ⟨-, hjoin⟩
    · split at hresult
      · exact cause_of_describe (List.mem_append_right _ (List.mem_singleton_self method))
          (faultOf_eq_some.mp hresult)
      · cases hresult
    · exact cause_of_join hparameters (faultOf_eq_some.mp hjoin)

end Target

section Printing

theorem mapM_dichotomy {α β : Type} {f : α → Except Fault β} {P : α → Prop} {e : Fault}
    (h : ∀ a, P a ∧ (∃ b, f a = .ok b) ∨ ¬ P a ∧ f a = .error e) (l : List α) :
    (∀ a ∈ l, P a) ∧ (∃ bs, l.mapM f = .ok bs) ∨ (¬ ∀ a ∈ l, P a) ∧ l.mapM f = .error e := by
  cases hl : l.mapM f with
  | ok bs =>
    refine .inl ⟨?_, bs, rfl⟩
    intro a ha
    obtain ⟨b, -, hb⟩ := exists_ok_of_mem hl ha
    rcases h a with ⟨hP, -⟩ | ⟨-, herror⟩
    · exact hP
    · rw [hb] at herror
      cases herror
  | error fault =>
    obtain ⟨a, ha, hfault⟩ := exists_of_mapM_error hl
    rcases h a with ⟨-, b, hb⟩ | ⟨hP, herror⟩
    · rw [hb] at hfault
      cases hfault
    · obtain rfl := Except.error.inj (hfault.symm.trans herror)
      exact .inr ⟨fun hall => hP (hall a ha), rfl⟩

/-- Values that are not too long to be written. -/
def EnumValues.Printable (values : EnumValues) : Prop := ∀ v ∈ values, v.2.natAbs < Text.decimalBound

theorem labelCode_cases (label : String) (value : Int) :
    value.natAbs < Text.decimalBound ∧ (∃ code, labelCode label value = .ok code) ∨
      ¬ value.natAbs < Text.decimalBound ∧ labelCode label value = .error .longInteger := by
  unfold labelCode Text.decimal?
  split_ifs with h
  · exact .inl ⟨h, _, rfl⟩
  · exact .inr ⟨h, rfl⟩

theorem registrationCode_cases (name : String) (values : EnumValues) :
    values.Printable ∧ (∃ code, registrationCode name values = .ok code) ∨
      ¬ values.Printable ∧ registrationCode name values = .error .longInteger := by
  have hlabels := mapM_dichotomy (P := fun v : String × Int => v.2.natAbs < Text.decimalBound)
    (fun v => labelCode_cases v.1 v.2) values
  rcases hlabels with ⟨hfit, labels, hlabels⟩ | ⟨hlong, hlabels⟩
  · refine .inl ⟨hfit, ?_⟩
    unfold registrationCode
    rw [hlabels]
    exact ⟨_, rfl⟩
  · refine .inr ⟨hlong, ?_⟩
    unfold registrationCode
    rw [hlabels]
    rfl

theorem Plan.initializerCode_cases (p : Plan) :
    (∀ e ∈ p.enumerations, e.2.Printable) ∧ (∃ code, p.initializerCode = .ok code) ∨
      (¬ ∀ e ∈ p.enumerations, e.2.Printable) ∧ p.initializerCode = .error .longInteger := by
  have hcodes := mapM_dichotomy (P := fun e : String × EnumValues => e.2.Printable)
    (fun e => registrationCode_cases e.1 e.2) p.enumerations
  rcases hcodes with ⟨hfit, codes, hcodes⟩ | ⟨hlong, hcodes⟩
  · refine .inl ⟨hfit, ?_⟩
    unfold initializerCode
    rw [hcodes]
    exact ⟨_, rfl⟩
  · refine .inr ⟨hlong, ?_⟩
    unfold initializerCode
    rw [hcodes]
    rfl

end Printing

theorem toText_ne_empty {line : String} (h : line ≠ "") (code : Fragment) : Fragment.toText (line :: code) ≠ "" := by
  intro hempty
  have hchars := congrArg String.toList hempty
  rw [Fragment.toText, String.toList_intercalate] at hchars
  apply h
  apply String.toList_inj.mp
  cases code with
  | nil => simpa using hchars
  | cons l code =>
    rw [List.map_cons, List.map_cons, List.intercalate_cons_cons] at hchars
    exact (List.append_eq_nil_iff.mp (List.append_eq_nil_iff.mp hchars).1).1

theorem fragmentOf_toText {line : String} (h : line ≠ "") (code : Fragment) (fault : Fault) :
    fragmentOf (some (Fragment.toText (line :: code))) fault = .ok (Fragment.toText (line :: code)) := by
  rw [fragmentOf, Option.filter_some, if_pos (by simpa using toText_ne_empty h code)]

namespace Target

variable (c : Target)

theorem package_planFor_cases (headerLine library : String) (bindings : List Binding) :
    (∀ e ∈ (c.planFor headerLine bindings).enumerations, e.2.Printable) ∧
        (∃ package, (c.planFor headerLine bindings).package library = .ok package) ∨
      (¬ ∀ e ∈ (c.planFor headerLine bindings).enumerations, e.2.Printable) ∧
        (c.planFor headerLine bindings).package library = .error .longInteger := by
  have hdestructor (fault : Fault) : fragmentOf (c.planFor headerLine bindings).destructor fault =
      .ok c.destructorCode.toText := fragmentOf_toText (by decide) _ fault
  have hwrapper (fault : Fault) : fragmentOf (c.planFor headerLine bindings).nativeWrapper fault =
      .ok (c.nativeWrapperCode (c.naming.dispatch bindings).methods).toText := fragmentOf_toText (by decide) _ fault
  rcases (c.planFor headerLine bindings).initializerCode_cases with ⟨hfit, code, hcode⟩ | ⟨hlong, hcode⟩
  · refine .inl ⟨hfit, ?_⟩
    simp only [Plan.package, hdestructor, hwrapper, Plan.sourceCode, hcode]
    exact ⟨_, rfl⟩
  · refine .inr ⟨hlong, ?_⟩
    simp only [Plan.package, hdestructor, hwrapper, Plan.sourceCode, hcode]
    rfl

def methods : List Nat := c.tree.publicMethods c.place

/-- A run over the public methods of a class: it ends at the first method with a fault, after the reports of the
methods skipped before it, and otherwise every method is bound or reported. -/
structure Run (c : Target) (headerLine library : String) (r : Report Package) : Prop where
  outcome : ∀ m ∈ c.methods, c.Outcome c.methods m
  cause : ∀ m ∈ c.methods, ∀ fault, c.fault? m = some fault → c.Cause m fault
  stopped : ∀ fault, c.methods.findSome? c.fault? = some fault →
    r = ⟨(c.methods.takeWhile fun m => (c.fault? m).isNone).filterMap (c.skipLine? c.methods), .error fault⟩
  finished : c.methods.findSome? c.fault? = none →
    r.lines = c.methods.filterMap (c.skipLine? c.methods) ++
        (c.planned headerLine (c.methods.filterMap (c.boundAs? c.methods))).lines ∧
      r.result = (c.planFor headerLine (c.methods.filterMap (c.boundAs? c.methods))).package library
  printed : c.methods.findSome? c.fault? = none →
    (∀ e ∈ (c.planFor headerLine (c.methods.filterMap (c.boundAs? c.methods))).enumerations, e.2.Printable) →
      ∃ package, r.result = .ok package
  tooLong : c.methods.findSome? c.fault? = none →
    (¬ ∀ e ∈ (c.planFor headerLine (c.methods.filterMap (c.boundAs? c.methods))).enumerations, e.2.Printable) →
      r.result = .error .longInteger

variable {c}

theorem run_plan (hclass : c.tree.name? c.place ≠ none) (headerLine library : String) :
    c.Run headerLine library ((c.plan headerLine).bind fun plan => .ofResult (plan.package library)) := by
  have hplan := c.plan_eq headerLine
  rw [bindings_eq hclass, ← methods] at hplan
  -- Without a fault the walk reaches every method, and the lines of all of them stand in front of the package.
  have hmade (hnone : c.methods.findSome? c.fault? = none) :
      ((c.plan headerLine).bind fun plan => .ofResult (plan.package library)) =
        ⟨c.methods.filterMap (c.skipLine? c.methods) ++
            (c.planned headerLine (c.methods.filterMap (c.boundAs? c.methods))).lines,
          (c.planFor headerLine (c.methods.filterMap (c.boundAs? c.methods))).package library⟩ := by
    have hall : (c.methods.takeWhile fun m => (c.fault? m).isNone) = c.methods := by
      apply List.takeWhile_eq_self_iff.mpr
      intro m hm
      rw [Option.isNone_iff_eq_none]
      exact List.findSome?_eq_none_iff.mp hnone m hm
    rw [hplan, hall, hnone]
    simp [Report.bind, planned, Report.ofResult]
  have hcases := c.package_planFor_cases headerLine library (c.methods.filterMap (c.boundAs? c.methods))
  exact {
    outcome := fun m _ => outcome hclass c.methods m
    cause := fun m _ fault hfault => cause_of_fault? hfault
    stopped := by
      intro fault hfault
      rw [hplan, hfault]
      rfl
    finished := by
      intro hnone
      rw [hmade hnone]
      exact ⟨rfl, rfl⟩
    printed := by
      intro hnone hfit
      rw [hmade hnone]
      rcases hcases with ⟨-, hpackage⟩ | ⟨hlong, -⟩
      · exact hpackage
      · exact absurd hfit hlong
    tooLong := by
      intro hnone hlong
      rw [hmade hnone]
      rcases hcases with ⟨hfit, -⟩ | ⟨-, herror⟩
      · exact absurd hfit hlong
      · exact herror }

end Target

/-- A run fails because its class is missing, because of the first type that cannot be described or spelled, or
because of a value that is too long. -/
theorem Settings.package_runs (s : Settings) (handlers : Keyed String Handler) (tree : Tree) :
    tree.namedClasses s.className = [] ∧ s.package handlers tree = ⟨[], .error (.classNotFound s.className)⟩ ∨
      ∃ place, tree.findClass s.className = .ok place ∧
        Target.Run ⟨⟨tree, handlers⟩, place, ⟨s.scriptName⟩⟩ s.headerLine s.library (s.package handlers tree) := by
  by_cases hnone : tree.namedClasses s.className = []
  · exact .inl ⟨hnone, Settings.package_of_notFound (Tree.findClass_of_empty hnone)⟩
  · obtain ⟨place, hplace, -⟩ := Tree.exists_findClass hnone
    have hname := Tree.name_of_findClass hplace
    refine .inr ⟨place, hplace, ?_⟩
    rw [Settings.package_of_findClass hplace]
    apply Target.run_plan
    intro hno
    exact absurd (hname.symm.trans hno) (by simp)

/-- A method that returns an enumeration in which an enumerator has a blank value. -/
def blankLines : List (List Char) := [
  "<0><b>: Abbrev Number: 1 (DW_TAG_class_type)".toList,
  "<c> DW_AT_name:Led".toList,
  "<1><10>: Abbrev Number: 2 (DW_TAG_subprogram)".toList,
  "<11> DW_AT_name:on".toList,
  "<12> DW_AT_accessibility:1 (public)".toList,
  "<1><20>: Abbrev Number: 2 (DW_TAG_subprogram)".toList,
  "<21> DW_AT_name:mode".toList,
  "<22> DW_AT_accessibility:1 (public)".toList,
  "<23> DW_AT_type:<0x50>".toList,
  "<0><50>: Abbrev Number: 3 (DW_TAG_enumeration_type)".toList,
  "<1><51>: Abbrev Number: 4 (DW_TAG_enumerator)".toList,
  "<52> DW_AT_name:off".toList,
  "<53> DW_AT_const_value:".toList]

def blankTree : Tree := .ofEntries [
  ⟨"class_type", 0xb, 0, [("name", "Led")]⟩,
  ⟨"subprogram", 0x10, 1, [("name", "on"), ("accessibility", "1 (public)")]⟩,
  ⟨"subprogram", 0x20, 1, [("name", "mode"), ("accessibility", "1 (public)"), ("type", "<0x50>")]⟩,
  ⟨"enumeration_type", 0x50, 0, []⟩,
  ⟨"enumerator", 0x51, 1, [("name", "off"), ("const_value", "")]⟩]

theorem Settings.package_blank_value :
    Tree.parse (String.ofList (['\n'].intercalate blankLines)) = .ok blankTree ∧
      blankTree.findClass Target.ledSettings.className = .ok 0 ∧
      Target.ledSettings.package [] blankTree = ⟨[], .error .emptyConstant⟩ := by
  have hplace : blankTree.findClass Target.ledSettings.className = .ok 0 := by decide +kernel
  have hclass : blankTree.name? 0 ≠ none := by decide +kernel
  have hfault : (Target.mk ⟨blankTree, []⟩ 0 ⟨"Led"⟩).methods.findSome? (Target.mk ⟨blankTree, []⟩ 0 ⟨"Led"⟩).fault? =
      some .emptyConstant := by decide +kernel
  have hrun := Target.run_plan (c := ⟨⟨blankTree, []⟩, 0, ⟨"Led"⟩⟩) hclass Target.ledSettings.headerLine
    Target.ledSettings.library
  refine ⟨?_, hplace, ?_⟩
  · rw [Tree.parse, String.toList_ofList, blankLines]
    repeat rw [String.toList_ofList]
    decide +kernel
  · rw [Settings.package_of_findClass hplace]
    refine (hrun.stopped _ hfault).trans ?_
    have hlines : ((Target.mk ⟨blankTree, []⟩ 0 ⟨"Led"⟩).methods.takeWhile fun m =>
        ((Target.mk ⟨blankTree, []⟩ 0 ⟨"Led"⟩).fault? m).isNone).filterMap
          ((Target.mk ⟨blankTree, []⟩ 0 ⟨"Led"⟩).skipLine? (Target.mk ⟨blankTree, []⟩ 0 ⟨"Led"⟩).methods) = [] := by
      decide +kernel
    rw [hlines]

end ScriptBinding
