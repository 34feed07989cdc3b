import ScriptBinding.Proofs.Exchange.Chains
import ScriptBinding.Proofs.Keyed
import ScriptBinding.Proofs.Methods.Acceptance
import ScriptBinding.Proofs.Module.Accounting

/-!
The enumerations that bound methods refer to. A registry holds each name once, at the place of its first reference
and with the values of its last.
-/

namespace ScriptBinding

open Dump

/-- The name and the values that an enumeration is registered with. -/
def Enumeration.entry (e : Enumeration) : String × EnumValues := (e.name.getD "None", e.values)

theorem Registry.enumerations_foldl_add (es : List Enumeration) :
    (es.foldl add {}).enumerations = .ofPairs (es.map (·.entry)) := by
  have hfold (r : Registry) : (es.foldl add r).enumerations =
      (es.map (·.entry)).foldl (fun m p => Keyed.put p.1 p.2 m) r.enumerations := by
    induction es generalizing r with
    | nil => rfl
    | cons e es ih =>
      rw [List.foldl_cons, ih]
      rfl
  exact hfold {}

theorem Registry.enumerations_ofBindings (bindings : List Binding) :
    (ofBindings bindings).enumerations = .ofPairs ((bindings.flatMap (·.enumerations)).map (·.entry)) :=
  enumerations_foldl_add _

namespace TypeTable

variable {t : TypeTable} {reference : Option Nat} {type : NativeType} {e : Enumeration}

/-- The enumeration behind a reference, if it has a name. -/
def namedEnumeration? (t : TypeTable) (reference : Option Nat) : Option (String × EnumValues) :=
  (t.describe reference).toOption.bind fun type =>
    type.enumeration.bind fun e => (given e.name).map (·, e.values)

/-- Where an enumeration comes from: its values are those of the enumerators of an entry behind the reference, in
their order, and its name is that of an entry there. -/
structure Origin (t : TypeTable) (reference : Option Nat) (e : Enumeration) : Prop where
  values : ∃ i labels, t.tree.Reached reference i ∧ t.tree.hasTag "enumeration_type" i = true ∧
    (t.tree.childrenTagged "enumerator" i).mapM t.enumerator = .ok labels ∧ e.values = labels.filterMap id
  name : e.hasName = true → ∃ j, t.tree.Reached reference j ∧ t.tree.name? j = e.name

theorem origin_of_ends (h : t.Ends reference type) (he : e ∈ type.enumeration) : t.Origin reference e := by
  obtain ⟨offset, i, rfl, hlookup, hkind, henumeration⟩ := h.exists_enumeration he
  obtain ⟨labels, hlabels, h⟩ := Except.bind_eq_ok_iff.mp henumeration
  obtain rfl := Except.ok.inj h
  obtain rfl := Option.some.inj he
  refine ⟨⟨i, labels, .here hlookup, hasTag_enumeration hkind, hlabels, rfl⟩, ?_⟩
  intro hname
  refine ⟨i, .here hlookup, ?_⟩
  cases hi : t.tree.name? i with
  | none => simp [Enumeration.hasName, hi] at hname
  | some name => rfl

theorem Origin.continues {next : Option Nat} {layer : Layer} {inner : NativeType}
    (h : t.Continues reference layer next) (hinner : ∀ e ∈ inner.enumeration, t.Origin next e)
    (he : e ∈ (layer.apply inner).enumeration) : t.Origin reference e := by
  have hbehind {e : Enumeration} (he : e ∈ inner.enumeration) : t.Origin reference e := by
    obtain ⟨⟨i, labels, hi, hvalues⟩, hname⟩ := hinner e he
    refine ⟨⟨i, labels, h.reached hi, hvalues⟩, ?_⟩
    intro hnamed
    obtain ⟨j, hj, hjname⟩ := hname hnamed
    exact ⟨j, h.reached hj, hjname⟩
  cases h with
  | @typedef offset i hlookup _ _ =>
    rw [Layer.apply] at he
    split at he
    · obtain ⟨e', he', rfl⟩ := Option.map_eq_some_iff.mp he
      rw [Enumeration.named]
      split
      · exact hbehind he'
      · exact ⟨(hbehind he').values, fun _ => ⟨i, .here hlookup, rfl⟩⟩
    · exact hbehind he
  | qualifier _ _ _ => exact hbehind he
  | constReference _ _ _ _ _ =>
    rw [Layer.apply] at he
    split at he
    · exact hbehind he
    · cases he

theorem origin_of_describe (h : t.describe reference = .ok type) : ∀ e ∈ type.enumeration, t.Origin reference e :=
  describe_induction (P := fun reference type => ∀ e ∈ type.enumeration, t.Origin reference e)
    (fun h _ he => origin_of_ends h he) (fun h hinner _ he => Origin.continues h hinner he) h

end TypeTable

namespace Target

variable {c : Target} {method : Nat} {siblings methods : List Nat}

/-- The enumerations of a method: those of its parameters, then that of its result. -/
def namedEnumerations (c : Target) (method : Nat) : List (String × EnumValues) :=
  (c.parameters method ++ [method]).filterMap fun i => c.types.namedEnumeration? (c.tree.typeReference? i)

/-- The binding of a method that has one. -/
def boundAs? (c : Target) (siblings : List Nat) (method : Nat) : Option Binding :=
  (c.binding? method siblings).toOption.join

def boundMethods (c : Target) : List Nat :=
  (c.tree.publicMethods c.place).filter fun m => (c.boundAs? (c.tree.publicMethods c.place) m).isSome

/-- The enumerations that the methods with a binding refer to, reference by reference. -/
def references (c : Target) : List (String × EnumValues) := c.boundMethods.flatMap c.namedEnumerations

theorem map_entry_filter (es : List Enumeration) :
    (es.filter (·.hasName)).map (·.entry) = es.filterMap fun e => (given e.name).map (·, e.values) := by
  have hentry (e : Enumeration) :
      (if e.hasName then some e else none).map (·.entry) = (given e.name).map (·, e.values) := by
    obtain ⟨name, values⟩ := e
    cases name with
    | none => rfl
    | some name =>
      by_cases hname : name = ""
      · simp [Enumeration.hasName, given, Option.filter, hname]
      · simp [Enumeration.hasName, Enumeration.entry, given, Option.filter, hname]
  rw [← List.filterMap_eq_filter, List.map_filterMap]
  exact List.filterMap_congr fun e _ => hentry e

theorem filterMap_of_mapM {α β γ : Type} {f : α → Except Fault β} {l : List α} {bs : List β}
    (h : l.mapM f = .ok bs) (g : β → Option γ) : l.filterMap (fun a => (f a).toOption.bind g) = bs.filterMap g := by
  have h₂ := mapM_eq_ok_iff.mp h
  clear h
  induction h₂ with
  | nil => rfl
  | cons hb _ ih => rw [List.filterMap_cons, List.filterMap_cons, ih, hb]; rfl

theorem map_entry_enumerations {b : Binding} (h : c.binding? method siblings = .ok (some b)) :
    b.enumerations.map (·.entry) = c.namedEnumerations method := by
  obtain ⟨m, haccepts, hbind⟩ := exists_bind_of_binding? h
  have htypes : (c.parameters method ++ [method]).mapM (fun i => c.types.describe (c.tree.typeReference? i)) =
      .ok (m.parameters ++ [m.result]) := by
    apply mapM_eq_ok_iff.mpr
    exact List.rel_append (mapM_eq_ok_iff.mp haccepts.parameters) (.cons haccepts.result .nil)
  rw [enumerations_of_bind hbind, enumerationsOf, map_entry_filter, List.filterMap_filterMap]
  exact (filterMap_of_mapM htypes _).symm

theorem origin_of_mem_namedEnumerations {r : String × EnumValues} (h : r ∈ c.namedEnumerations method) :
    r.1 ≠ "" ∧ ∃ i ∈ c.parameters method ++ [method],
      c.types.Origin (c.tree.typeReference? i) ⟨some r.1, r.2⟩ := by
  obtain ⟨i, hi, h⟩ := List.mem_filterMap.mp h
  obtain ⟨type, htype, h⟩ := Option.bind_eq_some_iff.mp h
  obtain ⟨e, he, h⟩ := Option.bind_eq_some_iff.mp h
  obtain ⟨name, hname, rfl⟩ := Option.map_eq_some_iff.mp h
  have hdescribe : c.types.describe (c.tree.typeReference? i) = .ok type := by
    cases hresult : c.types.describe (c.tree.typeReference? i) with
    | error fault => simp [hresult, Except.toOption] at htype
    | ok found => simpa [hresult, Except.toOption] using htype
  obtain ⟨hname, hne⟩ := Option.filter_eq_some_iff.mp hname
  have hsame : e = ⟨some name, e.values⟩ := by
    obtain ⟨label, values⟩ := e
    obtain rfl : label = some name := hname
    rfl
  exact ⟨of_decide_eq_true hne, i, hi, hsame ▸ TypeTable.origin_of_describe hdescribe e he⟩

theorem binding?_of_boundAs? {b : Binding} (h : c.boundAs? siblings method = some b) :
    c.binding? method siblings = .ok (some b) := by
  rw [boundAs?] at h
  cases hresult : c.binding? method siblings with
  | error fault => simp [hresult, Except.toOption] at h
  | ok outcome => simpa [hresult, Except.toOption] using h

theorem boundAs?_of_binding? {outcome : Option Binding} (h : c.binding? method siblings = .ok outcome) :
    c.boundAs? siblings method = outcome := by
  rw [boundAs?, h]
  rfl

theorem mem_boundMethods : method ∈ c.boundMethods ↔ method ∈ c.tree.publicMethods c.place ∧
    ∃ b, c.binding? method (c.tree.publicMethods c.place) = .ok (some b) := by
  rw [boundMethods, List.mem_filter, Option.isSome_iff_exists]
  exact and_congr_right fun _ => exists_congr fun b => ⟨binding?_of_boundAs?, boundAs?_of_binding?⟩

theorem mem_keys_references {name : String} : name ∈ Keyed.keys c.references ↔
    ∃ m ∈ c.boundMethods, ∃ values, (name, values) ∈ c.namedEnumerations m := by
  rw [Keyed.keys, List.mem_map]
  constructor
  · rintro ⟨r, hr, rfl⟩
    obtain ⟨m, hm, hr⟩ := List.mem_flatMap.mp hr
    exact ⟨m, hm, r.2, hr⟩
  · rintro ⟨m, hm, values, hvalues⟩
    exact ⟨(name, values), List.mem_flatMap.mpr ⟨m, hm, hvalues⟩, rfl⟩

theorem bindings_eq_filterMap {bindings : List Binding} (h : (c.bindings siblings methods).result = .ok bindings) :
    bindings = methods.filterMap (c.boundAs? siblings) := by
  induction methods generalizing bindings with
  | nil => exact (Except.ok.inj h).symm
  | cons method methods ih =>
    rw [Target.bindings] at h
    obtain ⟨outcome, houtcome, h, -⟩ := Report.exists_of_bind h
    cases outcome with
    | some b =>
      obtain ⟨rest, hrest, h, -⟩ := Report.exists_of_bind h
      obtain rfl := Except.ok.inj h
      rw [List.filterMap_cons_some (boundAs?_of_binding? houtcome), ih hrest]
    | none =>
      obtain ⟨_, _, h, _⟩ := Report.exists_of_bind h
      obtain ⟨_, _, h, _⟩ := Report.exists_of_bind h
      rw [List.filterMap_cons_none (boundAs?_of_binding? houtcome), ih h]

theorem map_entry_bindings (c : Target) (siblings methods : List Nat) :
    ((methods.filterMap (c.boundAs? siblings)).flatMap (·.enumerations)).map (·.entry) =
      (methods.filter fun m => (c.boundAs? siblings m).isSome).flatMap c.namedEnumerations := by
  induction methods with
  | nil => rfl
  | cons method methods ih =>
    cases hb : c.boundAs? siblings method with
    | none => rw [List.filterMap_cons_none hb, List.filter_cons_of_neg (by simp [hb]), ih]
    | some b =>
      rw [List.filterMap_cons_some hb, List.filter_cons_of_pos (by simp [hb]), List.flatMap_cons, List.map_append,
        List.flatMap_cons, ih, map_entry_enumerations (binding?_of_boundAs? hb)]

theorem latest_references {headerLine : String} {plan : Plan} (h : (c.plan headerLine).result = .ok plan) :
    Keyed.Latest c.references plan.enumerations := by
  obtain ⟨bindings, hbindings, rfl, -⟩ := exists_bindings h
  have hentries := c.map_entry_bindings (c.tree.publicMethods c.place) (c.tree.publicMethods c.place)
  rw [← bindings_eq_filterMap hbindings] at hentries
  change Keyed.Latest c.references (Registry.ofBindings bindings).enumerations
  rw [Registry.enumerations_ofBindings, hentries]
  exact Keyed.latest_ofPairs c.references

end Target

end ScriptBinding
