import ScriptBinding.Generation
import ScriptBinding.Proofs.Code.OneLine
import ScriptBinding.Proofs.Dump.Reading
import ScriptBinding.Proofs.Methods.Grouping

/-!
Where the public methods of a class go. Each of them is behind one dispatcher or is reported as skipped, and
both sides keep the order of declaration.
-/

namespace ScriptBinding

open Code Dump

theorem Report.exists_of_bind {α β : Type} {r : Report α} {f : α → Report β} {b : β}
    (h : (r >>= f).result = .ok b) :
    ∃ a, r.result = .ok a ∧ (f a).result = .ok b ∧ (r >>= f).lines = r.lines ++ (f a).lines := by
  change (r.bind f).result = .ok b at h
  change ∃ a, r.result = .ok a ∧ (f a).result = .ok b ∧ (r.bind f).lines = r.lines ++ (f a).lines
  unfold Report.bind at h ⊢
  cases hr : r.result with
  | ok a =>
    rw [hr] at h
    exact ⟨a, rfl, h, rfl⟩
  | error fault =>
    rw [hr] at h
    cases h

theorem Settings.package_of_findClass {s : Settings} {handlers : Keyed String Handler} {tree : Tree} {place : Nat}
    (h : tree.findClass s.className = .ok place) :
    s.package handlers tree = (Target.plan ⟨⟨tree, handlers⟩, place, ⟨s.scriptName⟩⟩ s.headerLine).bind
      fun plan => .ofResult (plan.package s.library) := by
  rw [Settings.package, h]
  rfl

theorem Settings.package_of_notFound {s : Settings} {handlers : Keyed String Handler} {tree : Tree} {fault : Fault}
    (h : tree.findClass s.className = .error fault) : s.package handlers tree = ⟨[], .error fault⟩ := by
  rw [Settings.package, h]
  rfl

namespace Target

structure Divided (c : Target) (siblings methods : List Nat) (bound : List (Nat × Binding))
    (skipped : List Nat) : Prop where
  once : (bound.map (·.1) ++ skipped).Perm methods
  kept : (bound.map (·.1)).Sublist methods
  left : skipped.Sublist methods
  binding : ∀ p ∈ bound, c.binding? p.1 siblings = .ok (some p.2)
  rejected : ∀ m ∈ skipped, c.binding? m siblings = .ok none

variable {c : Target} {siblings methods skipped : List Nat} {bound : List (Nat × Binding)} {method : Nat}

theorem Divided.accept (h : c.Divided siblings methods bound skipped) {b : Binding}
    (hb : c.binding? method siblings = .ok (some b)) :
    c.Divided siblings (method :: methods) ((method, b) :: bound) skipped where
  once := h.once.cons method
  kept := h.kept.cons_cons method
  left := h.left.cons method
  binding := List.forall_mem_cons.mpr ⟨hb, h.binding⟩
  rejected := h.rejected

theorem Divided.skip (h : c.Divided siblings methods bound skipped) (hm : c.binding? method siblings = .ok none) :
    c.Divided siblings (method :: methods) bound (method :: skipped) where
  once := List.perm_middle.trans (h.once.cons method)
  kept := h.kept.cons method
  left := h.left.cons_cons method
  binding := h.binding
  rejected := List.forall_mem_cons.mpr ⟨hm, h.rejected⟩

theorem divided_of_bindings {bindings : List Binding}
    (h : (c.bindings siblings methods).result = .ok bindings) :
    ∃ bound skipped signatures, c.Divided siblings methods bound skipped ∧ bindings = bound.map (·.2) ∧
      skipped.mapM c.signature = .ok signatures ∧
      (c.bindings siblings methods).lines = signatures.map skipWarning := by
  induction methods generalizing bindings with
  | nil =>
    obtain rfl := Except.ok.inj h
    exact ⟨[], [], [], ⟨.refl _, .refl _, .refl _, by simp, by simp⟩, rfl, rfl, rfl⟩
  | cons method methods ih =>
    rw [Target.bindings] at h ⊢
    obtain ⟨outcome, houtcome, h, hlines⟩ := Report.exists_of_bind h
    rw [hlines]
    cases outcome with
    | some b =>
      obtain ⟨rest, hrest, h, hlines⟩ := Report.exists_of_bind h
      obtain ⟨bound, skipped, signatures, hdivided, rfl, hsignatures, hsaid⟩ := ih hrest
      obtain rfl := Except.ok.inj h
      refine ⟨(method, b) :: bound, skipped, signatures, hdivided.accept houtcome, rfl, hsignatures, ?_⟩
      dsimp only at hlines ⊢
      rw [hlines, hsaid]
      exact List.append_nil _
    | none =>
      obtain ⟨signature, hsignature, h, hlines⟩ := Report.exists_of_bind h
      obtain ⟨-, -, h, hlines'⟩ := Report.exists_of_bind h
      obtain ⟨bound, skipped, signatures, hdivided, rfl, hsignatures, hsaid⟩ := ih h
      refine ⟨bound, method :: skipped, signature :: signatures, hdivided.skip houtcome, rfl, ?_, ?_⟩
      · exact mapM_eq_ok_iff.mpr (.cons hsignature (mapM_eq_ok_iff.mp hsignatures))
      · dsimp only at hlines hlines' ⊢
        rw [hlines, hlines', hsaid]
        rfl

/-- The methods behind a dispatcher: their bindings are its overloads, in the order of declaration. -/
structure Sources (c : Target) (methods : List Nat) (d : Dispatcher) (sources : List Nat) : Prop where
  sublist : sources.Sublist methods
  overloads : sources.mapM (fun m => c.binding? m methods) = .ok (d.overloads.map some)
  member : ∀ b ∈ d.overloads, b.member = d.member

def sourcesOf (bound : List (Nat × Binding)) (member : Member) : List Nat :=
  (bound.filter (·.2.member = member)).map (·.1)

theorem Divided.sources (h : c.Divided methods methods bound skipped) {d : Dispatcher}
    (hd : d.overloads = (bound.map (·.2)).filter (·.member = d.member)) :
    c.Sources methods d (sourcesOf bound d.member) where
  sublist := (List.filter_sublist.map _).trans h.kept
  overloads := by
    apply mapM_eq_ok_iff.mpr
    rw [hd, List.filter_map, List.map_map, sourcesOf, List.forall₂_map_left_iff, List.forall₂_map_right_iff]
    apply List.forall₂_same.mpr
    intro p hp
    exact h.binding p (List.mem_filter.mp hp).1
  member := by
    intro b hb
    rw [hd] at hb
    simpa using (List.mem_filter.mp hb).2

theorem perm_sourcesOf {members : List Member} (hnodup : members.Nodup)
    (hall : ∀ p ∈ bound, p.2.member ∈ members) :
    (members.flatMap (sourcesOf bound)).Perm (bound.map (·.1)) := by
  have hfilter : bound.filter (fun p => decide (p.2.member ∈ members)) = bound :=
    List.filter_eq_self.mpr fun p hp => by simpa using hall p hp
  have hperm := (perm_flatMap_filter (f := fun p : Nat × Binding => p.2.member) hnodup bound).map (·.1)
  rw [hfilter, List.map_flatMap] at hperm
  exact hperm

theorem take_sourcesOf (member : Member) :
    (sourcesOf bound member).take 1 = ((bound.find? (·.2.member = member)).map (·.1)).toList := by
  rw [sourcesOf, ← List.head?_filter, ← List.map_take]
  cases bound.filter (·.2.member = member) with
  | nil => rfl
  | cons p rest => rfl

/-- The first methods of the members stand in the order in which the members first come. -/
theorem sublist_take_sourcesOf (keep : Member → Bool) :
    (((firstOccurrences [] (bound.map (·.2.member))).filter keep).flatMap
      fun member => (sourcesOf bound member).take 1).Sublist (bound.map (·.1)) := by
  have hfirst := (sublist_firstOccurrences (f := fun p : Nat × Binding => p.2.member) [] bound).map (·.1)
  have hkept := (List.filter_sublist (p := keep)
    (l := firstOccurrences [] (bound.map (·.2.member)))).filterMap fun member =>
      (bound.find? (·.2.member = member)).map (·.1)
  rw [List.map_filterMap] at hfirst
  simp only [take_sourcesOf, ← List.filterMap_eq_flatMap_toList]
  exact hkept.trans hfirst

end Target

section Warnings

theorem getLast?_skipWarning {name : Option String} {parameters : List NativeType} {signature : String}
    (h : signatureOf name parameters = .ok signature) :
    (skipWarning signature).toList.getLast? = some ')' := by
  obtain ⟨spellings, -, rfl⟩ := Except.map_eq_ok_iff.mp h
  apply getLast?_append_of_getLast?
  exact getLast?_append_of_getLast? (by decide)

theorem Registry.exists_of_mem_warnings {bindings : List Binding} {line : String}
    (h : line ∈ (ofBindings bindings).warnings) : ∃ name, line = conflictWarning name := by
  have hfold (es : List Enumeration) (r : Registry) (hr : line ∈ (es.foldl add r).warnings) :
      line ∈ r.warnings ∨ ∃ name, line = conflictWarning name := by
    induction es generalizing r with
    | nil => exact .inl hr
    | cons e es ih =>
      rcases ih (r.add e) hr with hr | hr
      · rw [add] at hr
        dsimp only at hr
        split at hr
        · rcases List.mem_append.mp hr with hr | hr
          · exact .inl hr
          · exact .inr ⟨_, List.mem_singleton.mp hr⟩
        · exact .inl hr
      · exact .inr hr
  rcases hfold _ {} h with hnone | hname
  · cases hnone
  · exact hname

theorem Naming.mem_warnings {n : Naming} {bindings : List Binding} {line : String}
    (h : line ∈ (n.dispatch bindings).warnings) :
    line = n.noConstructorWarning ∨ ∃ member arity, line = n.ambiguityWarning member arity := by
  rcases List.mem_append.mp h with h | h
  · left
    split at h
    · exact List.mem_singleton.mp h
    · cases h
  · right
    obtain ⟨d, -, hd⟩ := List.mem_flatMap.mp h
    obtain ⟨arity, -, rfl⟩ := List.mem_map.mp hd
    exact ⟨d.member, arity, rfl⟩

/-- What is said of the dispatchers and of the enumerations cannot be taken for the report of a method: a
signature ends with a parenthesis. -/
theorem skipWarning_notMem_warnings {n : Naming} {bindings : List Binding} {name : Option String}
    {parameters : List NativeType} {signature : String} (h : signatureOf name parameters = .ok signature) :
    skipWarning signature ∉ (n.dispatch bindings).warnings ++ (Registry.ofBindings bindings).warnings := by
  have hlast := getLast?_skipWarning h
  generalize skipWarning signature = line at hlast
  intro hmem
  have hother (c : Char) (hc : line.toList.getLast? = some c) : c = ')' :=
    Option.some.inj (hc.symm.trans hlast)
  rcases List.mem_append.mp hmem with hmem | hmem
  · rcases Naming.mem_warnings hmem with rfl | ⟨member, arity, rfl⟩
    · exact absurd (hother 'd' (getLast?_append_of_getLast? (by decide))) (by decide)
    · exact absurd (hother 's' (getLast?_append_of_getLast? (by decide))) (by decide)
  · obtain ⟨enumeration, rfl⟩ := Registry.exists_of_mem_warnings hmem
    exact absurd (hother 'e' (getLast?_append_of_getLast? (by decide))) (by decide)

end Warnings

/-- The methods behind the dispatchers of a plan and those that were skipped, with the lines said of these
and the lines said afterwards. -/
structure Ledger where
  grouped : List (List Nat)
  made : List Nat
  skipped : List Nat
  signatures : List String
  warnings : List String

/-- Every method has one place, and the order of methods is that of the groups, within each of them, and of
the reports. -/
structure Ledger.Balanced (l : Ledger) (c : Target) (methods : List Nat) (plan : Plan) (lines : List String) :
    Prop where
  once : (l.grouped.flatten ++ l.made ++ l.skipped).Perm methods
  grouped : List.Forall₂ (c.Sources methods) plan.methods l.grouped
  made : c.Sources methods plan.constructor l.made
  members : ((plan.methods ++ [plan.constructor]).map (·.member)).Nodup
  constructor : plan.constructor.member = .constructor
  inhabited : [] ∉ l.grouped
  ordered : (l.grouped.flatMap (·.take 1)).Sublist methods
  skipped : l.skipped.Sublist methods
  rejected : ∀ m ∈ l.skipped, c.binding? m methods = .ok none
  signatures : l.skipped.mapM c.signature = .ok l.signatures
  lines : lines = l.signatures.map skipWarning ++ l.warnings
  others : ∀ m signature, c.signature m = .ok signature → skipWarning signature ∉ l.warnings

namespace Target

variable {c : Target}

def naming (c : Target) : Naming := ⟨c.scriptClass, c.scriptClass.helpers⟩

def planFor (c : Target) (headerLine : String) (bindings : List Binding) : Plan where
  className := c.className
  scriptClass := c.scriptClass
  headerLine
  destructor := some c.destructorCode.toText
  nativeWrapper := some (c.nativeWrapperCode (c.naming.dispatch bindings).methods).toText
  methods := (c.naming.dispatch bindings).methods
  constructor := (c.naming.dispatch bindings).constructor
  enumerations := (Registry.ofBindings bindings).enumerations

def planned (c : Target) (headerLine : String) (bindings : List Binding) : Report Plan :=
  ⟨(c.naming.dispatch bindings).warnings ++ (Registry.ofBindings bindings).warnings,
    .ok (c.planFor headerLine bindings)⟩

theorem plan_eq (headerLine : String) :
    c.plan headerLine =
      (c.bindings (c.tree.publicMethods c.place) (c.tree.publicMethods c.place)).bind (c.planned headerLine) := by
  have hplanned (bindings : List Binding) : (Report.say (c.naming.dispatch bindings).warnings).bind (fun _ =>
      (Report.say (Registry.ofBindings bindings).warnings).bind fun _ =>
        Report.pure (c.planFor headerLine bindings)) = c.planned headerLine bindings := by
    simp [Report.say, Report.bind, Report.pure, planned]
  exact congrArg (Report.bind _) (funext hplanned)

theorem exists_bindings {headerLine : String} {plan : Plan} (h : (c.plan headerLine).result = .ok plan) :
    ∃ bindings, (c.bindings (c.tree.publicMethods c.place) (c.tree.publicMethods c.place)).result = .ok bindings ∧
      plan = c.planFor headerLine bindings ∧
      (c.plan headerLine).lines =
        (c.bindings (c.tree.publicMethods c.place) (c.tree.publicMethods c.place)).lines ++
          ((c.naming.dispatch bindings).warnings ++ (Registry.ofBindings bindings).warnings) := by
  obtain ⟨bindings, hbindings, h, hlines⟩ := Report.exists_of_bind h
  obtain ⟨-, -, h, hlines'⟩ := Report.exists_of_bind h
  obtain ⟨-, -, h, hlines''⟩ := Report.exists_of_bind h
  refine ⟨bindings, hbindings, (Except.ok.inj h).symm, ?_⟩
  refine hlines.trans (congrArg _ (hlines'.trans (congrArg _ (hlines''.trans ?_))))
  exact List.append_nil _

variable {methods : List Nat} {bound : List (Nat × Binding)} {skipped : List Nat}

theorem Divided.sources_of_mem_methods (h : c.Divided methods methods bound skipped) {bindings : List Binding}
    (hbound : bindings = bound.map (·.2)) {d : Dispatcher} (hd : d ∈ (c.naming.dispatch bindings).methods) :
    c.Sources methods d (sourcesOf bound d.member) := by
  apply h.sources
  rw [← hbound]
  exact Naming.overloads_of_mem_methods hd

theorem Divided.sources_constructor (h : c.Divided methods methods bound skipped) {bindings : List Binding}
    (hbound : bindings = bound.map (·.2)) :
    c.Sources methods (c.naming.dispatch bindings).constructor (sourcesOf bound .constructor) := by
  have hoverloads := c.naming.overloads_constructor bindings
  have hmember := c.naming.member_constructor bindings
  rw [← hmember] at hoverloads ⊢
  apply h.sources
  rw [← hbound]
  exact hoverloads

theorem Divided.balanced (h : c.Divided methods methods bound skipped) {bindings : List Binding}
    (hbound : bindings = bound.map (·.2)) {signatures : List String}
    (hsignatures : skipped.mapM c.signature = .ok signatures) (headerLine : String) :
    ∃ ledger : Ledger, ledger.Balanced c methods (c.planFor headerLine bindings)
      (signatures.map skipWarning ++
        ((c.naming.dispatch bindings).warnings ++ (Registry.ofBindings bindings).warnings)) := by
  have hnodup := c.naming.nodup_members bindings
  have hconstructor := c.naming.member_constructor bindings
  have hmembers := c.naming.map_member_methods bindings
  have hall : ∀ p ∈ bound, p.2.member ∈ ((c.naming.dispatch bindings).methods ++
      [(c.naming.dispatch bindings).constructor]).map (·.member) := by
    intro p hp
    apply c.naming.mem_members
    rw [hbound]
    exact List.mem_map_of_mem hp
  rw [hbound, List.map_map] at hmembers
  refine ⟨⟨(c.naming.dispatch bindings).methods.map fun d => sourcesOf bound d.member,
    sourcesOf bound .constructor, skipped, signatures,
    (c.naming.dispatch bindings).warnings ++ (Registry.ofBindings bindings).warnings⟩, ?_⟩
  exact {
    once := by
      have hperm := perm_sourcesOf hnodup hall
      rw [List.map_append, List.flatMap_append, List.flatMap_map, List.map_singleton, List.flatMap_singleton,
        hconstructor] at hperm
      exact (hperm.append_right skipped).trans h.once
    grouped := by
      apply List.forall₂_map_right_iff.mpr
      apply List.forall₂_same.mpr
      intro d hd
      exact h.sources_of_mem_methods hbound hd
    made := h.sources_constructor hbound
    members := hnodup
    constructor := hconstructor
    inhabited := by
      intro hempty
      obtain ⟨d, hd, hnone⟩ := List.mem_map.mp hempty
      have hmember : d.member ∈ (c.naming.dispatch bindings).methods.map (·.member) := List.mem_map_of_mem hd
      rw [hbound, hmembers] at hmember
      -- A dispatcher is made for the member of some binding, so it has at least that source.
      obtain ⟨p, hp, hpd⟩ := List.mem_map.mp (mem_firstOccurrences.mp (List.mem_filter.mp hmember).1).1
      have hnone := List.filter_eq_nil_iff.mp (List.map_eq_nil_iff.mp hnone) p hp
      exact hnone (by simpa using hpd)
    ordered := by
      have hfirst := @sublist_take_sourcesOf bound fun member => decide (member ≠ .constructor)
      have htake := List.flatMap_map (·.member) (fun member => (sourcesOf bound member).take 1)
        (c.naming.dispatch bindings).methods
      rw [List.flatMap_map, ← htake, hbound, hmembers]
      exact hfirst.trans h.kept
    skipped := h.left
    rejected := h.rejected
    signatures := hsignatures
    lines := rfl
    others := by
      intro m signature hsignature
      obtain ⟨parameters, -, hs⟩ := Except.bind_eq_ok_iff.mp hsignature
      exact skipWarning_notMem_warnings hs }

theorem exists_balanced {headerLine : String} {plan : Plan} (h : (c.plan headerLine).result = .ok plan) :
    ∃ ledger : Ledger, ledger.Balanced c (c.tree.publicMethods c.place) plan (c.plan headerLine).lines := by
  obtain ⟨bindings, hbindings, rfl, hlines⟩ := exists_bindings h
  obtain ⟨bound, skipped, signatures, hdivided, hbound, hsignatures, hsaid⟩ := divided_of_bindings hbindings
  rw [hlines, hsaid]
  exact hdivided.balanced hbound hsignatures headerLine

/-- Every public method of the class is an overload of one dispatcher or is reported, and nothing else is:
the places are in the order of declaration. -/
theorem package_balanced {text : String} {tree : Tree} {s : Settings} {handlers : Keyed String Handler}
    {package : Package} (ht : Tree.parse text = .ok tree)
    (h : (s.package handlers tree).result = .ok package) :
    ∃ place plan, ∃ ledger : Ledger, tree.findClass s.className = .ok place ∧
      (∀ m, m ∈ tree.publicMethods place ↔ tree.parent? m = some place ∧ tree.hasTag "subprogram" m = true ∧
        tree.nodes[m]?.bind (·.access?) = some .isPublic) ∧
      (tree.publicMethods place).Pairwise (· < ·) ∧
      (Target.plan ⟨⟨tree, handlers⟩, place, ⟨s.scriptName⟩⟩ s.headerLine).result = .ok plan ∧
      plan.package s.library = .ok package ∧
      ledger.Balanced ⟨⟨tree, handlers⟩, place, ⟨s.scriptName⟩⟩ (tree.publicMethods place) plan
        (s.package handlers tree).lines := by
  have hlinked := linked_of_parse ht
  obtain ⟨place, hplace, h, hlines⟩ := Report.exists_of_bind h
  obtain ⟨plan, hplan, hpackage, hlines'⟩ := Report.exists_of_bind h
  obtain ⟨ledger, hledger⟩ := exists_balanced hplan
  have hsaid : (s.package handlers tree).lines =
      (Target.plan ⟨⟨tree, handlers⟩, place, ⟨s.scriptName⟩⟩ s.headerLine).lines :=
    hlines.trans ((List.nil_append _).trans (hlines'.trans (List.append_nil _)))
  refine ⟨place, plan, ledger, hplace, ?_, ?_, hplan, hpackage, hsaid ▸ hledger⟩
  · intro m
    rw [Tree.publicMethods, Tree.childrenTagged, List.mem_filter, List.mem_filter, hlinked.mem_children, and_assoc]
    cases tree.nodes[m]? <;> simp
  · exact ((hlinked.pairwise_children place).filter _).filter _

def ledLines : List (List Char) := [
  " <0><b>: Abbrev Number: 1 (DW_TAG_class_type)".toList,
  " <c> DW_AT_name:Led".toList,
  " <1><10>: Abbrev Number: 2 (DW_TAG_subprogram)".toList,
  " <11> DW_AT_name:on".toList,
  " <12> DW_AT_accessibility:1 (public)".toList,
  " <1><20>: Abbrev Number: 2 (DW_TAG_subprogram)".toList,
  " <21> DW_AT_name:off".toList,
  " <22> DW_AT_accessibility:1 (public)".toList,
  " <2><23>: Abbrev Number: 3 (DW_TAG_formal_parameter)".toList,
  " <24> DW_AT_type:<0x60>".toList,
  " <1><30>: Abbrev Number: 2 (DW_TAG_subprogram)".toList,
  " <31> DW_AT_name:reset".toList,
  " <32> DW_AT_accessibility:3 (private)".toList,
  " <1><40>: Abbrev Number: 2 (DW_TAG_subprogram)".toList,
  " <41> DW_AT_name:Led".toList,
  " <42> DW_AT_accessibility:1 (public)".toList,
  " <1><50>: Abbrev Number: 2 (DW_TAG_subprogram)".toList,
  " <51> DW_AT_name:on".toList,
  " <52> DW_AT_accessibility:1 (public)".toList]

def ledTree : Tree := .ofEntries [
  ⟨"class_type", 0xb, 0, [("name", "Led")]⟩,
  ⟨"subprogram", 0x10, 1, [("name", "on"), ("accessibility", "1 (public)")]⟩,
  ⟨"subprogram", 0x20, 1, [("name", "off"), ("accessibility", "1 (public)")]⟩,
  ⟨"formal_parameter", 0x23, 2, [("type", "<0x60>")]⟩,
  ⟨"subprogram", 0x30, 1, [("name", "reset"), ("accessibility", "3 (private)")]⟩,
  ⟨"subprogram", 0x40, 1, [("name", "Led"), ("accessibility", "1 (public)")]⟩,
  ⟨"subprogram", 0x50, 1, [("name", "on"), ("accessibility", "1 (public)")]⟩]

def ledSettings : Settings := ⟨"led.txt", "Led", "Led", "led", "#include \"led.h\"", true, "output"⟩

theorem package_balanced_led :
    Tree.parse (String.ofList (['\n'].intercalate ledLines)) = .ok ledTree ∧
      ledTree.publicMethods 0 = [1, 2, 5, 6] ∧
      (ledSettings.package [] ledTree).lines = [
        "  >> warning: skipping off(?)",
        "  >> warning: Led#on has several overloads taking 0 argument(s), the first one wins"] ∧
      ∃ package place plan, ∃ ledger : Ledger, (ledSettings.package [] ledTree).result = .ok package ∧
        ledger.Balanced ⟨⟨ledTree, []⟩, place, ⟨"Led"⟩⟩ (ledTree.publicMethods place) plan
          (ledSettings.package [] ledTree).lines := by
  have hparse : Tree.parse (String.ofList (['\n'].intercalate ledLines)) = .ok ledTree := by
    rw [Tree.parse, String.toList_ofList, ledLines]
    repeat rw [String.toList_ofList]
    decide +kernel
  have hmethods : ledTree.publicMethods 0 = [1, 2, 5, 6] := by decide +kernel
  have hlines : (ledSettings.package [] ledTree).lines = [
      "  >> warning: skipping off(?)",
      "  >> warning: Led#on has several overloads taking 0 argument(s), the first one wins"] := by
    decide +kernel
  have hok : (ledSettings.package [] ledTree).result.toOption.isSome = true := by decide +kernel
  cases hresult : (ledSettings.package [] ledTree).result with
  | error fault =>
    rw [hresult] at hok
    cases hok
  | ok package =>
    obtain ⟨place, plan, ledger, -, -, -, -, -, hledger⟩ := package_balanced hparse hresult
    exact ⟨hparse, hmethods, hlines, package, place, plan, ledger, rfl, hledger⟩

end Target

end ScriptBinding
