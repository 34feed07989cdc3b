import ScriptBinding.Proofs.Methods.Choice
import ScriptBinding.Proofs.Module.Depth
import ScriptBinding.Proofs.Module.Wiring

/-!
The blocks of a source file. Each piece of code is well nested wherever it is put, and so is the whole of them,
whichever names and texts stand within its lines.
-/

namespace ScriptBinding

open Code Dump

namespace Target

variable {c : Target} {m : Method} {depth : Nat}

theorem level_complaint (message : String) : Level (c.complaint m message) := by
  unfold complaint
  exact level_append (by decide) _

theorem nestsAt_receiverCode : NestsAt depth (c.receiverCode m) := by
  rw [receiverCode]
  cases m.receiver with
  | newObject | noObject => exact NestsAt.nil
  | thisObject =>
    have hpointer : Level "void* native_ptr;" := level_ofList (by decide)
    have hunwrap : NestsAt depth (Fragment.block ("if (!jerry_get_object_native_pointer(this_val, &native_ptr, &" ++
        c.scriptClass.nativeInfo ++ ")) \x7b") [c.complaint m ("this is not a " ++ c.scriptClass.name)]) := by
      apply NestsAt.block (opensBlock_append (by decide) _)
      · exact .inr (opensInside_of_condition (begins_between (by decide) _ _))
      · exact NestsAt.singleton (level_complaint _)
    exact (hunwrap.append (NestsAt.singleton (level_append (by decide) _))).cons hpointer

theorem nestsAt_checkCode (type : NativeType) (position : Nat) : NestsAt depth (c.checkCode m type position) := by
  apply NestsAt.block (opensBlock_append (by decide) _)
  · exact .inr (opensInside_of_condition (begins_between (by decide) _ _))
  · exact NestsAt.singleton (level_complaint _)

theorem level_readText (position : Int) (name : String) : ∀ line ∈ TypeTable.readText position name, Level line := by
  unfold TypeTable.readText
  simp only [List.forall_mem_cons, List.not_mem_nil, false_implies, implies_true, and_true]
  exact ⟨level_append (by decide) _, level_append (by decide) _, level_append (by decide) _,
    level_append (by decide) _⟩

theorem level_readCode (hc : c.types.handlers = []) {type : NativeType} {position : Nat} {code : Fragment}
    (h : c.readCode type position = .ok code) : ∀ line ∈ code, Level line := by
  have hnumber : EndsQuietly ("jerry_get_number_value(" ++ TypeTable.argument position ++ ");") :=
    (endsQuietly_ofList (by decide)).behind _
  rw [readCode, TypeTable.readArgument, TypeTable.handlerOf?_eq_none hc] at h
  cases hcategory : type.category with
  | string =>
    simp only [hcategory] at h
    rw [← Except.ok.inj h]
    exact level_readText position _
  | bool =>
    simp only [hcategory] at h
    rw [← Except.ok.inj h, List.forall_mem_singleton]
    exact level_append (by decide) _
  | int | float | enum =>
    simp only [hcategory] at h
    rw [← Except.ok.inj h, List.forall_mem_singleton]
    exact (hnumber.behind _).level
  | void | unsupported | custom => simp [hcategory] at h

theorem level_releaseCode (type : NativeType) (position : Nat) : ∀ line ∈ releaseCode type position, Level line := by
  intro line hline
  rw [releaseCode, TypeTable.release] at hline
  split at hline
  · rw [List.mem_singleton.mp hline]
    exact level_append (by decide) _
  · cases hline

theorem level_callAndResult {call result : String} (h : c.callAndResult m = .ok (call, result)) :
    Level call ∧ Level result := by
  have hcall : EndsQuietly (c.call m) := (endsQuietly_ofList (by decide)).behind _
  rw [callAndResult] at h
  split at h
  · obtain ⟨rfl, rfl⟩ := Prod.mk.inj (Except.ok.inj h)
    exact ⟨(hcall.behind _).level, level_append (by decide) _⟩
  · obtain ⟨rfl, rfl⟩ := Prod.mk.inj (Except.ok.inj h)
    exact ⟨hcall.level, level_ofList (by decide)⟩
  · obtain ⟨value, -, hpair⟩ := Except.map_eq_ok_iff.mp h
    obtain ⟨rfl, rfl⟩ := Prod.mk.inj hpair
    exact ⟨(hcall.behind _).level, level_append (by decide) _⟩

/-- A signature ends with a parenthesis, whatever stands in it. -/
theorem endsQuietly_signature {name : Option String} {parameters : List NativeType} {signature : String}
    (h : signatureOf name parameters = .ok signature) : EndsQuietly signature := by
  obtain ⟨spellings, -, rfl⟩ := Except.map_eq_ok_iff.mp h
  exact (endsQuietly_ofList (by decide)).behind _

theorem level_commentOf {isOverloaded : Bool} {code : Fragment} (h : commentOf m isOverloaded = .ok code) :
    ∀ line ∈ code, Level line := by
  rw [commentOf] at h
  split at h
  · obtain ⟨signature, hsignature, rfl⟩ := Except.map_eq_ok_iff.mp h
    rw [List.forall_mem_singleton]
    exact ((endsQuietly_signature hsignature).behind _).level
  · rw [← Except.ok.inj h]
    exact List.forall_mem_nil _

theorem nestsAt_body {isOverloaded : Bool} {body : MethodBody} (hc : c.types.handlers = [])
    (h : c.Writes m isOverloaded body) : NestsAt depth body.code := by
  have hreceiver : NestsAt depth body.receiver := by
    rw [h.receiver]
    exact nestsAt_receiverCode
  have hchecks : NestsAt depth body.checks.flatten := by
    rw [h.checks, ← List.flatMap_def]
    exact NestsAt.flatMap fun p _ => nestsAt_checkCode p.1 p.2
  have hreads : NestsAt depth body.reads.flatten := by
    apply NestsAt.flatten
    intro code hcode
    obtain ⟨p, -, hread⟩ := exists_of_mem_mapM h.reads hcode
    exact NestsAt.levels (level_readCode hc hread)
  have hreleases : NestsAt depth body.releases.flatten := by
    rw [h.releases, ← List.flatMap_def]
    exact NestsAt.flatMap fun p _ => NestsAt.levels (level_releaseCode p.1 p.2)
  obtain ⟨hcall, hresult⟩ := level_callAndResult h.call
  exact ((((((NestsAt.levels (level_commentOf h.comment)).append hreceiver).append hchecks).append hreads).append
    (NestsAt.singleton hcall)).append hreleases).append (NestsAt.singleton hresult)

theorem nestsAt_destructorCode : NestsAt 0 c.destructorCode := by
  have hcomment : NestsAt 0 (["/**"] ++ [" * " ++ c.scriptClass.name ++ "#destructor"] ++ [" */"]) := by
    apply NestsAt.comment
    rw [List.forall_mem_singleton]
    exact level_append (by decide) _
  have hfunction : NestsAt 0 (Fragment.block ("void " ++ c.scriptClass.destructor ++ "(void* native_p) \x7b")
      ["delete static_cast<" ++ c.className ++ "*>(native_p);"]) := by
    apply NestsAt.block (opensBlock_append (by decide) _) (.inl rfl)
    exact NestsAt.singleton (level_append (by decide) _)
  exact (hcomment.append hfunction).append
    ((NestsAt.singleton (level_append (by decide) _)).cons level_empty)

theorem nestsAt_propertyCode (d : Dispatcher) : NestsAt depth (propertyCode d) := by
  apply NestsAt.cons level_empty
  apply NestsAt.block (by decide) (.inr (.inl (by decide)))
  apply NestsAt.levels
  simp only [List.forall_mem_cons, List.not_mem_nil, false_implies, implies_true, and_true]
  exact ⟨level_append (by decide) _, level_append (by decide) _, level_ofList (by decide), level_ofList (by decide),
    level_ofList (by decide)⟩

theorem nestsAt_nativeWrapperCode (methods : List Dispatcher) : NestsAt 0 (c.nativeWrapperCode methods) := by
  have hcomment : NestsAt 0 (["/**"] ++ [" * Wrap a native " ++ c.className ++ " in a JavaScript object"] ++
      [" */"]) := by
    apply NestsAt.comment
    rw [List.forall_mem_singleton]
    exact level_append (by decide) _
  have hproperties : NestsAt 1 (methods.flatMap propertyCode) :=
    NestsAt.flatMap fun d _ => nestsAt_propertyCode d
  have hobject : Level "jerry_value_t js_obj = jerry_create_object();" := level_ofList (by decide)
  have hreturn : Level "return js_obj;" := level_ofList (by decide)
  apply hcomment.append
  apply NestsAt.block (opensBlock_append (by decide) _) (.inl rfl)
  exact (((NestsAt.singleton (level_append (by decide) _)).cons hobject).append hproperties).append
    ((NestsAt.singleton hreturn).cons level_empty)

end Target

theorem nestsAt_labelCode {depth : Nat} {label : String} {value : Int} {code : Fragment}
    (h : labelCode label value = .ok code) : NestsAt depth code := by
  unfold labelCode at h
  split at h
  · cases h
  · obtain rfl := Except.ok.inj h
    apply NestsAt.block (by decide) (.inr (.inl (by decide)))
    apply NestsAt.levels
    simp only [List.forall_mem_cons, List.not_mem_nil, false_implies, implies_true, and_true]
    exact ⟨level_append (by decide) _, level_append (by decide) _, level_ofList (by decide), level_ofList (by decide),
      level_ofList (by decide)⟩

theorem nestsAt_registrationCode {depth : Nat} {name : String} {values : EnumValues} {code : Fragment}
    (h : registrationCode name values = .ok code) : NestsAt depth code := by
  obtain ⟨labels, hlabels, rfl⟩ := Except.map_eq_ok_iff.mp h
  have hobject : Level "jerry_value_t enum_obj = jerry_create_object();" := level_ofList (by decide)
  have hvalues : NestsAt (depth + 1) labels.flatten := by
    apply NestsAt.flatten
    intro code hcode
    obtain ⟨v, -, hlabel⟩ := exists_of_mem_mapM hlabels hcode
    exact nestsAt_labelCode hlabel
  apply NestsAt.block (by decide) (.inr (.inl (by decide)))
  apply ((NestsAt.singleton hobject).gap.append hvalues).append
  apply NestsAt.levels
  simp only [List.forall_mem_cons, List.not_mem_nil, false_implies, implies_true, and_true]
  exact ⟨level_empty, level_ofList (by decide), level_append (by decide) _, level_ofList (by decide),
    level_ofList (by decide), level_ofList (by decide), level_ofList (by decide)⟩

namespace Plan

variable {p : Plan}

theorem nestsAt_dispatcherCode {d : Dispatcher} {label title : String}
    (hbodies : ∀ b ∈ d.overloads, NestsAt 2 (Fragment.ofText b.body))
    (hsignatures : ∀ b ∈ d.overloads, EndsQuietly b.signature) (htitle : EndsQuietly title) :
    NestsAt 0 (p.dispatcherCode d label title) := by
  have hcomment : NestsAt 0 (["/**"] ++ ([" * " ++ title] ++ (d.overloads.filter (·.signature ≠ "")).map
      (fun b => " *   " ++ p.className ++ "::" ++ b.signature)) ++ [" */"]) := by
    apply NestsAt.comment
    rw [List.forall_mem_append, List.forall_mem_singleton]
    refine ⟨(htitle.behind _).level, ?_⟩
    intro line hline
    obtain ⟨b, hb, rfl⟩ := List.mem_map.mp hline
    exact ((hsignatures b (List.mem_filter.mp hb).1).behind _).level
  have hguards : NestsAt 1 (d.overloads.flatMap guardCode) := by
    apply NestsAt.flatMap
    intro b hb
    apply NestsAt.block (opensBlock_append (by decide) _)
    · exact .inr (opensInside_of_condition (begins_between (by decide) _ _))
    · exact hbodies b hb
  have hselection : NestsAt 1 (selection d label) := hguards.append (NestsAt.singleton (level_append (by decide) _))
  have hfunction : NestsAt 0 (Fragment.block (dispatcherHeader d) (selection d label)) :=
    NestsAt.block (opensBlock_append (by decide) _) (.inl rfl) hselection
  exact hcomment.append hfunction

theorem nestsAt_initializerCode {code : Fragment} (h : p.initializerCode = .ok code) : NestsAt 0 code := by
  obtain ⟨registrations, hregistrations, rfl⟩ := Except.map_eq_ok_iff.mp h
  have hlines : NestsAt 1 (registrations.flatMap (· ++ [""])) := by
    apply NestsAt.flatMap
    intro code hcode
    obtain ⟨e, -, hregistration⟩ := exists_of_mem_mapM hregistrations hcode
    exact (nestsAt_registrationCode hregistration).gap
  apply NestsAt.block (opensBlock_append (by decide) _) (.inl rfl)
  exact hlines.append (NestsAt.singleton (level_append (by decide) _))

end Plan

namespace Target

variable {c : Target} {siblings : List Nat}

section Parts

variable (ht : c.tree.Flat) (hc : c.types.handlers = []) (hscript : OneLine c.scriptClass.name)
include ht hc hscript

theorem nestsAt_of_binding? {method : Nat} {b : Binding} (h : c.binding? method siblings = .ok (some b)) :
    NestsAt 2 (Fragment.ofText b.body) ∧ EndsQuietly b.signature := by
  obtain ⟨m, body, -, -, hwrites, hsignature, -, -, hbody⟩ := exists_body ht hc hscript h
  rw [hbody]
  exact ⟨nestsAt_body hc hwrites, endsQuietly_signature hsignature⟩

theorem Sources.nestsAt_dispatcher {d : Dispatcher} {sources : List Nat} (h : c.Sources siblings d sources) (p : Plan)
    (label : String) {title : String} (htitle : EndsQuietly title) :
    NestsAt 0 (p.sectionCode (.dispatcher d label title)) := by
  have hbound : ∀ b ∈ d.overloads, ∃ method, c.binding? method siblings = .ok (some b) := by
    intro b hb
    obtain ⟨method, -, hmethod⟩ := exists_of_mem_mapM h.overloads (List.mem_map_of_mem hb)
    exact ⟨method, hmethod⟩
  apply NestsAt.gap
  apply Plan.nestsAt_dispatcherCode
  · intro b hb
    obtain ⟨method, hmethod⟩ := hbound b hb
    exact (nestsAt_of_binding? ht hc hscript hmethod).1
  · intro b hb
    obtain ⟨method, hmethod⟩ := hbound b hb
    exact (nestsAt_of_binding? ht hc hscript hmethod).2
  · exact htitle

variable {headerLine : String} {bindings : List Binding} {bound : List (Nat × Binding)} {skipped : List Nat}
  (hdivided : c.Divided siblings siblings bound skipped) (hbound : bindings = bound.map (·.2))
include hdivided hbound

theorem nestsAt_parts {initializer : Fragment}
    (hinitializer : (c.planFor headerLine bindings).initializerCode = .ok initializer) :
    ∀ code ∈ ((c.planFor headerLine bindings).parts c.destructorCode.toText
      (c.nativeWrapperCode (c.naming.dispatch bindings).methods).toText initializer).all, NestsAt 0 code := by
  have hnames := isName_dispatchers ht hdivided hbound
  have hproperties := isName_properties ht hdivided hbound
  have hdestructor := (reads_destructorCode hscript (oneLine_className ht)).flat
  have hwrapper :=
    (reads_nativeWrapperCode (oneLine_className ht) hnames fun d hd => (hproperties d hd).2.2.oneLine).flat
  simp only [SourceParts.all, Plan.parts, List.forall_mem_append, List.forall_mem_cons, List.not_mem_nil, false_implies,
    implies_true, and_true]
  refine ⟨⟨?_, ?_⟩, ?_, ?_, ?_⟩
  · rw [Plan.sectionCode_fragment _ hdestructor (by simp [destructorCode])]
    exact nestsAt_destructorCode.gap
  · intro code hcode
    obtain ⟨d, hd, rfl⟩ := List.mem_map.mp hcode
    have hsources := hdivided.sources_of_mem_methods hbound hd
    exact hsources.nestsAt_dispatcher ht hc hscript _ _ ((endsQuietly_ofList (by decide)).behind _)
  · rw [Plan.sectionCode_fragment _ hwrapper (by simp [nativeWrapperCode])]
    exact (nestsAt_nativeWrapperCode _).gap
  · have hsources := hdivided.sources_constructor hbound
    exact hsources.nestsAt_dispatcher ht hc hscript _ _ ((endsQuietly_ofList (by decide)).behind _)
  · exact (Plan.nestsAt_initializerCode hinitializer).gap

end Parts

end Target

theorem Settings.nestsAt_headerLine {o : Options} {s : Settings} (h : Settings.ofOptions o = .ok s)
    (hclass : OneLine s.className) (hheader : ∀ file ∈ o.headerFile, OneLine file) :
    NestsAt 0 (Fragment.ofText s.headerLine) := by
  have hquiet : EndsQuietly s.headerLine := by
    rcases headerLine_cases h with ⟨file, -, hline⟩ | hline
    · rw [hline]
      exact (endsQuietly_ofList (by decide)).behind _
    · rw [hline]
      exact (endsQuietly_ofList (by decide)).behind _
  rw [Fragment.ofText_of_oneLine (oneLine_headerLine h hclass hheader)]
  exact NestsAt.singleton hquiet.level

theorem nestsAt_openingLines : NestsAt 0 openingLines := by
  apply NestsAt.levels
  simp only [openingLines, List.forall_mem_cons, List.not_mem_nil, false_implies, implies_true, and_true]
  exact ⟨level_ofList (by decide), level_empty, level_ofList (by decide), level_empty⟩

/-- The source of a module is well nested, whatever stands in the names that go into its lines. -/
theorem wellNested_package {text : String} {tree : Tree} {o : Options} {s : Settings} {package : Package}
    (ht : Tree.parse text = .ok tree) (ho : Settings.ofOptions o = .ok s) (hname : OneLine s.scriptName)
    (hheader : ∀ file ∈ o.headerFile, OneLine file) (h : (s.package [] tree).result = .ok package) :
    WellNested (Fragment.ofText package.source) := by
  obtain ⟨place, hplace, h, -⟩ := Report.exists_of_bind h
  obtain ⟨plan, hplan, hpackage, -⟩ := Report.exists_of_bind h
  obtain ⟨bindings, bound, skipped, initializer, rfl, hdivided, hbound, hinitializer, hsource, hmanifest⟩ :=
    Target.exists_planned hplan hpackage
  have hflat : (Target.mk ⟨tree, []⟩ place ⟨s.scriptName⟩).tree.Flat := Tree.flat_of_parse ht
  have hclass : OneLine s.className := hflat.name? (Tree.name_of_findClass hplace)
  have hlines := (hdivided.linked hflat rfl hname hbound hinitializer hsource hmanifest).source
  have hparts := Target.nestsAt_parts hflat rfl hname hdivided hbound hinitializer
  rw [hlines]
  exact ((nestsAt_openingLines.append (Settings.nestsAt_headerLine ho hclass hheader)).gap).append
    (NestsAt.flatten hparts)

/-- A class whose name ends like the header of a block, with two overloads of a method. -/
def braceLines : List (List Char) := [
  " <0><b>: Abbrev Number: 1 (DW_TAG_class_type)".toList,
  " <c> DW_AT_name:Pin \x7b".toList,
  " <1><10>: Abbrev Number: 2 (DW_TAG_subprogram)".toList,
  " <11> DW_AT_name:set".toList,
  " <12> DW_AT_accessibility:1 (public)".toList,
  " <2><13>: Abbrev Number: 3 (DW_TAG_formal_parameter)".toList,
  " <14> DW_AT_artificial:1".toList,
  " <2><18>: Abbrev Number: 3 (DW_TAG_formal_parameter)".toList,
  " <19> DW_AT_type:<0x30>".toList,
  " <1><20>: Abbrev Number: 2 (DW_TAG_subprogram)".toList,
  " <21> DW_AT_name:set".toList,
  " <22> DW_AT_accessibility:1 (public)".toList,
  " <0><30>: Abbrev Number: 4 (DW_TAG_base_type)".toList,
  " <31> DW_AT_name:bool".toList]

def braceTree : Tree := .ofEntries [
  ⟨"class_type", 0xb, 0, [("name", "Pin \x7b")]⟩,
  ⟨"subprogram", 0x10, 1, [("name", "set"), ("accessibility", "1 (public)")]⟩,
  ⟨"formal_parameter", 0x13, 2, [("artificial", "1")]⟩,
  ⟨"formal_parameter", 0x18, 2, [("type", "<0x30>")]⟩,
  ⟨"subprogram", 0x20, 1, [("name", "set"), ("accessibility", "1 (public)")]⟩,
  ⟨"base_type", 0x30, 0, [("name", "bool")]⟩]

def braceOptions : Options := { symbolsFile := "pin.txt", className := "Pin \x7b", scriptName := "Pin \x7d" }

def braceSettings : Settings where
  symbolsFile := "pin.txt"
  className := "Pin \x7b"
  scriptName := "Pin \x7d"
  library := "pin \x7d"
  headerLine := "// @todo: add a reference to the Pin \x7b header here"

theorem wellNested_package_brace :
    Tree.parse (String.ofList (['\n'].intercalate braceLines)) = .ok braceTree ∧
      Settings.ofOptions braceOptions = .ok braceSettings ∧ OneLine braceSettings.scriptName ∧
      ∃ package, (braceSettings.package [] braceTree).result = .ok package ∧
        WellNested (Fragment.ofText package.source) := by
  have hparse : Tree.parse (String.ofList (['\n'].intercalate braceLines)) = .ok braceTree := by
    rw [Tree.parse, String.toList_ofList, braceLines]
    repeat rw [String.toList_ofList]
    decide +kernel
  have hsettings : Settings.ofOptions braceOptions = .ok braceSettings := by decide +kernel
  have hname : OneLine braceSettings.scriptName := by decide
  have hok : (braceSettings.package [] braceTree).result.toOption.isSome = true := by decide +kernel
  cases hresult : (braceSettings.package [] braceTree).result with
  | error fault =>
    rw [hresult] at hok
    cases hok
  | ok package =>
    have hheader : ∀ file ∈ braceOptions.headerFile, OneLine file := by
      intro file hfile
      cases hfile
    exact ⟨hparse, hsettings, hname, package, rfl, wellNested_package hparse hsettings hname hheader hresult⟩

end ScriptBinding
