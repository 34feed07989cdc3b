import ScriptBinding.Proofs.Methods.Choice
import ScriptBinding.Proofs.Module.Accounting
import ScriptBinding.Proofs.Module.Attachments
import ScriptBinding.Proofs.Module.Entries

/-!
A whole module. Each function that a part of the source file uses is defined in a part before it and only once,
under whatever name it has been given, and the manifest names the function that hands over the constructor.
-/

namespace ScriptBinding

open Code Dump

/-- The generated parts of a source file, in their order. -/
structure SourceParts where
  destructor : Fragment
  methods : List Fragment
  wrapper : Fragment
  constructor : Fragment
  initializer : Fragment

def SourceParts.all (p : SourceParts) : List Fragment :=
  [p.destructor] ++ p.methods ++ [p.wrapper, p.constructor, p.initializer]

namespace Plan

variable (p : Plan)

def parts (destructor nativeWrapper : String) (initializer : Fragment) : SourceParts where
  destructor := p.sectionCode (.fragment destructor)
  methods := p.methods.map fun d => p.sectionCode (p.methodSection d)
  wrapper := p.sectionCode (.fragment nativeWrapper)
  constructor := p.sectionCode p.constructorSection
  initializer := p.sectionCode (.initializer initializer)

theorem map_sectionCode (destructor nativeWrapper : String) (initializer : Fragment) :
    (p.sections destructor nativeWrapper initializer).map p.sectionCode =
      p.sectionCode (.preamble p.headerLine) :: (p.parts destructor nativeWrapper initializer).all := by
  simp [sections, parts, SourceParts.all]

theorem sectionCode_fragment {code : Fragment} (hflat : code.Flat) (hne : code ≠ []) :
    p.sectionCode (.fragment code.toText) = code ++ [""] := by
  rw [sectionCode, Fragment.ofText_toText hflat hne]

variable {p}

theorem exists_sections {library : String} {package : Package} (h : p.package library = .ok package) :
    ∃ destructor nativeWrapper initializer, p.destructor = some destructor ∧
      p.nativeWrapper = some nativeWrapper ∧ p.initializerCode = .ok initializer ∧
      package.source = Fragment.toText ((p.sections destructor nativeWrapper initializer).flatMap p.sectionCode) ∧
      package.manifest = Manifest.manifest (Text.lower library) p.scriptClass.init := by
  have hgiven {fragment : Option String} {fault : Fault} {text : String} (h : fragmentOf fragment fault = .ok text) :
      fragment = some text := by
    rw [fragmentOf] at h
    split at h
    · next hfilter =>
      obtain rfl := Except.ok.inj h
      exact (Option.filter_eq_some_iff.mp hfilter).1
    · cases h
  obtain ⟨destructor, hdestructor, h⟩ := Except.bind_eq_ok_iff.mp h
  obtain ⟨nativeWrapper, hwrapper, h⟩ := Except.bind_eq_ok_iff.mp h
  obtain ⟨source, hsource, h⟩ := Except.bind_eq_ok_iff.mp h
  obtain ⟨initializer, hinitializer, rfl⟩ := Except.map_eq_ok_iff.mp hsource
  obtain rfl := Except.ok.inj h
  exact ⟨destructor, nativeWrapper, initializer, hgiven hdestructor, hgiven hwrapper, hinitializer, rfl, rfl⟩

end Plan

/-- What the parts of a source file define and use. -/
structure SourceParts.Wired (p : SourceParts) (c : Target) (methods : List Nat) (plan : Plan) : Prop where
  destructor : Reads p.destructor [⟨.destructor, c.scriptClass.destructor⟩, ⟨.info, c.scriptClass.nativeInfo⟩] []
  methods : List.Forall₂ (fun d code => ∃ sources, c.Sources methods d sources ∧
    Reads code [⟨.dispatcher, d.functionName⟩]
      ((sources.filter fun m => !c.isStatic m).map fun _ => ⟨.unwraps, c.scriptClass.nativeInfo⟩))
    plan.methods p.methods
  wrapper : Reads p.wrapper [⟨.wrapper, c.scriptClass.wrapNative⟩]
    (⟨.marks, c.scriptClass.nativeInfo⟩ :: plan.methods.map fun d => ⟨.attaches, d.functionName⟩)
  constructor : Reads p.constructor [⟨.dispatcher, plan.constructor.functionName⟩]
    (plan.constructor.overloads.map fun _ => ⟨.wraps, c.scriptClass.wrapNative⟩)
  initializer : Reads p.initializer [⟨.entry, c.scriptClass.init⟩] [⟨.returns, plan.constructor.functionName⟩]
  attached : attachments p.wrapper = plan.methods.map fun d => (d.member.text, d.functionName)

namespace SourceParts.Wired

variable {p : SourceParts} {c : Target} {methods : List Nat} {plan : Plan} (h : p.Wired c methods plan)
include h

theorem flat : ∀ code ∈ p.all, code.Flat := by
  have hmethods : ∀ code ∈ p.methods, code.Flat := by
    intro code hcode
    obtain ⟨d, -, sources, -, hreads⟩ := exists_of_mem_forall₂ h.methods hcode
    exact hreads.flat
  simp only [SourceParts.all, List.forall_mem_append, List.forall_mem_cons, List.not_mem_nil, false_implies,
    implies_true, and_true]
  exact ⟨⟨h.destructor.flat, hmethods⟩, h.wrapper.flat, h.constructor.flat, h.initializer.flat⟩

theorem definitions_methods :
    p.methods.flatMap definitions = plan.methods.map fun d => ⟨.dispatcher, d.functionName⟩ := by
  have hmethods := h.methods
  generalize plan.methods = ds, p.methods = codes at hmethods
  induction hmethods with
  | nil => rfl
  | cons hcode _ ih =>
    obtain ⟨sources, -, hcode⟩ := hcode
    rw [List.flatMap_cons, hcode.definitions, ih, List.map_cons, List.singleton_append]

theorem definitions_all : p.all.flatMap definitions =
    [⟨.destructor, c.scriptClass.destructor⟩, ⟨.info, c.scriptClass.nativeInfo⟩] ++
      (plan.methods.map fun d => ⟨.dispatcher, d.functionName⟩) ++
      [⟨.wrapper, c.scriptClass.wrapNative⟩, ⟨.dispatcher, plan.constructor.functionName⟩,
        ⟨.entry, c.scriptClass.init⟩] := by
  rw [SourceParts.all, List.flatMap_append, List.flatMap_append, h.definitions_methods, List.flatMap_singleton,
    h.destructor.definitions, List.flatMap_cons, List.flatMap_cons, List.flatMap_cons, h.wrapper.definitions,
    h.constructor.definitions, h.initializer.definitions]
  rfl

theorem closed : Closed [] p.all := by
  have hinfo : (⟨.info, c.scriptClass.nativeInfo⟩ : Definition) ∈ definitions p.destructor := by
    rw [h.destructor.definitions]
    simp
  have hmethods : ∀ code ∈ p.methods, ∀ m ∈ mentions code, m.target ∈ definitions p.destructor := by
    intro code hcode m hm
    obtain ⟨d, -, sources, -, hreads⟩ := exists_of_mem_forall₂ h.methods hcode
    rw [hreads.mentions] at hm
    obtain ⟨-, -, rfl⟩ := List.mem_map.mp hm
    exact hinfo
  have hlast : Closed (definitions p.destructor ++ p.methods.flatMap definitions)
      [p.wrapper, p.constructor, p.initializer] := by
    rw [h.definitions_methods]
    refine ⟨?_, ?_, ?_, trivial⟩
    · rw [h.wrapper.mentions, List.forall_mem_cons]
      refine ⟨List.mem_append_left _ hinfo, ?_⟩
      intro m hm
      obtain ⟨d, hd, rfl⟩ := List.mem_map.mp hm
      exact List.mem_append_right _ (List.mem_map_of_mem hd)
    · rw [h.constructor.mentions, h.wrapper.definitions]
      intro m hm
      obtain ⟨-, -, rfl⟩ := List.mem_map.mp hm
      exact List.mem_append_right _ List.mem_cons_self
    · rw [h.initializer.mentions, h.constructor.definitions, List.forall_mem_singleton]
      exact List.mem_append_right _ List.mem_cons_self
  rw [SourceParts.all, closed_append, closed_append, List.nil_append, List.flatMap_append, List.flatMap_singleton]
  refine ⟨⟨⟨?_, trivial⟩, closed_of_forall hmethods⟩, hlast⟩
  rw [h.destructor.mentions]
  exact List.forall_mem_nil _

theorem entry : (p.all.flatMap definitions).filter (·.role = .entry) = [⟨.entry, c.scriptClass.init⟩] := by
  have hmethods : (plan.methods.map fun d => (⟨.dispatcher, d.functionName⟩ : Definition)).filter
      (·.role = .entry) = [] := by
    apply List.filter_eq_nil_iff.mpr
    intro d hd
    obtain ⟨-, -, rfl⟩ := List.mem_map.mp hd
    simp
  rw [h.definitions_all, List.filter_append, List.filter_append, hmethods]
  rfl

theorem once (hconstructor : plan.constructor.functionName = c.scriptClass.constructor)
    (hnames : (plan.methods.map (·.functionName) ++ c.scriptClass.fixedNames).Nodup) :
    ((p.all.flatMap definitions).map (·.name)).Nodup := by
  have hperm : ((p.all.flatMap definitions).map (·.name)).Perm
      (plan.methods.map (·.functionName) ++ c.scriptClass.fixedNames) := by
    apply List.perm_iff_count.mpr
    intro name
    rw [h.definitions_all, hconstructor, ScriptClass.fixedNames]
    simp only [List.map_append, List.map_map, List.map_cons, List.map_nil, List.count_append, List.count_cons,
      List.count_nil, Function.comp_def]
    omega
  exact hperm.nodup_iff.mpr hnames

end SourceParts.Wired

namespace Target

variable {c : Target} {siblings : List Nat}

section Sources

variable {d : Dispatcher} {sources : List Nat} (ht : c.tree.Flat) (hc : c.types.handlers = [])
  (hscript : OneLine c.scriptClass.name) (h : c.Sources siblings d sources)
include ht hc hscript h

theorem Sources.oneLine_signature : ∀ b ∈ d.overloads, OneLine b.signature := by
  intro b hb
  obtain ⟨method, -, hmethod⟩ := exists_of_mem_mapM h.overloads (List.mem_map_of_mem hb)
  obtain ⟨-, -, -, -, -, hsignature, -⟩ := exists_listing ht hc hscript hmethod
  exact hsignature

theorem Sources.mentions_method (hd : d.member ≠ .constructor) :
    (d.overloads.flatMap fun b => mentions (Fragment.ofText b.body)) =
      (sources.filter fun m => !c.isStatic m).map fun _ => ⟨.unwraps, c.scriptClass.nativeInfo⟩ := by
  have hmember := h.member
  have hoverloads := mapM_eq_ok_iff.mp h.overloads
  rw [List.forall₂_map_right_iff] at hoverloads
  generalize d.overloads = overloads at hmember hoverloads
  clear h
  induction hoverloads with
  | nil => rfl
  | @cons method b methods bs hmethod _ ih =>
    have hb : b.member ≠ .constructor := by
      rw [hmember b List.mem_cons_self]
      exact hd
    rw [List.flatMap_cons, mentions_body ht hc hscript hmethod, if_neg hb,
      ih fun b hb => hmember b (List.mem_cons_of_mem _ hb), List.filter_cons]
    cases c.isStatic method <;> rfl

theorem Sources.mentions_constructor (hd : d.member = .constructor) :
    (d.overloads.flatMap fun b => mentions (Fragment.ofText b.body)) =
      d.overloads.map fun _ => ⟨.wraps, c.scriptClass.wrapNative⟩ := by
  have hbody : ∀ b ∈ d.overloads, mentions (Fragment.ofText b.body) =
      [⟨.wraps, c.scriptClass.wrapNative⟩] := by
    intro b hb
    obtain ⟨method, -, hmethod⟩ := exists_of_mem_mapM h.overloads (List.mem_map_of_mem hb)
    have hmember : b.member = .constructor := (h.member b hb).trans hd
    rw [mentions_body ht hc hscript hmethod, if_pos hmember]
  rw [List.flatMap_congr hbody, List.map_eq_flatMap]

end Sources

variable {headerLine : String} {bindings : List Binding} {bound : List (Nat × Binding)} {skipped : List Nat}

theorem Divided.exists_of_mem_bindings (h : c.Divided siblings siblings bound skipped)
    (hbound : bindings = bound.map (·.2)) {b : Binding} (hb : b ∈ bindings) :
    ∃ m, c.binding? m siblings = .ok (some b) := by
  rw [hbound] at hb
  obtain ⟨p, hp, rfl⟩ := List.mem_map.mp hb
  exact ⟨p.1, h.binding p hp⟩

theorem oneLine_className (ht : c.tree.Flat) : OneLine c.className := by
  rw [className, className?]
  exact TypeTable.oneLine_qualifiedName ht c.place

section Parts

variable (ht : c.tree.Flat) (hdivided : c.Divided siblings siblings bound skipped)
  (hbound : bindings = bound.map (·.2))
include ht hdivided hbound

theorem isName_of_mem_bindings : ∀ b ∈ bindings, ∀ name, b.member = .method name → IsName name := by
  intro b hb name hmember
  obtain ⟨m, hm⟩ := hdivided.exists_of_mem_bindings hbound hb
  exact isName_of_binding? ht hm hmember

theorem isName_dispatchers : ∀ d ∈ (c.naming.dispatch bindings).methods, IsName d.functionName :=
  Naming.isName_functionName c.scriptClass (isName_of_mem_bindings ht hdivided hbound)

theorem isName_properties : ∀ d ∈ (c.naming.dispatch bindings).methods, IsName d.member.text := by
  intro d hd
  obtain ⟨b, hb, name, hname, hmember⟩ := Naming.exists_name_of_mem_methods hd
  rw [hname]
  exact isName_of_mem_bindings ht hdivided hbound b hb name hmember

theorem reads_wrapperPart (headerLine : String) : Reads ((c.planFor headerLine bindings).sectionCode
      (.fragment (c.nativeWrapperCode (c.naming.dispatch bindings).methods).toText))
    [⟨.wrapper, c.scriptClass.wrapNative⟩]
    (⟨.marks, c.scriptClass.nativeInfo⟩ ::
      (c.naming.dispatch bindings).methods.map fun d => ⟨.attaches, d.functionName⟩) ∧
    attachments ((c.planFor headerLine bindings).sectionCode
        (.fragment (c.nativeWrapperCode (c.naming.dispatch bindings).methods).toText)) =
      (c.naming.dispatch bindings).methods.map fun d => (d.member.text, d.functionName) := by
  have hnames := isName_dispatchers ht hdivided hbound
  have hproperties := isName_properties ht hdivided hbound
  have hreads := reads_nativeWrapperCode (oneLine_className ht) hnames fun d hd => (hproperties d hd).2.2.oneLine
  rw [Plan.sectionCode_fragment _ hreads.flat (by simp [nativeWrapperCode]), attachments_gap]
  exact ⟨hreads.gap, attachments_nativeWrapperCode hproperties hnames⟩

theorem reads_initializerPart {initializer : Fragment}
    (h : (c.planFor headerLine bindings).initializerCode = .ok initializer) :
    Reads ((c.planFor headerLine bindings).sectionCode (.initializer initializer)) [⟨.entry, c.scriptClass.init⟩]
      [⟨.returns, (c.naming.dispatch bindings).constructor.functionName⟩] := by
  have henumerations : ∀ b ∈ bindings, ∀ e ∈ b.enumerations, e.Flat := by
    intro b hb
    obtain ⟨m, hm⟩ := hdivided.exists_of_mem_bindings hbound hb
    exact flat_enumerations ht hm
  have hconstructor : IsName (c.naming.dispatch bindings).constructor.functionName := by
    rw [Naming.functionName_constructor]
    exact c.scriptClass.isName_constructor
  exact (Plan.reads_initializerCode (p := c.planFor headerLine bindings)
    (Registry.flat_ofBindings henumerations) hconstructor h).gap

variable (hc : c.types.handlers = []) (hscript : OneLine c.scriptClass.name)
include hc hscript

theorem reads_methodPart {d : Dispatcher} (hd : d ∈ (c.naming.dispatch bindings).methods) :
    ∃ sources, c.Sources siblings d sources ∧
      Reads ((c.planFor headerLine bindings).sectionCode ((c.planFor headerLine bindings).methodSection d))
        [⟨.dispatcher, d.functionName⟩]
        ((sources.filter fun m => !c.isStatic m).map fun _ => ⟨.unwraps, c.scriptClass.nativeInfo⟩) := by
  have hsources := hdivided.sources_of_mem_methods hbound hd
  have hreads := Plan.reads_methodSection (p := c.planFor headerLine bindings) hscript (oneLine_className ht)
    (isName_dispatchers ht hdivided hbound d hd) (isName_properties ht hdivided hbound d hd).2.2.oneLine
    (hsources.oneLine_signature ht hc hscript)
  rw [hsources.mentions_method ht hc hscript (Naming.member_ne_of_mem_methods hd)] at hreads
  exact ⟨_, hsources, hreads⟩

theorem reads_constructorPart :
    Reads ((c.planFor headerLine bindings).sectionCode (c.planFor headerLine bindings).constructorSection)
      [⟨.dispatcher, (c.naming.dispatch bindings).constructor.functionName⟩]
      ((c.naming.dispatch bindings).constructor.overloads.map fun _ => ⟨.wraps, c.scriptClass.wrapNative⟩) := by
  have hsources := hdivided.sources_constructor hbound
  have hname : IsName (c.naming.dispatch bindings).constructor.functionName := by
    rw [Naming.functionName_constructor]
    exact c.scriptClass.isName_constructor
  have hreads := Plan.reads_constructorSection (p := c.planFor headerLine bindings) hscript (oneLine_className ht)
    hname (hsources.oneLine_signature ht hc hscript)
  rw [← hsources.mentions_constructor ht hc hscript (Naming.member_constructor _ bindings)]
  exact hreads

theorem wired_parts {initializer : Fragment}
    (hinitializer : (c.planFor headerLine bindings).initializerCode = .ok initializer) :
    ((c.planFor headerLine bindings).parts c.destructorCode.toText
      (c.nativeWrapperCode (c.naming.dispatch bindings).methods).toText initializer).Wired c siblings
        (c.planFor headerLine bindings) := by
  have hwrapper := reads_wrapperPart ht hdivided hbound headerLine
  exact {
    destructor := by
      have hreads := reads_destructorCode hscript (oneLine_className ht)
      have hcode := (c.planFor headerLine bindings).sectionCode_fragment hreads.flat (by simp [destructorCode])
      rw [Plan.parts, hcode]
      exact hreads.gap
    methods := by
      apply List.forall₂_map_right_iff.mpr
      apply List.forall₂_same.mpr
      intro d hd
      exact reads_methodPart ht hdivided hbound hc hscript hd
    wrapper := hwrapper.1
    constructor := reads_constructorPart ht hdivided hbound hc hscript
    initializer := reads_initializerPart ht hdivided hbound hinitializer
    attached := hwrapper.2 }

end Parts

theorem nodup_properties (bindings : List Binding) :
    ((c.naming.dispatch bindings).methods.map (·.member.text)).Nodup := by
  have hmembers := c.naming.nodup_members bindings
  rw [List.map_append] at hmembers
  have hmethods := (List.nodup_append.mp hmembers).1
  have hne : ∀ member ∈ (c.naming.dispatch bindings).methods.map (·.member), member ≠ .constructor := by
    intro member hmember
    obtain ⟨d, hd, rfl⟩ := List.mem_map.mp hmember
    exact Naming.member_ne_of_mem_methods hd
  have htexts : (((c.naming.dispatch bindings).methods.map (·.member)).map Member.text).Nodup := by
    apply hmethods.map_on
    intro a ha b hb hab
    cases a with
    | constructor => exact absurd rfl (hne _ ha)
    | method name =>
      cases b with
      | constructor => exact absurd rfl (hne _ hb)
      | method other => exact congrArg Member.method hab
  rwa [List.map_map] at htexts

end Target

/-- The lines of a source file before the line for the header of the class. -/
def openingLines : Fragment := [Plan.provenance, "", "#include \"jerryscript.h\"", ""]

theorem definitions_openingLines : definitions openingLines = [] := by decide +kernel

theorem ofText_sections {p : Plan} {destructor nativeWrapper : String} {initializer : Fragment}
    (h : ∀ code ∈ (p.parts destructor nativeWrapper initializer).all, code.Flat) :
    Fragment.ofText (Fragment.toText ((p.sections destructor nativeWrapper initializer).flatMap p.sectionCode)) =
      openingLines ++ Fragment.ofText p.headerLine ++ [""] ++
        (p.parts destructor nativeWrapper initializer).all.flatten := by
  have hopening : ∀ line ∈ openingLines, OneLine line := by decide +kernel
  have hflat : Fragment.Flat (p.parts destructor nativeWrapper initializer).all.flatten := by
    intro line hline
    obtain ⟨code, hcode, hline⟩ := List.mem_flatten.mp hline
    exact h code hcode line hline
  have hcode : (p.sections destructor nativeWrapper initializer).flatMap p.sectionCode =
      openingLines ++ [p.headerLine] ++ [""] ++ (p.parts destructor nativeWrapper initializer).all.flatten := by
    rw [List.flatMap_def, p.map_sectionCode]
    rfl
  rw [hcode, Fragment.ofText_toText_eq_flatMap (by simp), List.flatMap_append, List.flatMap_append,
    List.flatMap_append, Fragment.flatMap_ofText hopening, Fragment.flatMap_ofText hflat, List.flatMap_singleton,
    List.flatMap_singleton, Fragment.ofText_of_oneLine (l := "") (by decide)]

theorem definitions_source (header : Fragment) (codes : List Fragment) :
    definitions (openingLines ++ header ++ [""] ++ codes.flatten) =
      definitions header ++ codes.flatMap definitions := by
  have hcodes : definitions codes.flatten = codes.flatMap definitions := by
    rw [definitions, List.filterMap_flatten, List.flatMap_def]
    rfl
  have hempty : definitions [""] = [] := by
    rw [definitions_cons, definition?_empty]
    rfl
  rw [definitions_append, definitions_append, definitions_append, definitions_openingLines, hempty, hcodes,
    List.nil_append, List.append_nil]

theorem Settings.headerLine_cases {o : Options} {s : Settings} (h : Settings.ofOptions o = .ok s) :
    (∃ file ∈ o.headerFile, s.headerLine = "#include \"" ++ file ++ "\"") ∨
      s.headerLine = "// @todo: add a reference to the " ++ s.className ++ " header here" := by
  rw [ofOptions] at h
  split at h
  · dsimp only at h
    split at h
    · cases h
    · obtain rfl := Except.ok.inj h
      dsimp only
      split
      · next file hfile => exact .inl ⟨file, (Option.filter_eq_some_iff.mp hfile).1, rfl⟩
      · exact .inr rfl
  · cases h

section HeaderLine

variable {o : Options} {s : Settings} (h : Settings.ofOptions o = .ok s) (hclass : OneLine s.className)
  (hheader : ∀ file ∈ o.headerFile, OneLine file)
include h hclass hheader

theorem Settings.oneLine_headerLine : OneLine s.headerLine := by
  rcases headerLine_cases h with ⟨file, hfile, hline⟩ | hline
  · rw [hline]
    exact oneLine_between (by decide) (hheader file hfile) (by decide)
  · rw [hline]
    exact oneLine_between (by decide) hclass (by decide)

theorem Settings.definitions_headerLine : definitions (Fragment.ofText s.headerLine) = [] := by
  have hnone : definition? s.headerLine = none := by
    rcases headerLine_cases h with ⟨file, -, hline⟩ | hline
    · rw [hline]
      exact definition?_of_margin "#" (by simp [marginStarts]) (begins_between (by decide) _ _)
    · rw [hline]
      exact definition?_of_margin "/" (by simp [marginStarts]) (begins_between (by decide) _ _)
  rw [Fragment.ofText_of_oneLine (oneLine_headerLine h hclass hheader), definitions_cons, hnone]
  rfl

end HeaderLine

/-- A module in whose source each function is defined once, before the parts that use it. -/
structure Package.Linked (package : Package) (c : Target) (plan : Plan) (parts : SourceParts) : Prop where
  source : Fragment.ofText package.source =
    openingLines ++ Fragment.ofText plan.headerLine ++ [""] ++ parts.all.flatten
  definitions : definitions (Fragment.ofText package.source) =
    ScriptBinding.definitions (Fragment.ofText plan.headerLine) ++ parts.all.flatMap ScriptBinding.definitions
  wired : parts.Wired c (c.tree.publicMethods c.place) plan
  closed : Closed [] parts.all
  once : ((parts.all.flatMap ScriptBinding.definitions).map (·.name)).Nodup
  properties : ((attachments parts.wrapper).map (·.1)).Nodup
  entry : (parts.all.flatMap ScriptBinding.definitions).filter (·.role = .entry) = [⟨.entry, c.scriptClass.init⟩]
  manifest : manifestEntries package.manifest = [c.scriptClass.init]

namespace Package.Linked

variable {package : Package} {c : Target} {plan : Plan} {parts : SourceParts} (h : package.Linked c plan parts)
include h

theorem definitions_parts (hheader : ScriptBinding.definitions (Fragment.ofText plan.headerLine) = []) :
    ScriptBinding.definitions (Fragment.ofText package.source) = parts.all.flatMap ScriptBinding.definitions := by
  rw [h.definitions, hheader, List.nil_append]

/-- A name that the parts define is defined once more for each time that the header line defines it. -/
theorem count_name {d : Definition} (hd : d ∈ parts.all.flatMap ScriptBinding.definitions) :
    ((ScriptBinding.definitions (Fragment.ofText package.source)).map (·.name)).count d.name =
      ((ScriptBinding.definitions (Fragment.ofText plan.headerLine)).map (·.name)).count d.name + 1 := by
  rw [h.definitions, List.map_append, List.count_append, List.count_eq_one_of_mem h.once (List.mem_map_of_mem hd)]

theorem mem_mentions {code : Fragment} (hcode : code ∈ parts.all) {m : Mention} (hm : m ∈ mentions code) :
    m ∈ mentions (Fragment.ofText package.source) := by
  obtain ⟨line, hline, hread⟩ := List.mem_filterMap.mp hm
  rw [h.source]
  exact List.mem_filterMap.mpr ⟨line, List.mem_append_right _ (List.mem_flatten_of_mem hcode hline), hread⟩

end Package.Linked

namespace Target

theorem Divided.linked {c : Target} {headerLine : String} {bindings : List Binding} {bound : List (Nat × Binding)}
    {skipped : List Nat} (ht : c.tree.Flat) (hc : c.types.handlers = []) (hscript : OneLine c.scriptClass.name)
    (hdivided : c.Divided (c.tree.publicMethods c.place) (c.tree.publicMethods c.place) bound skipped)
    (hbound : bindings = bound.map (·.2)) {initializer : Fragment}
    (hinitializer : (c.planFor headerLine bindings).initializerCode = .ok initializer) {package : Package}
    (hsource : package.source = Fragment.toText (((c.planFor headerLine bindings).sections c.destructorCode.toText
      (c.nativeWrapperCode (c.naming.dispatch bindings).methods).toText initializer).flatMap
        (c.planFor headerLine bindings).sectionCode))
    {library : String} (hmanifest : package.manifest = Manifest.manifest library c.scriptClass.init) :
    package.Linked c (c.planFor headerLine bindings) ((c.planFor headerLine bindings).parts c.destructorCode.toText
      (c.nativeWrapperCode (c.naming.dispatch bindings).methods).toText initializer) := by
  have hwired := wired_parts ht hdivided hbound hc hscript hinitializer
  have hlines := ofText_sections hwired.flat
  rw [← hsource] at hlines
  exact {
    source := hlines
    definitions := by rw [hlines, definitions_source]
    wired := hwired
    closed := hwired.closed
    once := hwired.once (Naming.functionName_constructor _ bindings) (Naming.nodup_functionNames _ bindings)
    properties := by
      rw [hwired.attached, List.map_map]
      exact nodup_properties bindings
    entry := hwired.entry
    manifest := by
      rw [hmanifest]
      exact manifestEntries_manifest library c.scriptClass.isName_init }

/-- A plan and the sources of its files, from the methods that are bound and those that are left out. -/
theorem exists_planned {c : Target} {headerLine library : String} {plan : Plan} {package : Package}
    (hplan : (c.plan headerLine).result = .ok plan) (hpackage : plan.package library = .ok package) :
    ∃ bindings bound skipped initializer, plan = c.planFor headerLine bindings ∧
      c.Divided (c.tree.publicMethods c.place) (c.tree.publicMethods c.place) bound skipped ∧
      bindings = bound.map (·.2) ∧ plan.initializerCode = .ok initializer ∧
      package.source = Fragment.toText ((plan.sections c.destructorCode.toText
        (c.nativeWrapperCode plan.methods).toText initializer).flatMap plan.sectionCode) ∧
      package.manifest = Manifest.manifest (Text.lower library) c.scriptClass.init := by
  obtain ⟨destructor, nativeWrapper, initializer, hdestructor, hwrapper, hinitializer, hsource, hmanifest⟩ :=
    Plan.exists_sections hpackage
  obtain ⟨bindings, hbindings, rfl, -⟩ := exists_bindings hplan
  obtain ⟨bound, skipped, -, hdivided, hbound, -, -⟩ := divided_of_bindings hbindings
  obtain rfl := Option.some.inj hdestructor
  obtain rfl := Option.some.inj hwrapper
  exact ⟨bindings, bound, skipped, initializer, rfl, hdivided, hbound, hinitializer, hsource, hmanifest⟩

section Linked

variable {text : String} {tree : Tree} {s : Settings} {package : Package} (ht : Tree.parse text = .ok tree)
  (hname : OneLine s.scriptName) (h : (s.package [] tree).result = .ok package)
include ht hname h

theorem exists_linked : ∃ place plan destructor nativeWrapper initializer, tree.findClass s.className = .ok place ∧
    (Target.plan ⟨⟨tree, []⟩, place, ⟨s.scriptName⟩⟩ s.headerLine).result = .ok plan ∧
    plan.package s.library = .ok package ∧
    package.source =
      Fragment.toText ((plan.sections destructor nativeWrapper initializer).flatMap plan.sectionCode) ∧
    package.Linked ⟨⟨tree, []⟩, place, ⟨s.scriptName⟩⟩ plan (plan.parts destructor nativeWrapper initializer) ∧
    plan.headerLine = s.headerLine := by
  obtain ⟨place, hplace, h, -⟩ := Report.exists_of_bind h
  obtain ⟨plan, hplan, hpackage, -⟩ := Report.exists_of_bind h
  obtain ⟨bindings, bound, skipped, initializer, rfl, hdivided, hbound, hinitializer, hsource, hmanifest⟩ :=
    exists_planned hplan hpackage
  have hlinked := hdivided.linked (Tree.flat_of_parse ht) rfl hname hbound hinitializer hsource hmanifest
  exact ⟨place, _, _, _, initializer, hplace, hplan, hpackage, hsource, hlinked, rfl⟩

/-- The parts of a module refer to each other by the names that they define. As long as the name of the header file
holds no newline, no name is defined twice in the source file, and there is one function to call first. -/
theorem package_linked :
    ∃ place plan destructor nativeWrapper initializer, tree.findClass s.className = .ok place ∧
      (Target.plan ⟨⟨tree, []⟩, place, ⟨s.scriptName⟩⟩ s.headerLine).result = .ok plan ∧
      plan.package s.library = .ok package ∧
      package.source =
        Fragment.toText ((plan.sections destructor nativeWrapper initializer).flatMap plan.sectionCode) ∧
      package.Linked ⟨⟨tree, []⟩, place, ⟨s.scriptName⟩⟩ plan (plan.parts destructor nativeWrapper initializer) ∧
      ∀ o, Settings.ofOptions o = .ok s → (∀ file ∈ o.headerFile, OneLine file) →
        ((definitions (Fragment.ofText package.source)).map (·.name)).Nodup ∧
          (definitions (Fragment.ofText package.source)).filter (·.role = .entry) =
            [⟨.entry, (ScriptClass.mk s.scriptName).init⟩] := by
  obtain ⟨place, plan, destructor, nativeWrapper, initializer, hplace, hplan, hpackage, hsource, hlinked, hline⟩ :=
    exists_linked ht hname h
  refine ⟨place, plan, destructor, nativeWrapper, initializer, hplace, hplan, hpackage, hsource, hlinked, ?_⟩
  intro o ho hheader
  have hclass : OneLine s.className := (Tree.flat_of_parse ht).name? (Tree.name_of_findClass hplace)
  have hnone := Settings.definitions_headerLine ho hclass hheader
  rw [← hline] at hnone
  rw [hlinked.definitions_parts hnone]
  exact ⟨hlinked.once, hlinked.entry⟩

end Linked

/-- A class with a method that is called like the function that wraps an object. -/
def wrapperLines : List (List Char) := [
  " <0><b>: Abbrev Number: 1 (DW_TAG_class_type)".toList,
  " <c> DW_AT_name:Led".toList,
  " <1><10>: Abbrev Number: 2 (DW_TAG_subprogram)".toList,
  " <11> DW_AT_name:wrap_native".toList,
  " <12> DW_AT_accessibility:1 (public)".toList,
  " <2><13>: Abbrev Number: 3 (DW_TAG_formal_parameter)".toList,
  " <14> DW_AT_artificial:1".toList,
  " <1><20>: Abbrev Number: 2 (DW_TAG_subprogram)".toList,
  " <21> DW_AT_name:Led".toList,
  " <22> DW_AT_accessibility:1 (public)".toList]

def wrapperText : String := String.ofList (['\n'].intercalate wrapperLines)

def wrapperTree : Tree := .ofEntries [
  ⟨"class_type", 0xb, 0, [("name", "Led")]⟩,
  ⟨"subprogram", 0x10, 1, [("name", "wrap_native"), ("accessibility", "1 (public)")]⟩,
  ⟨"formal_parameter", 0x13, 2, [("artificial", "1")]⟩,
  ⟨"subprogram", 0x20, 1, [("name", "Led"), ("accessibility", "1 (public)")]⟩]

theorem parse_wrapperText : Tree.parse wrapperText = .ok wrapperTree := by
  rw [Tree.parse, wrapperText, String.toList_ofList, wrapperLines]
  repeat rw [String.toList_ofList]
  decide +kernel

def ledOptions : Options := { symbolsFile := some "led.txt", className := some "Led", headerFile := some "led.h" }

theorem package_linked_wrapper :
    Tree.parse wrapperText = .ok wrapperTree ∧ OneLine ledSettings.scriptName ∧
      Settings.ofOptions ledOptions = .ok ledSettings ∧ (∀ file ∈ ledOptions.headerFile, OneLine file) ∧
      ∃ package plan parts, (ledSettings.package [] wrapperTree).result = .ok package ∧
        (Target.plan ⟨⟨wrapperTree, []⟩, 0, ⟨"Led"⟩⟩ ledSettings.headerLine).result = .ok plan ∧
        package.Linked ⟨⟨wrapperTree, []⟩, 0, ⟨"Led"⟩⟩ plan parts ∧
        attachments parts.wrapper = [("wrap_native", "Led_wrap_native_method")] ∧
        ((definitions (Fragment.ofText package.source)).map (·.name)).Nodup ∧
        (definitions (Fragment.ofText package.source)).filter (·.role = .entry) = [⟨.entry, "InitLed"⟩] := by
  have hname : OneLine ledSettings.scriptName := by decide
  have hoptions : Settings.ofOptions ledOptions = .ok ledSettings := by decide +kernel
  have hheader : ∀ file ∈ ledOptions.headerFile, OneLine file := by
    rintro _ ⟨rfl⟩
    decide
  have hplace : wrapperTree.findClass ledSettings.className = .ok 0 := by decide +kernel
  have hok : (ledSettings.package [] wrapperTree).result.toOption.isSome = true := by decide +kernel
  have hnames : (Target.plan ⟨⟨wrapperTree, []⟩, 0, ⟨"Led"⟩⟩ ledSettings.headerLine).result.toOption.map
      (fun plan => plan.methods.map fun d => (d.member.text, d.functionName)) =
        some [("wrap_native", "Led_wrap_native_method")] := by decide +kernel
  cases hresult : (ledSettings.package [] wrapperTree).result with
  | error fault =>
    rw [hresult] at hok
    cases hok
  | ok package =>
    obtain ⟨place, plan, destructor, nativeWrapper, initializer, hfound, hplan, -, -, hlinked, honce⟩ :=
      package_linked parse_wrapperText hname hresult
    obtain rfl := Except.ok.inj (hfound.symm.trans hplace)
    refine ⟨parse_wrapperText, hname, hoptions, hheader, package, plan, _, rfl, hplan, hlinked, ?_,
      (honce ledOptions hoptions hheader).1, (honce ledOptions hoptions hheader).2⟩
    rw [hlinked.wired.attached]
    exact Option.some.inj ((congrArg (fun r => r.toOption.map fun plan : Plan =>
      plan.methods.map fun d => (d.member.text, d.functionName)) hplan).symm.trans hnames)

/-- What the name of a header file makes of its line if it goes on behind a newline with two helpers of the module. -/
def helperLines : Fragment := ["#include \"x.h\"", "void Destruct_Led(void* native_p) \x7b\x7d",
  "static const jerry_object_native_info_t Led_native_info = \x7b Destruct_Led \x7d; //\""]

def helperOptions : Options :=
  { ledOptions with headerFile := some ("x.h\"\nvoid Destruct_Led(void* native_p) \x7b\x7d\n" ++
      "static const jerry_object_native_info_t Led_native_info = \x7b Destruct_Led \x7d; //") }

def helperSettings : Settings := { ledSettings with headerLine := helperLines.toText }

theorem definitions_helperLines : definitions (Fragment.ofText helperSettings.headerLine) =
    [⟨.destructor, "Destruct_Led"⟩, ⟨.info, "Led_native_info"⟩] := by
  have hflat : ∀ line ∈ helperLines, OneLine line := by decide +kernel
  have hlines : Fragment.ofText helperSettings.headerLine = helperLines :=
    Fragment.ofText_toText hflat (by simp [helperLines])
  rw [hlines]
  decide +kernel

/-- The helpers in such a name are defined a second time, though other parts use them. -/
theorem helpers_defined_twice : Tree.parse wrapperText = .ok wrapperTree ∧
    Settings.ofOptions helperOptions = .ok helperSettings ∧ OneLine helperSettings.scriptName ∧
    ∃ package, (helperSettings.package [] wrapperTree).result = .ok package ∧
      ⟨.marks, "Led_native_info"⟩ ∈ mentions (Fragment.ofText package.source) ∧
      ((definitions (Fragment.ofText package.source)).map (·.name)).count "Led_native_info" = 2 ∧
      ((definitions (Fragment.ofText package.source)).map (·.name)).count "Destruct_Led" = 2 := by
  have hname : OneLine helperSettings.scriptName := by decide
  have hoptions : Settings.ofOptions helperOptions = .ok helperSettings := by decide +kernel
  have hplace : wrapperTree.findClass helperSettings.className = .ok 0 := by decide +kernel
  have hok : (helperSettings.package [] wrapperTree).result.toOption.isSome = true := by decide +kernel
  cases hresult : (helperSettings.package [] wrapperTree).result with
  | error fault =>
    rw [hresult] at hok
    cases hok
  | ok package =>
    obtain ⟨place, plan, destructor, nativeWrapper, initializer, hfound, -, -, -, hlinked, hline⟩ :=
      exists_linked parse_wrapperText hname hresult
    obtain rfl := Except.ok.inj (hfound.symm.trans hplace)
    have hheader : definitions (Fragment.ofText plan.headerLine) =
        [⟨.destructor, "Destruct_Led"⟩, ⟨.info, "Led_native_info"⟩] := by
      rw [hline]
      exact definitions_helperLines
    have hnames : (⟨"Led"⟩ : ScriptClass).destructor = "Destruct_Led" ∧
        (⟨"Led"⟩ : ScriptClass).nativeInfo = "Led_native_info" := by decide +kernel
    have hparts := hlinked.wired.definitions_all
    have hmarks := hlinked.wired.wrapper.mentions
    simp only [helperSettings, ledSettings, hnames] at hparts hmarks
    refine ⟨parse_wrapperText, hoptions, hname, package, rfl, ?_, ?_, ?_⟩
    · exact hlinked.mem_mentions (by simp [SourceParts.all]) (hmarks ▸ List.mem_cons_self)
    · rw [hlinked.count_name (d := ⟨.info, "Led_native_info"⟩) (by simp [hparts]), hheader]
      rfl
    · rw [hlinked.count_name (d := ⟨.destructor, "Destruct_Led"⟩) (by simp [hparts]), hheader]
      rfl

end Target

end ScriptBinding
