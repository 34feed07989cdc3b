import ScriptBinding.Proofs.Exchange.Labels
import ScriptBinding.Proofs.Methods.Bodies
import ScriptBinding.Proofs.Module.Guards

/-!
The sections of a source file one by one: each is made of single lines, defines its own names and mentions those
of other sections.
-/

namespace ScriptBinding

open Code Dump

/-- What is read from a part of the code. -/
structure Reads (code : Fragment) (defined : List Definition) (mentioned : List Mention) : Prop where
  flat : code.Flat
  definitions : definitions code = defined
  mentions : mentions code = mentioned

/-- A line that mentions no name. -/
def Silent (line : String) : Prop := OneLine line ∧ mention? line = none

/-- A line that neither defines nor mentions a name. -/
def Plain (line : String) : Prop := Silent line ∧ definition? line = none

instance : DecidablePred Silent := fun line => inferInstanceAs (Decidable (OneLine line ∧ _))

instance : DecidablePred Plain := fun line => inferInstanceAs (Decidable (Silent line ∧ _))

theorem silent_of_foreign {line : String} (h : OneLine line) (hforeign : Foreign line) : Silent line :=
  ⟨h, mention?_of_foreign hforeign⟩

/-- The lines that are the same for every class. -/
def fixedLines : Fragment := [
  "", "\x7b", "jerry_value_t js_obj = jerry_create_object();", "return js_obj;",
  "jerry_release_value(jerry_set_property(js_obj, prop_name, prop_fn));",
  "jerry_release_value(prop_fn);", "jerry_release_value(prop_name);",
  "jerry_release_value(jerry_set_property(enum_obj, enum_key, enum_val));",
  "jerry_release_value(enum_val);", "jerry_release_value(enum_key);",
  "jerry_value_t enum_obj = jerry_create_object();", "jerry_value_t global_obj = jerry_get_global_object();",
  "jerry_release_value(jerry_set_property(global_obj, enum_name, enum_obj));",
  "jerry_release_value(enum_name);", "jerry_release_value(global_obj);", "jerry_release_value(enum_obj);"]

theorem silent_ofList {start cs : List Char} (hmem : String.ofList start ∈ quietStarts) (hstart : start <+: cs)
    (hline : '\n' ∉ cs) : Silent (String.ofList cs) :=
  ⟨oneLine_ofList hline, mention?_of_quiet _ hmem (begins_ofList hstart)⟩

theorem silent_fixedLines : ∀ line ∈ fixedLines, Silent line := by
  have hempty : Silent "" := ⟨by decide, mention?_empty⟩
  have hreturn : Silent "return js_obj;" := ⟨oneLine_ofList (by decide),
    mention?_returned "return js" (by decide) (by decide) (apart_ofList (by decide)) (by decide)⟩
  have hopen : "\x7b" ∈ quietStarts := by simp [quietStarts]
  have hobject : "jerry_value_t js" ∈ quietStarts := by simp [quietStarts]
  have henum : "jerry_value_t enum" ∈ quietStarts := by simp [quietStarts]
  have hglobal : "jerry_value_t global" ∈ quietStarts := by simp [quietStarts]
  have hmem : "jerry_release" ∈ quietStarts := by simp [quietStarts]
  have hrelease {cs : List Char} := @silent_ofList _ cs hmem
  simp only [fixedLines, List.forall_mem_cons, List.not_mem_nil, false_implies, implies_true, and_true]
  refine ⟨hempty, silent_ofList hopen (by decide) (by decide), silent_ofList hobject (by decide) (by decide), hreturn,
    hrelease (by decide) (by decide), hrelease (by decide) (by decide), hrelease (by decide) (by decide),
    hrelease (by decide) (by decide), hrelease (by decide) (by decide), hrelease (by decide) (by decide),
    silent_ofList henum (by decide) (by decide), silent_ofList hglobal (by decide) (by decide),
    hrelease (by decide) (by decide), hrelease (by decide) (by decide), hrelease (by decide) (by decide),
    hrelease (by decide) (by decide)⟩

theorem silent_of_subset {code : Fragment} (h : code ⊆ fixedLines) : ∀ line ∈ code, Silent line :=
  fun line hline => silent_fixedLines line (h hline)

theorem mentions_eq_nil {code : Fragment} (h : ∀ line ∈ code, Silent line) : mentions code = [] :=
  List.filterMap_eq_nil_iff.mpr fun line hline => (h line hline).2

theorem silent_block {header : String} {code : Fragment} (hheader : Silent header)
    (h : ∀ line ∈ code, Silent line) : ∀ line ∈ Fragment.block header code, Silent line := by
  have hfooter : Silent "\x7d" :=
    ⟨oneLine_ofList (by decide), mention?_of_quiet "\x7d" (by simp [quietStarts]) List.prefix_rfl⟩
  have hindent : ∀ line ∈ Fragment.indent code, Silent line := by
    intro line hline
    refine ⟨Fragment.flat_indent (fun l hl => (h l hl).1) line hline, ?_⟩
    obtain ⟨l, hl, rfl⟩ := List.mem_map.mp hline
    rw [mention?_indentLine]
    exact (h l hl).2
  rw [Fragment.block, List.forall_mem_append, List.forall_mem_cons, List.forall_mem_singleton]
  exact ⟨⟨hheader, hindent⟩, hfooter⟩

namespace Reads

variable {a b : Fragment} {defined defined' : List Definition} {mentioned mentioned' : List Mention}

theorem append (ha : Reads a defined mentioned) (hb : Reads b defined' mentioned') :
    Reads (a ++ b) (defined ++ defined') (mentioned ++ mentioned') where
  flat := Fragment.flat_append.mpr ⟨ha.flat, hb.flat⟩
  definitions := by rw [definitions_append, ha.definitions, hb.definitions]
  mentions := by rw [mentions_append, ha.mentions, hb.mentions]

theorem plain (h : ∀ line ∈ a, Plain line) : Reads a [] [] where
  flat := fun line hline => (h line hline).1.1
  definitions := List.filterMap_eq_nil_iff.mpr fun line hline => (h line hline).2
  mentions := mentions_eq_nil fun line hline => (h line hline).1

theorem defining {line : String} {d : Definition} (h : Silent line) (hd : definition? line = some d) :
    Reads [line] [d] [] where
  flat := by simpa using h.1
  definitions := by rw [definitions_cons, hd]; rfl
  mentions := mentions_eq_nil (by simpa using h)

/-- Names that are defined in the body of a block are not seen at the margin. -/
theorem block {header : String} (hheader : Reads [header] defined []) (hflat : (Fragment.indent a).Flat) :
    Reads (Fragment.block header a) defined (ScriptBinding.mentions a) where
  flat := Fragment.flat_append.mpr ⟨Fragment.flat_cons.mpr ⟨hheader.flat header List.mem_cons_self, hflat⟩,
    by simpa using oneLine_ofList (by decide)⟩
  definitions := by
    rw [definitions_block, ← hheader.definitions, definitions_cons]
    exact (List.append_nil _).symm
  mentions := by
    have hnone := hheader.mentions
    rw [mentions_cons, mentions_nil, List.append_nil] at hnone
    rw [mentions_block, hnone, List.nil_append]

end Reads

theorem plain_empty : Plain "" := ⟨silent_fixedLines "" (by simp [fixedLines]), definition?_empty⟩

theorem Reads.gap {code : Fragment} {defined : List Definition} {mentioned : List Mention}
    (h : Reads code defined mentioned) : Reads (code ++ [""]) defined mentioned := by
  have hgap : Reads [""] [] [] := Reads.plain (by simpa using plain_empty)
  simpa using h.append hgap

theorem plain_comment {line : String} (h : OneLine line) (hstart : " * ".toList <+: line.toList) : Plain line := by
  have hmargin : " ".toList <+: line.toList := (begins_ofList (by decide)).trans hstart
  exact ⟨silent_of_foreign h ⟨'*', by decide, hstart.subset (by decide)⟩,
    definition?_of_margin " " (by simp [marginStarts]) hmargin⟩

theorem reads_comment {lines : Fragment} (h : ∀ line ∈ lines, Plain line) :
    Reads (["/**"] ++ lines ++ [" */"]) [] [] := by
  have hopening : Plain "/**" := ⟨silent_of_foreign (oneLine_ofList (by decide)) (foreign_ofList (by decide)),
    definition?_of_margin "/" (by simp [marginStarts]) (begins_ofList (by decide))⟩
  have hclosing : Plain " */" := ⟨silent_of_foreign (oneLine_ofList (by decide)) (foreign_ofList (by decide)),
    definition?_of_margin " " (by simp [marginStarts]) (begins_ofList (by decide))⟩
  apply Reads.plain
  simp only [List.forall_mem_append, List.forall_mem_singleton]
  exact ⟨⟨hopening, h⟩, hclosing⟩

section Headers

variable {name : String} (hname : IsName name)
include hname

theorem reads_destructorHeader : Reads ["void " ++ name ++ "(void* native_p) \x7b"] [⟨.destructor, name⟩] [] := by
  apply Reads.defining
  · apply silent_of_foreign (oneLine_between (by decide) hname.2.2.oneLine (by decide))
    exact (foreign_ofList (by decide)).right _
  · exact definition?_append (.head _) hname (by decide)

theorem reads_info {value : String} (hvalue : OneLine value) :
    Reads ["static const jerry_object_native_info_t " ++ name ++ " = \x7b " ++ value ++ " \x7d;"]
      [⟨.info, name⟩] [] := by
  have hline : "static const jerry_object_native_info_t " ++ name ++ " = \x7b " ++ value ++ " \x7d;" =
      "static const jerry_object_native_info_t " ++ name ++ (" = \x7b " ++ value ++ " \x7d;") := by
    simp only [String.append_assoc]
  apply Reads.defining
  · refine ⟨oneLine_append.mpr ⟨oneLine_append.mpr ⟨oneLine_between (by decide) hname.2.2.oneLine (by decide),
      hvalue⟩, oneLine_ofList (by decide)⟩, mention?_of_quiet "static" (by simp [quietStarts]) ?_⟩
    exact begins_append (begins_append (begins_between (by decide) _ _) _) _
  · rw [hline]
    exact definition?_append (.tail _ (.head _)) hname
      (breaks_of_begins (c := ' ') (begins_between (by decide) _ _) (by decide))

theorem reads_dispatcherHeader :
    Reads ["jerry_value_t " ++ name ++ Plan.callParameters ++ " \x7b"] [⟨.dispatcher, name⟩] [] := by
  have hparameters : OneLine Plan.callParameters ∧ Foreign Plan.callParameters ∧
      Breaks (Plan.callParameters ++ " \x7b") := by
    refine ⟨oneLine_append.mpr ⟨oneLine_ofList (by decide), oneLine_ofList (by decide)⟩,
      (foreign_ofList (by decide)).right _, ?_⟩
    exact breaks_of_begins (c := '(') (begins_append (begins_append (begins_ofList (by decide)) _) _) (by decide)
  have hline : "jerry_value_t " ++ name ++ Plan.callParameters ++ " \x7b" =
      "jerry_value_t " ++ name ++ (Plan.callParameters ++ " \x7b") := String.append_assoc
  apply Reads.defining
  · apply silent_of_foreign
    · exact oneLine_append.mpr ⟨oneLine_append.mpr ⟨oneLine_append.mpr ⟨oneLine_ofList (by decide),
        hname.2.2.oneLine⟩, hparameters.1⟩, oneLine_ofList (by decide)⟩
    · exact (hparameters.2.1.right _).left _
  · have hrole : Role.ofFunction (Plan.callParameters ++ " \x7b").toList = .dispatcher := if_pos rfl
    rw [hline, ← hrole]
    exact definition?_append (.tail _ (.tail _ (.head _))) hname hparameters.2.2

theorem reads_wrapperHeader {className : String} (hclass : OneLine className) :
    Reads ["jerry_value_t " ++ name ++ "(" ++ className ++ "* native_obj) \x7b"] [⟨.wrapper, name⟩] [] := by
  have hline : "jerry_value_t " ++ name ++ "(" ++ className ++ "* native_obj) \x7b" =
      "jerry_value_t " ++ name ++ ("(" ++ className ++ "* native_obj) \x7b") := by
    simp only [String.append_assoc]
  have hrole : Role.ofFunction ("(" ++ className ++ "* native_obj) \x7b").toList = .wrapper := by
    apply if_neg
    intro h
    have hend : "* native_obj) \x7b".toList <:+ (Plan.callParameters ++ " \x7b").toList := by
      rw [← h, String.toList_append]
      exact List.suffix_append _ _
    revert hend
    decide +kernel
  apply Reads.defining
  · apply silent_of_foreign
    · exact oneLine_append.mpr ⟨oneLine_append.mpr ⟨oneLine_between (by decide) hname.2.2.oneLine (by decide),
        hclass⟩, oneLine_ofList (by decide)⟩
    · exact (foreign_ofList (by decide)).right _
  · rw [hline, ← hrole]
    exact definition?_append (.tail _ (.tail _ (.head _))) hname
      (breaks_of_begins (c := '(') (begins_between (by decide) _ _) (by decide))

theorem reads_entryHeader : Reads ["extern \"C\" jerry_value_t " ++ name ++ "() \x7b"] [⟨.entry, name⟩] [] := by
  apply Reads.defining
  · apply silent_of_foreign (oneLine_between (by decide) hname.2.2.oneLine (by decide))
    exact ((foreign_ofList (by decide)).left _).left _
  · exact definition?_append (.tail _ (.tail _ (.tail _ (.head _)))) hname (by decide)

end Headers

theorem oneLine_scriptString {text : String} (h : OneLine text) : OneLine (scriptString text) :=
  oneLine_between (by decide) (oneLine_stringLiteral h) (by decide)

theorem foreign_scriptString (text : String) : Foreign (scriptString text) :=
  ((foreign_ofList (by decide)).left _).left _

namespace Target

section

variable {d : Dispatcher}

theorem flat_propertyCode (hname : OneLine d.functionName) (hmember : OneLine d.member.text) :
    (propertyCode d).Flat := by
  have hrest : Fragment.Flat ["jerry_release_value(jerry_set_property(js_obj, prop_name, prop_fn));",
      "jerry_release_value(prop_fn);", "jerry_release_value(prop_name);"] :=
    fun line hline => (silent_of_subset (by simp [fixedLines]) line hline).1
  refine Fragment.flat_cons.mpr ⟨oneLine_ofList (by decide),
    Fragment.flat_block (oneLine_ofList (by decide)) ?_ (oneLine_ofList (by decide))⟩
  refine Fragment.flat_cons.mpr ⟨?_, Fragment.flat_cons.mpr ⟨?_, hrest⟩⟩
  · exact oneLine_between (by decide) (oneLine_scriptString hmember) (by decide)
  · exact oneLine_between (by decide) hname (by decide)

theorem mentions_propertyCode (hname : IsName d.functionName) :
    mentions (propertyCode d) = [⟨.attaches, d.functionName⟩] := by
  have hproperty : mention? ("jerry_value_t prop_name = " ++ scriptString d.member.text ++ ";") = none :=
    mention?_of_foreign (((foreign_scriptString _).right _).left _)
  have hattaches : mention? ("jerry_value_t prop_fn = jerry_create_external_function(" ++ d.functionName ++ ");") =
      some ⟨.attaches, d.functionName⟩ := mention?_text .attaches hname (by simp)
  have hrest : mentions ["jerry_release_value(jerry_set_property(js_obj, prop_name, prop_fn));",
      "jerry_release_value(prop_fn);", "jerry_release_value(prop_name);"] = [] :=
    mentions_eq_nil (silent_of_subset (by simp [fixedLines]))
  have hopen : mention? "\x7b" = none := (silent_fixedLines "\x7b" (by simp [fixedLines])).2
  rw [propertyCode, mentions_cons, mention?_empty, mentions_block, hopen, mentions_cons, hproperty, mentions_cons,
    hattaches, hrest]
  rfl

end

variable {c : Target} (hscript : OneLine c.scriptClass.name) (hclass : OneLine c.className)
include hscript hclass

theorem reads_destructorCode : Reads c.destructorCode
    [⟨.destructor, c.scriptClass.destructor⟩, ⟨.info, c.scriptClass.nativeInfo⟩] [] := by
  have hdestructor := c.scriptClass.isName_destructor
  have hcomment : Reads (["/**"] ++ [" * " ++ c.scriptClass.name ++ "#destructor"] ++ [" */"]) [] [] := by
    apply reads_comment
    rw [List.forall_mem_singleton]
    exact plain_comment (oneLine_between (by decide) hscript (by decide)) (begins_between (by decide) _ _)
  have hdelete : Silent ("delete static_cast<" ++ c.className ++ "*>(native_p);") :=
    silent_of_foreign (oneLine_between (by decide) hclass (by decide)) ((foreign_ofList (by decide)).right _)
  have hfunction := (reads_destructorHeader hdestructor).block
    (a := ["delete static_cast<" ++ c.className ++ "*>(native_p);"]) (Fragment.flat_indent (by simpa using hdelete.1))
  rw [mentions_eq_nil (by simpa using hdelete)] at hfunction
  have hinfo := reads_info c.scriptClass.isName_nativeInfo hdestructor.2.2.oneLine
  have hgap : Reads [""] [] [] := Reads.plain (by simpa using plain_empty)
  exact ((hcomment.append hfunction).append (hgap.append hinfo))

omit hscript in
theorem reads_nativeWrapperCode {methods : List Dispatcher} (hnames : ∀ d ∈ methods, IsName d.functionName)
    (hmembers : ∀ d ∈ methods, OneLine d.member.text) : Reads (c.nativeWrapperCode methods)
      [⟨.wrapper, c.scriptClass.wrapNative⟩]
      (⟨.marks, c.scriptClass.nativeInfo⟩ :: methods.map fun d => ⟨.attaches, d.functionName⟩) := by
  have hcomment : Reads (["/**"] ++ [" * Wrap a native " ++ c.className ++ " in a JavaScript object"] ++ [" */"])
      [] [] := by
    apply reads_comment
    rw [List.forall_mem_singleton]
    exact plain_comment (oneLine_between (by decide) hclass (by decide)) (begins_between (by decide) _ _)
  have hmarks : mention? ("jerry_set_object_native_pointer(js_obj, native_obj, &" ++ c.scriptClass.nativeInfo ++
      ");") = some ⟨.marks, c.scriptClass.nativeInfo⟩ :=
    mention?_text .marks c.scriptClass.isName_nativeInfo (by simp)
  have hobject := silent_fixedLines "jerry_value_t js_obj = jerry_create_object();" (by simp [fixedLines])
  have hempty := silent_fixedLines "" (by simp [fixedLines])
  have hreturn := silent_fixedLines "return js_obj;" (by simp [fixedLines])
  have hflat : Fragment.Flat (["jerry_value_t js_obj = jerry_create_object();",
      "jerry_set_object_native_pointer(js_obj, native_obj, &" ++ c.scriptClass.nativeInfo ++ ");"] ++
      methods.flatMap propertyCode ++ ["", "return js_obj;"]) := by
    simp only [Fragment.flat_append, Fragment.flat_cons, Fragment.flat_nil, and_true]
    refine ⟨⟨⟨hobject.1, ?_⟩, ?_⟩, hempty.1, hreturn.1⟩
    · exact oneLine_between (by decide) c.scriptClass.isName_nativeInfo.2.2.oneLine (by decide)
    · intro line hline
      obtain ⟨d, hd, hline⟩ := List.mem_flatMap.mp hline
      exact flat_propertyCode (hnames d hd).2.2.oneLine (hmembers d hd) line hline
  have hfunction := (reads_wrapperHeader c.scriptClass.isName_wrapNative hclass).block (Fragment.flat_indent hflat)
  have hmentions : mentions (methods.flatMap propertyCode) = methods.map fun d => ⟨.attaches, d.functionName⟩ := by
    rw [mentions_flatMap, List.flatMap_congr fun d hd => mentions_propertyCode (hnames d hd), List.map_eq_flatMap]
  simp only [mentions_append, mentions_cons, mentions_nil, hobject.2, hmarks, hmentions, hempty.2, hreturn.2,
    Option.toList, List.nil_append, List.append_nil] at hfunction
  exact hcomment.append hfunction

end Target

theorem silent_scriptString {before after : List Char} {text : String} (h : OneLine text) (hbefore : '\n' ∉ before)
    (hafter : '\n' ∉ after) : Silent (String.ofList before ++ scriptString text ++ String.ofList after) :=
  silent_of_foreign (oneLine_between hbefore (oneLine_scriptString h) hafter)
    (((foreign_scriptString text).right _).left _)

theorem oneLine_of_decimal? {z : Int} {number : String} (h : Text.decimal? z = some number) : OneLine number := by
  obtain ⟨-, hnumber⟩ := Option.ite_none_right_eq_some.mp h
  rw [← Option.some.inj hnumber]
  exact oneLine_int z

theorem silent_labelCode {label : String} {value : Int} {code : Fragment} (hlabel : OneLine label)
    (h : labelCode label value = .ok code) : ∀ line ∈ code, Silent line := by
  have hopen := silent_fixedLines "\x7b" (by simp [fixedLines])
  unfold labelCode at h
  split at h
  · cases h
  · next number hnumber =>
    obtain rfl := Except.ok.inj h
    have hone := oneLine_of_decimal? hnumber
    apply silent_block hopen
    rw [List.forall_mem_cons, List.forall_mem_cons]
    refine ⟨silent_scriptString hlabel (by decide) (by decide), ⟨?_, ?_⟩, silent_of_subset (by simp [fixedLines])⟩
    · exact oneLine_between (by decide) hone (by decide)
    · exact mention?_of_quiet "jerry_value_t enum" (by simp [quietStarts])
        (begins_between (by decide) _ _)

theorem silent_registrationCode {name : String} {values : EnumValues} {code : Fragment} (hname : OneLine name)
    (hvalues : ∀ v ∈ values, OneLine v.1) (h : registrationCode name values = .ok code) :
    ∀ line ∈ code, Silent line := by
  have hopen := silent_fixedLines "\x7b" (by simp [fixedLines])
  obtain ⟨labels, hlabels, rfl⟩ := Except.map_eq_ok_iff.mp h
  have hlines : ∀ line ∈ labels.flatten, Silent line := by
    intro line hline
    obtain ⟨code, hcode, hline⟩ := List.mem_flatten.mp hline
    obtain ⟨v, hv, hlabel⟩ := exists_of_mem_mapM hlabels hcode
    exact silent_labelCode (hvalues v hv) hlabel line hline
  apply silent_block hopen
  rw [List.forall_mem_append, List.forall_mem_append]
  refine ⟨⟨silent_of_subset (by simp [fixedLines]), hlines⟩, ?_⟩
  rw [List.forall_mem_cons, List.forall_mem_cons, List.forall_mem_cons]
  exact ⟨silent_fixedLines _ (by simp [fixedLines]), silent_fixedLines _ (by simp [fixedLines]),
    silent_scriptString hname (by decide) (by decide), silent_of_subset (by simp [fixedLines])⟩

namespace Plan

variable {p : Plan}

theorem mentions_guardCode (b : Binding) : mentions (guardCode b) = mentions (Fragment.ofText b.body) := by
  have hhead : mention? ("if (args_count == " ++ toString b.arity ++ ") \x7b") = none :=
    mention?_of_quiet "if (args" (by simp [quietStarts]) (begins_between (by decide) _ _)
  rw [guardCode, mentions_block, hhead]
  rfl

theorem mentions_selection (d : Dispatcher) (label : String) :
    mentions (selection d label) = d.overloads.flatMap fun b => mentions (Fragment.ofText b.body) := by
  have hrefusal : mention? ("return " ++ scriptTypeError (label ++ ": unexpected number of arguments") ++ ";") =
      none := by
    apply mention?_of_foreign
    exact ((foreign_scriptTypeError _).right _).left _
  rw [selection, mentions_append, mentions_flatMap, List.flatMap_congr fun b _ => mentions_guardCode b, mentions_cons,
    hrefusal]
  exact List.append_nil _

theorem reads_dispatcherCode (hclass : OneLine p.className) {d : Dispatcher} (hname : IsName d.functionName)
    (hsignatures : ∀ b ∈ d.overloads, OneLine b.signature) {label title : String} (hlabel : OneLine label)
    (htitle : OneLine title) : Reads (p.dispatcherCode d label title) [⟨.dispatcher, d.functionName⟩]
      (d.overloads.flatMap fun b => mentions (Fragment.ofText b.body)) := by
  have hcomment : Reads (p.dispatcherComment d title) [] [] := by
    have hlines : ∀ line ∈ [" * " ++ title] ++ (d.overloads.filter (·.signature ≠ "")).map
        (fun b => " *   " ++ p.className ++ "::" ++ b.signature), Plain line := by
      rw [List.forall_mem_append, List.forall_mem_singleton]
      refine ⟨plain_comment (oneLine_append.mpr ⟨oneLine_ofList (by decide), htitle⟩)
        (begins_append (begins_ofList (by decide)) _), ?_⟩
      intro line hline
      obtain ⟨b, hb, rfl⟩ := List.mem_map.mp hline
      apply plain_comment
      · exact oneLine_append.mpr ⟨oneLine_between (by decide) hclass (by decide),
          hsignatures b (List.mem_filter.mp hb).1⟩
      · exact begins_append (begins_between (by decide) _ _) _
    simpa [dispatcherComment] using reads_comment hlines
  have hfunction := (reads_dispatcherHeader hname).block (flat_dispatcherLines d hlabel)
  rw [mentions_selection] at hfunction
  exact hcomment.append hfunction

section

variable (hscript : OneLine p.scriptClass.name) (hclass : OneLine p.className)
include hscript hclass

theorem reads_methodSection {d : Dispatcher} (hname : IsName d.functionName) (hmember : OneLine d.member.text)
    (hsignatures : ∀ b ∈ d.overloads, OneLine b.signature) :
    Reads (p.sectionCode (p.methodSection d)) [⟨.dispatcher, d.functionName⟩]
      (d.overloads.flatMap fun b => mentions (Fragment.ofText b.body)) := by
  have hlabel : OneLine (p.scriptClass.name ++ "#" ++ d.member.text) :=
    oneLine_append.mpr ⟨oneLine_append.mpr ⟨hscript, oneLine_ofList (by decide)⟩, hmember⟩
  have htitle : OneLine (p.scriptClass.name ++ "#" ++ d.member.text ++ " (native JavaScript method)") :=
    oneLine_append.mpr ⟨hlabel, oneLine_ofList (by decide)⟩
  exact (reads_dispatcherCode hclass hname hsignatures hlabel htitle).gap

theorem reads_constructorSection (hname : IsName p.constructor.functionName)
    (hsignatures : ∀ b ∈ p.constructor.overloads, OneLine b.signature) :
    Reads (p.sectionCode p.constructorSection) [⟨.dispatcher, p.constructor.functionName⟩]
      (p.constructor.overloads.flatMap fun b => mentions (Fragment.ofText b.body)) := by
  have htitle : OneLine (p.scriptClass.name ++ " (native JavaScript constructor)") :=
    oneLine_append.mpr ⟨hscript, oneLine_ofList (by decide)⟩
  exact (reads_dispatcherCode hclass hname hsignatures hscript htitle).gap

end

theorem reads_initializerCode {code : Fragment}
    (henumerations : ∀ e ∈ p.enumerations, OneLine e.1 ∧ ∀ v ∈ e.2, OneLine v.1)
    (hconstructor : IsName p.constructor.functionName) (h : p.initializerCode = .ok code) :
    Reads code [⟨.entry, p.scriptClass.init⟩] [⟨.returns, p.constructor.functionName⟩] := by
  obtain ⟨registrations, hregistrations, rfl⟩ := Except.map_eq_ok_iff.mp h
  have hempty := silent_fixedLines "" (by simp [fixedLines])
  have hlines : ∀ line ∈ registrations.flatMap (· ++ [""]), Silent line := by
    intro line hline
    obtain ⟨code, hcode, hline⟩ := List.mem_flatMap.mp hline
    rcases List.mem_append.mp hline with hline | hline
    · obtain ⟨⟨name, values⟩, he, hregistration⟩ := exists_of_mem_mapM hregistrations hcode
      exact silent_registrationCode (henumerations _ he).1 (henumerations _ he).2 hregistration line hline
    · rw [List.mem_singleton.mp hline]
      exact hempty
  have hreturn : mention? ("return jerry_create_external_function(" ++ p.constructor.functionName ++ ");") =
      some ⟨.returns, p.constructor.functionName⟩ := mention?_text .returns hconstructor (by simp)
  have hone : OneLine ("return jerry_create_external_function(" ++ p.constructor.functionName ++ ");") :=
    oneLine_between (by decide) hconstructor.2.2.oneLine (by decide)
  have hfunction := (reads_entryHeader p.scriptClass.isName_init).block (a := registrations.flatMap (· ++ [""]) ++
    ["return jerry_create_external_function(" ++ p.constructor.functionName ++ ");"]) (Fragment.flat_indent
      (Fragment.flat_append.mpr ⟨fun line hline => (hlines line hline).1, by simpa using hone⟩))
  rw [mentions_append, mentions_eq_nil hlines, mentions_cons, hreturn] at hfunction
  exact hfunction

end Plan

end ScriptBinding
