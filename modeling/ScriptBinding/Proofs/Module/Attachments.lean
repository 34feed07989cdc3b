import ScriptBinding.Proofs.Module.Sections

/-!
The properties that the wrapper of a class attaches to a new object. A reader remembers the property and the
function named last, and pairs them where the property is set.
-/

namespace ScriptBinding

open Code

def propertyFrame : Frame := ⟨"jerry_value_t prop_name = jerry_create_string((const jerry_char_t*)\"", "\");"⟩

def setLine : String := "jerry_release_value(jerry_set_property(js_obj, prop_name, prop_fn));"

/-- The name and the function that are at hand, and the properties that have been set. -/
structure Attaching where
  property : Option String := none
  function : Option String := none
  attached : List (String × String) := []
deriving DecidableEq

namespace Attaching

def next (a : Attaching) (line : String) : Attaching :=
  if outdented line = setLine.toList then
    match a.property, a.function with
    | some property, some function => { a with attached := a.attached ++ [(property, function)] }
    | _, _ => a
  else
    match propertyFrame.read? (outdented line), mention? line with
    | some property, _ => { a with property := some property }
    | none, some ⟨.attaches, function⟩ => { a with function := some function }
    | none, _ => a

end Attaching

theorem outdented_ne_setLine {start line : String} (hstart : start.toList <+: line.toList)
    (hhead : start.toList.head? ≠ some ' ' ∧ start.toList ≠ []) (hset : Apart start setLine) :
    outdented line ≠ setLine.toList := by
  rw [outdented_of_head (head?_ne_of_begins hstart hhead)]
  intro hsame
  rw [hsame] at hstart
  exact hset.1 hstart

def attachments (code : Fragment) : List (String × String) := (code.foldl Attaching.next {}).attached

/-- A line that does not change what is at hand. -/
def Idle (line : String) : Prop :=
  outdented line ≠ setLine.toList ∧ propertyFrame.read? (outdented line) = none ∧
    ∀ m ∈ mention? line, m.use ≠ .attaches

instance : DecidablePred Idle := fun line =>
  inferInstanceAs (Decidable (_ ∧ _ ∧ ∀ m ∈ mention? line, _))

def idleLines : Fragment := [
  "", "\x7b", "\x7d", "/**", " */", "jerry_value_t js_obj = jerry_create_object();", "return js_obj;",
  "jerry_release_value(prop_fn);", "jerry_release_value(prop_name);"]

/-- A line that does not end with a semicolon sets nothing. -/
theorem idle_of_getLast? {line : String} (c : Char) (hlast : line.toList.getLast? = some c) (hc : c ≠ ';')
    (hmention : mention? line = none) : Idle line := by
  have hend {cs : List Char} (hcs : cs.getLast? = some ';') : outdented line ≠ cs := by
    intro hsame
    have hsplit := List.takeWhile_append_dropWhile (p := fun d => decide (d = ' ')) (l := line.toList)
    have hline : line.toList.getLast? = some ';' := by
      rw [← hsplit, List.getLast?_append]
      change (outdented line).getLast?.or _ = _
      rw [hsame, hcs]
      rfl
    exact hc (Option.some.inj (hlast.symm.trans hline))
  have hset : setLine.toList.getLast? = some ';' := by
    rw [setLine, String.toList_ofList]
    decide
  refine ⟨hend hset, ?_, by simp [hmention]⟩
  apply Option.eq_none_iff_forall_ne_some.mpr
  intro name hread
  apply hend _ (Frame.eq_text_of_read? hread).1
  exact getLast?_append_of_getLast? (by decide)

theorem idle_of_begins (start : String) {line : String} (hstart : start.toList <+: line.toList)
    (hhead : start.toList.head? ≠ some ' ' ∧ start.toList ≠ []) (hset : Apart start setLine)
    (hproperty : Apart start propertyFrame.before) (hmention : ∀ m ∈ mention? line, m.use ≠ .attaches) :
    Idle line := by
  refine ⟨outdented_ne_setLine hstart hhead hset, ?_, hmention⟩
  rw [outdented_of_head (head?_ne_of_begins hstart hhead)]
  exact Frame.read?_eq_none (hproperty.not_begins hstart)

theorem idle_empty : Idle "" := by
  have hset : outdented "" ≠ setLine.toList := by
    rw [setLine, String.toList_ofList]
    decide
  have hproperty : ¬ propertyFrame.before.toList <+: outdented "" := by
    rw [propertyFrame, String.toList_ofList]
    decide
  exact ⟨hset, Frame.read?_eq_none hproperty, by simp [mention?_empty]⟩

theorem idle_idleLines : ∀ line ∈ idleLines, Idle line := by
  have hfixed {line : String} (hline : line ∈ fixedLines) : ∀ m ∈ mention? line, m.use ≠ .attaches := by
    simp [(silent_fixedLines line hline).2]
  have hopen : Idle "\x7b" := idle_of_begins "\x7b" List.prefix_rfl (head_ofList (by decide))
    (apart_ofList (by decide)) (apart_ofList (by decide)) (hfixed (by simp [fixedLines]))
  have hclose : Idle "\x7d" :=
    idle_of_getLast? '\x7d' (by decide) (by decide) (mention?_of_quiet "\x7d" (by simp [quietStarts]) List.prefix_rfl)
  have hcomment : Idle "/**" :=
    idle_of_getLast? '*' (by decide) (by decide) (mention?_of_foreign (foreign_ofList (by decide)))
  have hend : Idle " */" :=
    idle_of_getLast? '/' (by decide) (by decide) (mention?_of_foreign (foreign_ofList (by decide)))
  have hobject : Idle "jerry_value_t js_obj = jerry_create_object();" :=
    idle_of_begins "jerry_value_t js" (begins_ofList (by decide)) (head_ofList (by decide))
      (apart_ofList (by decide)) (apart_ofList (by decide)) (hfixed (by simp [fixedLines]))
  have hreturn : Idle "return js_obj;" :=
    idle_of_begins "r" (begins_ofList (by decide)) (head_ofList (by decide)) (apart_ofList (by decide))
      (apart_ofList (by decide)) (hfixed (by simp [fixedLines]))
  have hrelease {cs : List Char} (hcs : "jerry_release_value(p".toList <+: (String.ofList cs).toList)
      (hline : .ofList cs ∈ fixedLines) : Idle (.ofList cs) :=
    idle_of_begins "jerry_release_value(p" hcs (head_ofList (by decide)) (apart_ofList (by decide))
      (apart_ofList (by decide)) (hfixed hline)
  simp only [idleLines, List.forall_mem_cons, List.not_mem_nil, false_implies, implies_true, and_true]
  exact ⟨idle_empty, hopen, hclose, hcomment, hend, hobject, hreturn,
    hrelease (begins_ofList (by decide)) (by simp [fixedLines]),
    hrelease (begins_ofList (by decide)) (by simp [fixedLines])⟩

theorem idle_of_subset {code : Fragment} (h : code ⊆ idleLines) : ∀ line ∈ code, Idle line :=
  fun line hline => idle_idleLines line (h hline)

namespace Attaching

variable {a : Attaching}

theorem next_of_idle {line : String} (h : Idle line) : a.next line = a := by
  obtain ⟨hset, hproperty, hmention⟩ := h
  rw [next, if_neg hset, hproperty]
  split
  · next h => cases h
  · next function hline => exact absurd rfl (hmention _ hline)
  · rfl

theorem foldl_of_idle {code : Fragment} (h : ∀ line ∈ code, Idle line) : code.foldl next a = a := by
  induction code with
  | nil => rfl
  | cons line code ih =>
    rw [List.foldl_cons, next_of_idle (h line List.mem_cons_self)]
    exact ih fun l hl => h l (List.mem_cons_of_mem _ hl)

theorem next_indentLine (line : String) : a.next (Fragment.indentLine line) = a.next line := by
  rw [next, outdented_indentLine, mention?_indentLine, ← next]

theorem foldl_indent (code : Fragment) : (Fragment.indent code).foldl next a = code.foldl next a := by
  rw [Fragment.indent, List.foldl_map]
  simp only [next_indentLine]

theorem next_setLine {property function : String} (hproperty : a.property = some property)
    (hfunction : a.function = some function) :
    a.next setLine = { a with attached := a.attached ++ [(property, function)] } := by
  have hline : outdented setLine = setLine.toList := outdented_of_head (head_ofList (by decide)).1
  rw [next, if_pos hline, hproperty, hfunction]

end Attaching

theorem stringLiteral_of_isPart {text : String} (h : IsPart text) : stringLiteral text = "\"" ++ text ++ "\"" := by
  have hplain : ∀ c ∈ text.toList, escapeChar c = [c] := by
    intro c hc
    have hne {d : Char} (hd : isNameChar d = false) : c ≠ d := ne_of_isNameChar (h c hc) hd
    simp [escapeChar, hne (show isNameChar '\\' = false by decide), hne (show isNameChar '"' = false by decide)]
  have hescape : escapeChars text.toList = text.toList := by
    rw [escapeChars, List.flatMap_congr hplain, List.flatMap_singleton']
  rw [stringLiteral, hescape, String.ofList_toList]

theorem text_propertyFrame {text : String} (h : IsPart text) :
    "jerry_value_t prop_name = " ++ scriptString text ++ ";" = propertyFrame.text text := by
  have hbefore : "jerry_value_t prop_name = jerry_create_string((const jerry_char_t*)\"" =
      "jerry_value_t prop_name = " ++ ("jerry_create_string((const jerry_char_t*)" ++ "\"") := by decide
  have hafter : "\");" = "\"" ++ (")" ++ ";") := by decide
  change _ = "jerry_value_t prop_name = jerry_create_string((const jerry_char_t*)\"" ++ text ++ "\");"
  unfold scriptString
  rw [stringLiteral_of_isPart h, hbefore, hafter]
  simp only [String.append_assoc]

namespace Attaching

variable {a : Attaching} {d : Dispatcher}

theorem next_property (h : IsName d.member.text) :
    a.next ("jerry_value_t prop_name = " ++ scriptString d.member.text ++ ";") =
      { a with property := some d.member.text } := by
  have hstart : "jerry_value_t prop_name".toList <+: (propertyFrame.text d.member.text).toList :=
    begins_between (by decide) _ _
  rw [text_propertyFrame h.2.2, next, if_neg (outdented_ne_setLine hstart (by decide) (apart_ofList (by decide))),
    outdented_of_head (head?_ne_of_begins hstart (by decide)), Frame.read?_text h (by decide)]

theorem next_attaches (h : IsName d.functionName) :
    a.next ("jerry_value_t prop_fn = jerry_create_external_function(" ++ d.functionName ++ ");") =
      { a with function := some d.functionName } := by
  have hstart : "jerry_value_t prop_fn".toList <+:
      ("jerry_value_t prop_fn = jerry_create_external_function(" ++ d.functionName ++ ");").toList :=
    begins_between (by decide) _ _
  have hproperty := Frame.read?_eq_none
    ((show Apart "jerry_value_t prop_fn" propertyFrame.before from apart_ofList (by decide)).not_begins hstart)
  have huse : mention? ("jerry_value_t prop_fn = jerry_create_external_function(" ++ d.functionName ++ ");") =
      some ⟨.attaches, d.functionName⟩ := mention?_text .attaches h (by simp)
  rw [next, if_neg (outdented_ne_setLine hstart (by decide) (apart_ofList (by decide))),
    outdented_of_head (head?_ne_of_begins hstart (by decide)), hproperty, huse]

theorem foldl_propertyCode (hmember : IsName d.member.text) (hname : IsName d.functionName) :
    (Target.propertyCode d).foldl next a =
      ⟨some d.member.text, some d.functionName, a.attached ++ [(d.member.text, d.functionName)]⟩ := by
  have hopen : ∀ line ∈ ["", "\x7b"], Idle line := idle_of_subset (by simp [idleLines])
  have hrest : ∀ line ∈ ["jerry_release_value(prop_fn);", "jerry_release_value(prop_name);"], Idle line :=
    idle_of_subset (by simp [idleLines])
  have hclose : ∀ line ∈ ["\x7d"], Idle line := idle_of_subset (by simp [idleLines])
  have hbody : ["jerry_value_t prop_name = " ++ scriptString d.member.text ++ ";",
      "jerry_value_t prop_fn = jerry_create_external_function(" ++ d.functionName ++ ");", setLine,
      "jerry_release_value(prop_fn);", "jerry_release_value(prop_name);"].foldl next a =
      ⟨some d.member.text, some d.functionName, a.attached ++ [(d.member.text, d.functionName)]⟩ := by
    rw [List.foldl_cons, next_property hmember, List.foldl_cons, next_attaches hname, List.foldl_cons,
      next_setLine rfl rfl, foldl_of_idle hrest]
  change (["", "\x7b"] ++ Fragment.indent _ ++ ["\x7d"]).foldl next a = _
  rw [List.foldl_append, List.foldl_append, foldl_of_idle hopen, foldl_indent, foldl_of_idle hclose]
  exact hbody

theorem attached_foldl {methods : List Dispatcher} (hmembers : ∀ d ∈ methods, IsName d.member.text)
    (hnames : ∀ d ∈ methods, IsName d.functionName) :
    ((methods.flatMap Target.propertyCode).foldl next a).attached =
      a.attached ++ methods.map fun d => (d.member.text, d.functionName) := by
  induction methods generalizing a with
  | nil => simp
  | cons d methods ih =>
    rw [List.flatMap_cons, List.foldl_append,
      foldl_propertyCode (hmembers d List.mem_cons_self) (hnames d List.mem_cons_self),
      ih (fun d hd => hmembers d (List.mem_cons_of_mem _ hd)) fun d hd => hnames d (List.mem_cons_of_mem _ hd)]
    simp

end Attaching

theorem attachments_gap (code : Fragment) : attachments (code ++ [""]) = attachments code := by
  have hgap : ∀ line ∈ [""], Idle line := idle_of_subset (by simp [idleLines])
  rw [attachments, List.foldl_append, Attaching.foldl_of_idle hgap, ← attachments]

namespace Target

variable {c : Target}

theorem idle_wrapperTitle : Idle (" * Wrap a native " ++ c.className ++ " in a JavaScript object") := by
  apply idle_of_getLast? 't' (getLast?_append_of_getLast? (by decide)) (by decide)
  exact mention?_of_foreign (((foreign_ofList (by decide)).left _).left _)

theorem idle_wrapperHeader :
    Idle ("jerry_value_t " ++ c.scriptClass.wrapNative ++ "(" ++ c.className ++ "* native_obj) \x7b") := by
  apply idle_of_getLast? '\x7b' (getLast?_append_of_getLast? (by decide)) (by decide)
  exact mention?_of_foreign ((foreign_ofList (by decide)).right _)

theorem idle_marks :
    Idle ("jerry_set_object_native_pointer(js_obj, native_obj, &" ++ c.scriptClass.nativeInfo ++ ");") := by
  have hmarks : mention? ("jerry_set_object_native_pointer(js_obj, native_obj, &" ++ c.scriptClass.nativeInfo ++
      ");") = some ⟨.marks, c.scriptClass.nativeInfo⟩ :=
    mention?_text .marks c.scriptClass.isName_nativeInfo (by simp)
  have hstart : "jerry_set".toList <+: ("jerry_set_object_native_pointer(js_obj, native_obj, &" ++
      c.scriptClass.nativeInfo ++ ");").toList := begins_between (by decide) _ _
  exact idle_of_begins "jerry_set" hstart (head_ofList (by decide)) (apart_ofList (by decide))
    (apart_ofList (by decide)) (by simp [hmarks])

theorem attachments_nativeWrapperCode {methods : List Dispatcher}
    (hmembers : ∀ d ∈ methods, IsName d.member.text) (hnames : ∀ d ∈ methods, IsName d.functionName) :
    attachments (c.nativeWrapperCode methods) = methods.map fun d => (d.member.text, d.functionName) := by
  have hcomment : ∀ line ∈ ["/**", " * Wrap a native " ++ c.className ++ " in a JavaScript object", " */"],
      Idle line := by
    simp only [List.forall_mem_cons, List.not_mem_nil, false_implies, implies_true, and_true]
    exact ⟨idle_idleLines _ (by simp [idleLines]), idle_wrapperTitle, idle_idleLines _ (by simp [idleLines])⟩
  have hheader : ∀ line ∈ ["jerry_value_t " ++ c.scriptClass.wrapNative ++ "(" ++ c.className ++
      "* native_obj) \x7b"], Idle line := by
    rw [List.forall_mem_singleton]
    exact idle_wrapperHeader
  have hobject : ∀ line ∈ ["jerry_value_t js_obj = jerry_create_object();",
      "jerry_set_object_native_pointer(js_obj, native_obj, &" ++ c.scriptClass.nativeInfo ++ ");"], Idle line := by
    rw [List.forall_mem_cons, List.forall_mem_singleton]
    exact ⟨idle_idleLines _ (by simp [idleLines]), idle_marks⟩
  have hreturn : ∀ line ∈ ["", "return js_obj;"], Idle line := idle_of_subset (by simp [idleLines])
  have hclose : ∀ line ∈ ["\x7d"], Idle line := idle_of_subset (by simp [idleLines])
  have hattached := Attaching.attached_foldl (a := {}) hmembers hnames
  rw [List.nil_append] at hattached
  rw [attachments, ← hattached]
  change ((_ ++ ([_] ++ Fragment.indent (_ ++ _ ++ _) ++ [_])).foldl Attaching.next {}).attached = _
  rw [List.foldl_append, List.foldl_append, List.foldl_append, Attaching.foldl_indent, List.foldl_append,
    List.foldl_append, Attaching.foldl_of_idle hcomment, Attaching.foldl_of_idle hheader,
    Attaching.foldl_of_idle hobject, Attaching.foldl_of_idle hreturn, Attaching.foldl_of_idle hclose]

end Target

end ScriptBinding
