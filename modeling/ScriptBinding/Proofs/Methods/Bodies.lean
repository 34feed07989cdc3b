import ScriptBinding.Proofs.Methods.Naming
import ScriptBinding.Proofs.Methods.Rendering
import ScriptBinding.Proofs.Methods.Vocabulary
import ScriptBinding.Proofs.Module.Mentions

/-!
What the code of a binding mentions: the information of its class, if it unwraps an object, or the function that
wraps a new one.
-/

namespace ScriptBinding

open Code Dump

theorem CodeLine.mention?_of_token {l : CodeLine} {t : Token} (ht : t ∈ l.tokens) (h : Foreign t.text) :
    mention? l.text = none := by
  apply mention?_of_foreign
  obtain ⟨c, hc, hmem⟩ := h
  refine ⟨c, hc, ?_⟩
  rw [CodeLine.toList_text]
  exact List.mem_flatMap.mpr ⟨t, ht, hmem⟩

theorem CodeLine.mention?_of_input (position : Nat) {l : CodeLine} (h : .input position ∈ l.tokens) :
    mention? l.text = none := by
  apply CodeLine.mention?_of_token h
  change Foreign ("args_p[" ++ toString (position : Int) ++ "]")
  exact (foreign_ofList (by decide)).right _

theorem foreign_scriptTypeError (message : String) : Foreign (scriptTypeError message) :=
  ((foreign_ofList (by decide)).left _).left _

namespace ScriptClass

variable (k : ScriptClass)

theorem isName_constructor : IsName k.constructor := k.isName_fixedNames _ (by simp [fixedNames])

theorem isName_init : IsName k.init := k.isName_fixedNames _ (by simp [fixedNames])

theorem isName_destructor : IsName k.destructor := k.isName_fixedNames _ (by simp [fixedNames])

theorem isName_nativeInfo : IsName k.nativeInfo := k.isName_fixedNames _ (by simp [fixedNames])

theorem isName_wrapNative : IsName k.wrapNative := k.isName_fixedNames _ (by simp [fixedNames])

theorem wrapNative_ne : k.wrapNative ≠ "jerry_create_external_function" := by
  intro h
  have hsuffix : "_wrap_native".toList.getLast? = some 'e' := by decide
  have hlast := congrArg (·.toList.getLast?) h
  simp only [wrapNative, String.toList_append, List.getLast?_append, hsuffix, Option.some_or] at hlast
  revert hlast
  decide

end ScriptClass

namespace Target

variable {c : Target} {m : Method}

theorem mentions_of_forall {lines : List CodeLine} (h : ∀ l ∈ lines, mention? l.text = none) :
    mentions (lines.map CodeLine.text) = [] := by
  apply List.filterMap_eq_nil_iff.mpr
  intro line hline
  obtain ⟨l, hl, rfl⟩ := List.mem_map.mp hline
  exact h l hl

theorem foreign_complaint (message : String) : Foreign (c.complaint m message) := by
  unfold complaint
  exact ((foreign_scriptTypeError _).right _).left _

theorem mentions_receiverCode : mentions (c.receiverCode m) =
    if m.receiver = .thisObject then [⟨.unwraps, c.scriptClass.nativeInfo⟩] else [] := by
  rw [receiverCode]
  cases m.receiver with
  | newObject | noObject => rfl
  | thisObject =>
    have hunwraps : mention? ("if (!jerry_get_object_native_pointer(this_val, &native_ptr, &" ++
        c.scriptClass.nativeInfo ++ ")) \x7b") = some ⟨.unwraps, c.scriptClass.nativeInfo⟩ :=
      mention?_text .unwraps (c.scriptClass.isName_nativeInfo) (by simp)
    have hcast : Foreign (c.className ++ "* native_obj = static_cast<" ++ c.className ++ "*>(native_ptr);") :=
      (foreign_ofList (by decide)).right _
    have hvoid : mention? "void* native_ptr;" = none := mention?_of_foreign (foreign_ofList (by decide))
    have hclose : mention? "\x7d" = none := mention?_of_quiet "\x7d" (by simp [quietStarts]) List.prefix_rfl
    simp [Fragment.block, mention?_indentLine, hunwraps, hvoid, hclose, mention?_of_foreign hcast,
      mention?_of_foreign (foreign_complaint _)]

theorem mention?_checkLines (type : NativeType) (position : Nat) :
    ∀ l ∈ c.checkLines m type position, mention? l.text = none := by
  simp only [checkLines, List.forall_mem_cons, List.not_mem_nil, false_implies, implies_true, and_true]
  refine ⟨?_, ?_, mention?_of_quiet "\x7d" (by simp [quietStarts]) List.prefix_rfl⟩
  · apply CodeLine.mention?_of_input position
    simp
  · apply CodeLine.mention?_of_token (t := .fixed "jerry_create_error(JERRY_ERROR_TYPE, (const jerry_char_t*)")
    · simp [refusalTokens]
    · exact foreign_ofList (by decide)

theorem mention?_textLines (position : Nat) : ∀ l ∈ textLines position, mention? l.text = none := by
  simp only [textLines, List.forall_mem_cons, List.not_mem_nil, false_implies, implies_true, and_true]
  refine ⟨?_, ?_, ?_, ?_⟩
  · apply CodeLine.mention?_of_input position
    simp
  · apply CodeLine.mention?_of_token (t := .allocate)
    · simp
    · exact foreign_ofList (by decide)
  · apply CodeLine.mention?_of_input position
    simp
  · apply CodeLine.mention?_of_token (t := .fixed "[")
    · simp
    · exact foreign_ofList (by decide)

theorem mention?_readLines (type : NativeType) (position : Nat) :
    ∀ l ∈ readLines type position, mention? l.text = none := by
  intro l hl
  rw [readLines] at hl
  split at hl
  · exact mention?_textLines position l hl
  · obtain rfl := List.mem_singleton.mp hl
    apply CodeLine.mention?_of_input position
    simp
  · obtain rfl := List.mem_singleton.mp hl
    apply CodeLine.mention?_of_input position
    simp

theorem mention?_callLine : mention? (c.callLine m).text = none := by
  unfold callLine holderTokens callTokens calleeTokens
  cases m.receiver with
  | newObject => exact CodeLine.mention?_of_token (t := .fixed "* ") (by simp) (foreign_ofList (by decide))
  | noObject => exact CodeLine.mention?_of_token (t := .fixed "::") (by simp) (foreign_ofList (by decide))
  | thisObject => exact CodeLine.mention?_of_token (t := .fixed "->") (by simp) (foreign_ofList (by decide))

theorem mention?_releaseLines (type : NativeType) (position : Nat) :
    ∀ l ∈ releaseLines type position, mention? l.text = none := by
  intro l hl
  rw [releaseLines] at hl
  split at hl
  · obtain rfl := List.mem_singleton.mp hl
    exact CodeLine.mention?_of_token (t := .release) (by simp) (foreign_ofList (by decide))
  · cases hl

theorem mention?_resultLine : mention? (c.resultLine m).text =
    if m.receiver = .newObject then some ⟨.wraps, c.scriptClass.wrapNative⟩ else none := by
  obtain ⟨name, receiver, parameters, result⟩ := m
  have hundefined : mention? "return jerry_create_undefined();" = none :=
    mention?_returned "return jerry_create_u" (by decide) (by decide) (apart_ofList (by decide)) (by decide)
  have hboolean : mention? "return jerry_create_boolean(result);" = none :=
    mention?_returned "return jerry_create_b" (by decide) (by decide) (apart_ofList (by decide)) (by decide)
  have hnumber : mention? "return jerry_create_number((double)result);" = none :=
    mention?_returned "return jerry_create_n" (by decide) (by decide) (apart_ofList (by decide)) (by decide)
  have hstring : mention? "return result ? jerry_create_string((const jerry_char_t*)result) : jerry_create_null();" =
      none := mention?_of_foreign (foreign_ofList (by decide))
  cases receiver with
  | newObject =>
    have htext : (c.resultLine ⟨name, .newObject, parameters, result⟩).text =
        Use.wraps.frame.text c.scriptClass.wrapNative := by
      simp [← String.toList_inj, CodeLine.toList_text, resultLine, resultTokens, Token.text, Variable.text,
        Use.frame, Frame.text]
    rw [htext, mention?_text .wraps c.scriptClass.isName_wrapNative fun _ => c.scriptClass.wrapNative_ne]
    rfl
  | noObject | thisObject =>
    unfold resultLine resultTokens
    cases result.category with
    | void => exact hundefined
    | bool => exact hboolean
    | string => exact hstring
    | int | float | enum | unsupported | custom => exact hnumber

theorem mentions_listing (signature : Option String) : mentions ((c.listing m signature).map CodeLine.text) =
    (if m.receiver = .thisObject then [⟨.unwraps, c.scriptClass.nativeInfo⟩] else []) ++
      if m.receiver = .newObject then [⟨.wraps, c.scriptClass.wrapNative⟩] else [] := by
  have hcomment : mentions ((commentLines signature).map CodeLine.text) = [] := by
    apply mentions_of_forall
    intro l hl
    obtain ⟨s, -, rfl⟩ := List.mem_map.mp hl
    exact CodeLine.mention?_of_token (t := .fixed "// ") (by simp) (foreign_ofList (by decide))
  have hnumbered (f : NativeType × Nat → List CodeLine) (hf : ∀ p, ∀ l ∈ f p, mention? l.text = none) :
      mentions ((m.parameters.zipIdx.flatMap f).map CodeLine.text) = [] := by
    apply mentions_of_forall
    intro l hl
    obtain ⟨p, -, hl⟩ := List.mem_flatMap.mp hl
    exact hf p l hl
  rw [listing]
  simp only [List.map_append, mentions_append, hcomment, text_receiverLines, mentions_receiverCode,
    List.map_singleton, mentions_cons, mentions_nil, mention?_callLine, mention?_resultLine]
  rw [hnumbered, hnumbered, hnumbered]
  · cases m.receiver <;> rfl
  · rintro ⟨type, position⟩
    exact mention?_releaseLines type position
  · rintro ⟨type, position⟩
    exact mention?_readLines type position
  · rintro ⟨type, position⟩
    exact c.mention?_checkLines type position

theorem isName_of_binding? {method : Nat} {siblings : List Nat} {b : Binding} (ht : c.tree.Flat)
    (h : c.binding? method siblings = .ok (some b)) {name : String} (hb : b.member = .method name) : IsName name := by
  obtain ⟨m, -, haccepts, -, -, hmember, -, -⟩ := exists_of_binding? h
  have hname : m.name = name := by
    rw [hmember, Method.member] at hb
    split at hb
    · cases hb
    · exact Member.method.inj hb
  have hcallable := haccepts.name
  rw [callableName?] at hcallable
  split at hcallable
  · obtain ⟨hread, hidentifier⟩ := Option.filter_eq_some_iff.mp hcallable
    rw [← hname]
    exact isName_of_isIdentifier hidentifier fun hlast => ht.name? hread (List.mem_of_getLast? hlast)
  · cases hcallable

theorem exists_body {method : Nat} {siblings : List Nat} {b : Binding} (ht : c.tree.Flat)
    (hc : c.types.handlers = []) (hname : OneLine c.scriptClass.name)
    (h : c.binding? method siblings = .ok (some b)) :
    ∃ m body, c.Accepts method m ∧ c.Named m ∧ c.Writes m (c.hasNamesake m.name method siblings) body ∧
      signatureOf (some m.name) m.parameters = .ok b.signature ∧ b.member = m.member ∧ OneLine b.signature ∧
      Fragment.ofText b.body = body.code := by
  obtain ⟨m, body, haccepts, hwrites, hsignature, hmember, -, hbody⟩ := exists_of_binding? h
  have hnamed := named_of_accepts ht hname haccepts
  have hs := oneLine_signature hnamed.name hnamed.parameters hsignature
  have hflat : body.code.Flat := by
    rw [← c.text_listing hc hwrites hsignature]
    intro l hl
    obtain ⟨line, hline, rfl⟩ := List.mem_map.mp hl
    apply (hnamed.fits_listing _ line hline).oneLine
    intro s hshown
    split at hshown
    · rwa [← Option.some.inj hshown]
    · cases hshown
  refine ⟨m, body, haccepts, hnamed, hwrites, hsignature, hmember, hs, ?_⟩
  rw [hbody]
  exact Fragment.ofText_toText hflat (by simp [MethodBody.code])

theorem exists_listing {method : Nat} {siblings : List Nat} {b : Binding} (ht : c.tree.Flat)
    (hc : c.types.handlers = []) (hname : OneLine c.scriptClass.name)
    (h : c.binding? method siblings = .ok (some b)) :
    ∃ m signature, c.Accepts method m ∧ c.Named m ∧ b.member = m.member ∧ OneLine b.signature ∧
      Fragment.ofText b.body = (c.listing m signature).map CodeLine.text := by
  obtain ⟨m, body, haccepts, hnamed, hwrites, hsignature, hmember, hs, hbody⟩ := exists_body ht hc hname h
  refine ⟨m, if c.hasNamesake m.name method siblings then some b.signature else none, haccepts, hnamed, hmember,
    hs, ?_⟩
  rw [hbody, c.text_listing hc hwrites hsignature]

/-- What the body of a binding mentions depends on whether it is called on an object and whether it makes one. -/
theorem mentions_body {method : Nat} {siblings : List Nat} {b : Binding} (ht : c.tree.Flat)
    (hc : c.types.handlers = []) (hname : OneLine c.scriptClass.name)
    (h : c.binding? method siblings = .ok (some b)) :
    mentions (Fragment.ofText b.body) =
      if b.member = .constructor then [⟨.wraps, c.scriptClass.wrapNative⟩]
      else if c.isStatic method then [] else [⟨.unwraps, c.scriptClass.nativeInfo⟩] := by
  obtain ⟨m, signature, haccepts, -, hmember, -, htext⟩ := exists_listing ht hc hname h
  have hconstructor : m.member = .constructor ↔ m.receiver = .newObject := by
    rw [Method.member]
    cases m.receiver <;> simp
  have hthis := receiver_eq_thisObject_iff haccepts
  rw [ne_eq, hconstructor] at hthis
  simp only [htext, mentions_listing, hmember, hconstructor, hthis]
  by_cases hnew : m.receiver = .newObject
  · simp [hnew]
  · by_cases hstatic : c.isStatic method = true <;> simp [hnew, hstatic]

end Target

end ScriptBinding
