import Mathlib.Data.List.Nodup
import ScriptBinding.Proofs.Methods.Rendering
import ScriptBinding.Proofs.Methods.Stages

/-!
What the code of a binding does with its arguments, buffers and variables.
-/

namespace ScriptBinding

open Code Dump Text

def textPositions (parameters : List NativeType) : List Nat :=
  parameters.zipIdx.flatMap fun (type, position) => if type.category = .string then [position] else []

/-- Lines of code that are safe for a call with as many arguments as there are parameters. -/
structure Safe (parameters : List NativeType) (lines : List CodeLine) : Prop where
  staged : lines.Pairwise fun a b => a.stage.rank ≤ b.stage.rank
  /-- Fixed texts hide no action. -/
  plain : ∀ l ∈ lines, ∀ s, .fixed s ∈ l.tokens → ∀ mark ∈ marks, ¬ mark.toList <:+: s.toList
  /-- No line looks at an argument beyond the last one. -/
  input_lt : ∀ l ∈ lines, ∀ i, .input i ∈ l.tokens → i < parameters.length
  checked : lines.filterMap CodeLine.checked? = List.range parameters.length
  converted : lines.filterMap CodeLine.converted? = List.range parameters.length
  called : ∃ l, lines.filter (·.stage = .call) = [l] ∧ l.passed = List.range parameters.length
  allocated : lines.filterMap CodeLine.allocated? = textPositions parameters
  released : lines.filterMap CodeLine.released? = textPositions parameters
  texts_nodup : (textPositions parameters).Nodup
  check_before_convert : ∀ (j k : Nat) (a b : CodeLine), lines[j]? = some a → lines[k]? = some b →
    a.checked?.isSome → b.converted?.isSome → j < k
  return_before_allocate : ∀ (j k : Nat) (a b : CodeLine), lines[j]? = some a → lines[k]? = some b →
    a.returns → j + 1 < lines.length → b.allocated?.isSome → j < k
  release_after_call : ∀ (j k : Nat) (a b : CodeLine), lines[j]? = some a → lines[k]? = some b →
    a.stage = .call → b.released?.isSome → j < k ∧ k + 1 < lines.length
  returns : ∃ l, lines.getLast? = some l ∧ l.returns
  names_nodup : ((lines.flatMap CodeLine.declared).map Variable.text).Nodup

section Names

theorem toList_argumentName (i : Nat) : (argumentName i).toList = "arg".toList ++ Nat.toDigits 10 i := by
  rw [argumentName, String.toList_append]
  exact congrArg _ Nat.toList_repr

theorem argumentName_injective {i j : Nat} (h : argumentName i = argumentName j) : i = j := by
  have hdigits : Nat.toDigits 10 i = Nat.toDigits 10 j := by
    have hlist := congrArg String.toList h
    rw [toList_argumentName, toList_argumentName] at hlist
    exact List.append_cancel_left hlist
  rw [← ofDigits_toDigits (b := 10) (by decide) (by decide) i, hdigits,
    ofDigits_toDigits (by decide) (by decide)]

theorem argumentName_ne_size (i j : Nat) : argumentName i ≠ argumentName j ++ "_size" := by
  intro h
  have hlist := congrArg String.toList h
  rw [String.toList_append, toList_argumentName, toList_argumentName, List.append_assoc] at hlist
  have hmem : '_' ∈ Nat.toDigits 10 i := by
    rw [List.append_cancel_left hlist]
    simp
  have hdecimal : isDecimal '_' = false := by decide +kernel
  rw [isDecimal_of_mem_toDigits _ hmem] at hdecimal
  cases hdecimal

theorem Variable.text_injective : Function.Injective text := by
  intro v w h
  cases v with
  | argument i =>
    cases w with
    | argument j => rw [argumentName_injective h]
    | size j => exact absurd h (argumentName_ne_size i j)
    | nativePointer | nativeObject | result => simp [text, ← String.toList_inj, toList_argumentName] at h
  | size i =>
    cases w with
    | argument j => exact absurd h.symm (argumentName_ne_size j i)
    | size j => rw [argumentName_injective (String.append_left_inj _ |>.mp h)]
    | nativePointer | nativeObject | result => simp [text, ← String.toList_inj, toList_argumentName] at h
  | nativePointer | nativeObject | result =>
    cases w <;> simp [text, ← String.toList_inj, toList_argumentName] at h ⊢

end Names

namespace Target

variable {c : Target} {m : Method} {signature : Option String}

theorem flatMap_position (parameters : List NativeType) :
    (parameters.zipIdx.flatMap fun p => [p.2]) = List.range parameters.length := by
  have hmap : (parameters.zipIdx.flatMap fun p => [p.2]) = parameters.zipIdx.map (·.2) :=
    List.flatMap_pure_eq_map _ _
  rw [hmap, List.zipIdx_map_snd, List.range_eq_range']

theorem filterMap_checkLines (type : NativeType) (position : Nat) :
    (c.checkLines m type position).filterMap CodeLine.checked? = [position] := rfl

theorem filterMap_converted_readLines (type : NativeType) (position : Nat) :
    (readLines type position).filterMap CodeLine.converted? = [position] := by
  rw [readLines]
  split <;> rfl

theorem filterMap_allocated_readLines (type : NativeType) (position : Nat) :
    (readLines type position).filterMap CodeLine.allocated? =
      if type.category = .string then [position] else [] := by
  rw [readLines]
  cases type.category <;> rfl

theorem filterMap_releaseLines (type : NativeType) (position : Nat) :
    (releaseLines type position).filterMap CodeLine.released? =
      if type.category = .string then [position] else [] := by
  rw [releaseLines]
  split <;> rfl

theorem filterMap_argumentTokens (positions : List Nat) :
    ((positions.map fun i => Token.used (.argument i)).intersperse (.fixed ", ")).filterMap
      Token.usedArgument? = positions := by
  induction positions with
  | nil => rfl
  | cons i positions ih =>
    cases positions with
    | nil => rfl
    | cons j positions =>
      rw [List.map_cons] at ih
      rw [List.map_cons, List.map_cons, List.intersperse_cons_cons,
        List.filterMap_cons_some (show Token.usedArgument? (.used (.argument i)) = some i from rfl),
        List.filterMap_cons_none (show Token.usedArgument? (.fixed ", ") = none from rfl), ih]

theorem passed_callLine : (c.callLine m).passed = List.range m.parameters.length := by
  have hholder : (c.holderTokens m).filterMap Token.usedArgument? = [] := by
    rw [holderTokens]
    split <;> rfl
  have hcallee : (c.calleeTokens m).filterMap Token.usedArgument? = [] := by
    rw [calleeTokens]
    split <;> rfl
  have hopen : Token.usedArgument? (.fixed "(") = none := rfl
  have hclose : Token.usedArgument? (.fixed ");") = none := rfl
  rw [CodeLine.passed, callLine, callTokens]
  simp only [List.filterMap_append, hholder, hcallee, List.filterMap_cons_none hopen,
    List.filterMap_cons_none hclose, List.filterMap_nil, argumentTokens, filterMap_argumentTokens,
    List.nil_append, List.append_nil]

theorem nodup_flatMap_zipIdx {β : Type} {parameters : List NativeType} {f : NativeType × Nat → List β}
    (position : β → Nat) (hf : ∀ p, (f p).Nodup ∧ ∀ b ∈ f p, position b = p.2) :
    (parameters.zipIdx.flatMap f).Nodup := by
  have hpositions : (parameters.zipIdx.map (·.2)).Nodup := by
    rw [List.zipIdx_map_snd]
    exact List.nodup_range'
  refine List.nodup_flatMap.mpr ⟨fun p _ => (hf p).1, ?_⟩
  refine (List.pairwise_map.mp hpositions).imp fun {p q} hpq b hp hq => hpq ?_
  rw [← (hf p).2 b hp, (hf q).2 b hq]

theorem nodup_textPositions (parameters : List NativeType) : (textPositions parameters).Nodup := by
  apply nodup_flatMap_zipIdx id
  intro p
  dsimp only
  split <;> simp

def readVariables (p : NativeType × Nat) : List Variable :=
  if p.1.category = .string then [.size p.2, .argument p.2] else [.argument p.2]

theorem declared_readLines (type : NativeType) (position : Nat) :
    (readLines type position).flatMap CodeLine.declared = readVariables (type, position) := by
  rw [readLines, readVariables]
  cases type.category <;> rfl

theorem nodup_readVariables (parameters : List NativeType) :
    (parameters.zipIdx.flatMap readVariables).Nodup := by
  let position : Variable → Nat
    | .argument i => i
    | .size i => i
    | _ => 0
  apply nodup_flatMap_zipIdx position
  intro p
  rw [readVariables]
  split <;> simp [position]

theorem position_of_mem_readVariables (parameters : List NativeType) :
    ∀ v ∈ parameters.zipIdx.flatMap readVariables, ∃ i, v = .argument i ∨ v = .size i := by
  intro v hv
  obtain ⟨p, -, hv⟩ := List.mem_flatMap.mp hv
  rw [readVariables] at hv
  split at hv
  · simp only [List.mem_cons, List.not_mem_nil, or_false] at hv
    exact ⟨p.2, hv.symm⟩
  · exact ⟨p.2, .inl (List.mem_singleton.mp hv)⟩

theorem flatMap_declared_receiverLines (c : Target) (m : Method) :
    (c.receiverLines m).flatMap CodeLine.declared =
      if m.receiver = .thisObject then [.nativePointer, .nativeObject] else [] := by
  rw [receiverLines]
  split <;> rfl

theorem declared_callLine (c : Target) (m : Method) : (c.callLine m).declared =
    if m.receiver = .newObject then [.nativeObject]
    else if m.result.category = .void then [] else [.result] := by
  have hcallee : (c.calleeTokens m).filterMap Token.declared? = [] := by
    rw [calleeTokens]
    split <;> rfl
  have harguments : (argumentTokens m.parameters.length).filterMap Token.declared? = [] := by
    apply List.filterMap_eq_nil_iff.mpr
    intro t ht
    rcases mem_argumentTokens ht with rfl | ⟨i, -, rfl⟩ <;> rfl
  have hopen : Token.declared? (.fixed "(") = none := rfl
  have hclose : Token.declared? (.fixed ");") = none := rfl
  rw [CodeLine.declared, callLine, callTokens]
  simp only [List.filterMap_append, hcallee, harguments, List.filterMap_cons_none hopen,
    List.filterMap_cons_none hclose, List.filterMap_nil, List.append_nil]
  rw [holderTokens]
  cases m.receiver <;> cases m.result.category <;> rfl

theorem flatMap_declared_listing : (c.listing m signature).flatMap CodeLine.declared =
    (c.receiverLines m).flatMap CodeLine.declared ++ m.parameters.zipIdx.flatMap readVariables ++
      (c.callLine m).declared := by
  have hcomment : (commentLines signature).flatMap CodeLine.declared = [] := by
    cases signature <;> rfl
  have hchecks : (m.parameters.zipIdx.flatMap fun (type, position) =>
      c.checkLines m type position).flatMap CodeLine.declared = [] := by
    rw [List.flatMap_assoc]
    exact List.flatMap_eq_nil_iff.mpr fun p _ => rfl
  have hreads : (m.parameters.zipIdx.flatMap fun (type, position) =>
      readLines type position).flatMap CodeLine.declared = m.parameters.zipIdx.flatMap readVariables := by
    rw [List.flatMap_assoc]
    simp only [declared_readLines]
  have hreleases : (m.parameters.zipIdx.flatMap fun (type, position) =>
      releaseLines type position).flatMap CodeLine.declared = [] := by
    rw [List.flatMap_assoc]
    apply List.flatMap_eq_nil_iff.mpr
    intro p _
    simp only [releaseLines]
    split <;> rfl
  have hresult : (c.resultLine m).declared = [] := by
    have htokens : (c.resultTokens m).filterMap Token.declared? = [] := by
      rw [resultTokens]
      split <;> rfl
    rw [CodeLine.declared, resultLine, List.cons_append,
      List.filterMap_cons_none (show Token.declared? .leave = none from rfl), List.filterMap_append, htokens]
    rfl
  simp only [listing, List.flatMap_append, List.flatMap_singleton, hcomment, hchecks, hreads, hreleases,
    hresult, List.nil_append, List.append_nil]

theorem nodup_declared : ((c.listing m signature).flatMap CodeLine.declared).Nodup := by
  have hreads := nodup_readVariables m.parameters
  have hposition := position_of_mem_readVariables m.parameters
  rw [flatMap_declared_listing, flatMap_declared_receiverLines, declared_callLine]
  -- Of the variables of the arguments, only that they differ and that each belongs to an argument matters here.
  generalize m.parameters.zipIdx.flatMap readVariables = read at hreads hposition
  have hother : ∀ v ∈ read, v ≠ .nativePointer ∧ v ≠ .nativeObject ∧ v ≠ .result := by
    intro v hv
    obtain ⟨i, rfl | rfl⟩ := hposition v hv <;> simp
  cases m.receiver with
  | newObject =>
    simp only [reduceCtorEq, if_false, if_true, List.nil_append, List.nodup_append]
    exact ⟨hreads, by simp, fun v hv w hw => List.mem_singleton.mp hw ▸ (hother v hv).2.1⟩
  | noObject =>
    simp only [reduceCtorEq, if_false, List.nil_append, List.nodup_append]
    refine ⟨hreads, by split <;> simp, ?_⟩
    intro v hv w hw
    split at hw
    · cases hw
    · exact List.mem_singleton.mp hw ▸ (hother v hv).2.2
  | thisObject =>
    simp only [reduceCtorEq, if_false, if_true, List.nodup_append, List.mem_append]
    refine ⟨⟨by simp, hreads, ?_⟩, by split <;> simp, ?_⟩
    · intro v hv w hw
      simp only [List.mem_cons, List.not_mem_nil, or_false] at hv
      rcases hv with rfl | rfl
      · exact (hother w hw).1.symm
      · exact (hother w hw).2.1.symm
    · intro v hv w hw
      split at hw
      · cases hw
      · rw [List.mem_singleton.mp hw]
        rcases hv with hv | hv
        · simp only [List.mem_cons, List.not_mem_nil, or_false] at hv
          rcases hv with rfl | rfl <;> simp
        · exact (hother v hv).2.2

theorem filterMap_check : (c.listing m signature).filterMap CodeLine.checked? =
    List.range m.parameters.length := by
  rw [filterMap_of_stage fun l _ h => CodeLine.stage_of_checked? h, filter_listing]
  simp only [List.filterMap_flatMap, filterMap_checkLines, flatMap_position]

section

variable (hfits : ∀ l ∈ c.listing m signature, l.Fits m.parameters.length)
include hfits

theorem filterMap_converted : (c.listing m signature).filterMap CodeLine.converted? =
    List.range m.parameters.length := by
  rw [filterMap_of_stage fun l hl h => (hfits l hl).stage_of_converted? h, filter_listing]
  simp only [List.filterMap_flatMap, filterMap_converted_readLines, flatMap_position]

theorem filterMap_allocated : (c.listing m signature).filterMap CodeLine.allocated? =
    textPositions m.parameters := by
  rw [filterMap_of_stage fun l hl h => (hfits l hl).stage_of_allocated? h, filter_listing]
  simp only [List.filterMap_flatMap, filterMap_allocated_readLines, textPositions]

theorem filterMap_released : (c.listing m signature).filterMap CodeLine.released? =
    textPositions m.parameters := by
  rw [filterMap_of_stage fun l hl h => (hfits l hl).stage_of_released? h, filter_listing]
  simp only [List.filterMap_flatMap, filterMap_releaseLines, textPositions]

end

theorem Named.safe_listing (h : c.Named m) (hs : ∀ s ∈ signature, OneLine s) :
    Safe m.parameters (c.listing m signature) := by
  have hfits := h.fits_listing hs
  have hmem {j : Nat} {a : CodeLine} (ha : (c.listing m signature)[j]? = some a) :
      a.Fits m.parameters.length := hfits a (List.mem_of_getElem? ha)
  have hstaged := (ascending_listing c m signature).pairwise
  exact {
    staged := hstaged
    plain := fun l hl s hs => not_infix_vocabulary s (hfits l hl _ hs)
    input_lt := fun l hl i hi => hfits l hl _ hi
    checked := filterMap_check
    converted := filterMap_converted hfits
    called := ⟨c.callLine m, filter_listing .call, passed_callLine⟩
    allocated := filterMap_allocated hfits
    released := filterMap_released hfits
    texts_nodup := nodup_textPositions _
    check_before_convert := fun j k a b ha hb hac hbc => lt_of_rank_lt hstaged ha hb (by
      rw [CodeLine.stage_of_checked? hac, (hmem hb).stage_of_converted? hbc]
      decide)
    return_before_allocate := fun j k a b ha hb har hj hba => lt_of_rank_lt hstaged ha hb (by
      rw [(hmem hb).stage_of_allocated? hba]
      rcases (hmem ha).stage_of_returns har with hstage | hstage | hstage
      · rw [hstage]
        decide
      · rw [hstage]
        decide
      · exact absurd hstage (stage_ne_result ha hj))
    release_after_call := fun j k a b ha hb hac hbr => by
      have hstage := (hmem hb).stage_of_released? hbr
      refine ⟨lt_of_rank_lt hstaged ha hb (by rw [hac, hstage]; decide), ?_⟩
      exact lt_of_stage_ne_result hb (by simp [hstage])
    returns := ⟨c.resultLine m, getLast?_listing c m signature, by simp [CodeLine.returns, resultLine]⟩
    names_nodup := nodup_declared.map Variable.text_injective }

/-- The body of a binding is a safe listing: a comment if the method has a namesake, the unwrapping of
`this` unless the method is the constructor or static, a check and a conversion of each argument, the call,
the release of each text, and the return of the result. -/
theorem binding_safe {text : String} {method : Nat} {siblings : List Nat} {b : Binding}
    (ht : Tree.parse text = .ok c.tree) (hc : c.types.handlers = []) (hname : OneLine c.scriptClass.name)
    (h : c.binding? method siblings = .ok (some b)) :
    b.arity = ((c.tree.childrenTagged "formal_parameter" method).filter
        fun p => !c.isArtificial p).length ∧
      ∃ m, c.Accepts method m ∧ b.arity = m.parameters.length ∧ b.member = m.member ∧
        (m.receiver = .thisObject ↔ b.member ≠ .constructor ∧ c.isStatic method = false) ∧
        ∃ lines, lines = c.listing m (if c.hasNamesake m.name method siblings then some b.signature else none) ∧
          Fragment.ofText b.body = lines.map CodeLine.text ∧ Safe m.parameters lines := by
  obtain ⟨m, body, haccepts, hwrites, hsignature, hmember, harity, hbody⟩ := exists_of_binding? h
  have hnamed := named_of_accepts (Tree.flat_of_parse ht) hname haccepts
  have hs : ∀ s ∈ (if c.hasNamesake m.name method siblings then some b.signature else none), OneLine s := by
    intro s hs
    split at hs
    · rw [← Option.some.inj hs]
      exact oneLine_signature hnamed.name hnamed.parameters hsignature
    · cases hs
  have htext := c.text_listing hc hwrites hsignature
  have hflat : body.code.Flat := by
    rw [← htext]
    intro l hl
    obtain ⟨line, hline, rfl⟩ := List.mem_map.mp hl
    exact (hnamed.fits_listing hs line hline).oneLine
  refine ⟨?_, m, haccepts, harity, hmember, ?_, _, rfl, ?_, hnamed.safe_listing hs⟩
  · rw [harity, length_parameters haccepts]
  · rw [hmember]
    exact receiver_eq_thisObject_iff haccepts
  · rw [htext, hbody]
    exact Fragment.ofText_toText hflat (by simp [MethodBody.code])

def textMethodLines : List (List Char) := [
  " <0><b>: Abbrev Number: 1 (DW_TAG_class_type)".toList,
  " <c> DW_AT_name:Led".toList,
  " <1><10>: Abbrev Number: 2 (DW_TAG_subprogram)".toList,
  " <11> DW_AT_name:show".toList,
  " <2><20>: Abbrev Number: 3 (DW_TAG_formal_parameter)".toList,
  " <21> DW_AT_type:<0x30>".toList,
  " <0><30>: Abbrev Number: 4 (DW_TAG_pointer_type)".toList,
  " <31> DW_AT_type:<0x40>".toList,
  " <0><40>: Abbrev Number: 5 (DW_TAG_base_type)".toList,
  " <41> DW_AT_name:char".toList]

def textMethodTree : Tree := .ofEntries [
  ⟨"class_type", 0xb, 0, [("name", "Led")]⟩, ⟨"subprogram", 0x10, 1, [("name", "show")]⟩,
  ⟨"formal_parameter", 0x20, 2, [("type", "<0x30>")]⟩, ⟨"pointer_type", 0x30, 0, [("type", "<0x40>")]⟩,
  ⟨"base_type", 0x40, 0, [("name", "char")]⟩]

def textMethodTarget : Target := ⟨⟨textMethodTree, []⟩, 0, ⟨"Led"⟩⟩

def textMethodBody : Fragment := [
  "if (!jerry_value_is_string(args_p[0])) \x7b",
  "    return jerry_create_error(JERRY_ERROR_TYPE, " ++
    "(const jerry_char_t*)\"Led#show: argument 0 has the wrong type\");",
  "\x7d",
  "jerry_size_t arg0_size = jerry_get_string_size(args_p[0]);",
  "char* arg0 = new char[arg0_size + 1];",
  "jerry_string_to_char_buffer(args_p[0], (jerry_char_t*)arg0, arg0_size);",
  "arg0[arg0_size] = '\\0';",
  "Led::show(arg0);",
  "delete[] arg0;",
  "return jerry_create_undefined();"]

theorem binding_safe_textMethod :
    Tree.parse (String.ofList (['\n'].intercalate textMethodLines)) = .ok textMethodTarget.tree ∧
      textMethodTarget.types.handlers = [] ∧ OneLine textMethodTarget.scriptClass.name ∧
      textMethodTarget.binding? 1 [1] =
        .ok (some ⟨.method "show", 1, textMethodBody.toText, [], "show(char*)"⟩) ∧
      ∃ lines, Fragment.ofText textMethodBody.toText = lines.map CodeLine.text ∧
        Safe [⟨some "char*", .string, none⟩] lines := by
  have hparse : Tree.parse (String.ofList (['\n'].intercalate textMethodLines)) =
      .ok textMethodTarget.tree := by
    rw [Tree.parse, String.toList_ofList, textMethodLines]
    repeat rw [String.toList_ofList]
    decide +kernel
  have hname : OneLine textMethodTarget.scriptClass.name := by decide
  have hbinding : textMethodTarget.binding? 1 [1] =
      .ok (some ⟨.method "show", 1, textMethodBody.toText, [], "show(char*)"⟩) := by
    decide +kernel
  have hdescribed : textMethodTarget.describeParameters 1 = .ok [⟨some "char*", .string, none⟩] := by
    decide +kernel
  obtain ⟨-, m, haccepts, -, -, -, lines, -, htext, hsafe⟩ := binding_safe hparse rfl hname hbinding
  rw [Except.ok.inj (haccepts.parameters.symm.trans hdescribed)] at hsafe
  exact ⟨hparse, rfl, hname, hbinding, lines, htext, hsafe⟩

end Target

end ScriptBinding
