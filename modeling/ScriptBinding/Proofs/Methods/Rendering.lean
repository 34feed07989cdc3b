import ScriptBinding.Proofs.Methods.Acceptance
import ScriptBinding.Proofs.Methods.Listing

/-!
The lines of a listing are the lines of the code, as long as no handler has a say.
-/

namespace ScriptBinding

open Code

theorem CodeLine.toList_text (l : CodeLine) : l.text.toList = l.tokens.flatMap (·.text.toList) := by
  obtain ⟨stage, tokens⟩ := l
  rw [CodeLine.text]
  induction tokens with
  | nil => rfl
  | cons t tokens ih => simp [ih]

theorem TypeTable.handlerOf?_eq_none {t : TypeTable} (h : t.handlers = []) (type : NativeType) :
    t.handlerOf? type = none := by
  rw [handlerOf?, h]
  rfl

namespace Target

variable (c : Target)

theorem toList_complaint (m : Method) (message : String) :
    (c.complaint m message).toList = "return ".toList ++
      ("jerry_create_error(JERRY_ERROR_TYPE, (const jerry_char_t*)".toList ++
        ((stringLiteral (c.scriptClass.label m.member ++ ": " ++ message)).toList ++ [')', ';'])) := by
  unfold complaint scriptTypeError
  simp

theorem text_commentLines (signature : Option String) :
    (commentLines signature).map CodeLine.text = signature.toList.map ("// " ++ ·) := by
  cases signature with
  | none => rfl
  | some signature => simp [commentLines, ← String.toList_inj, CodeLine.toList_text, Token.text]

theorem text_receiverLines (m : Method) : (c.receiverLines m).map CodeLine.text = c.receiverCode m := by
  obtain ⟨name, receiver, parameters, result⟩ := m
  cases receiver with
  | thisObject =>
    unfold receiverLines receiverCode
    simp [← String.toList_inj, CodeLine.toList_text, Token.text, Variable.text, refusalTokens,
      Fragment.block, Fragment.indentLine, toList_complaint]
  | newObject => rfl
  | noObject => rfl

theorem text_textLines (position : Nat) :
    (textLines position).map CodeLine.text = TypeTable.readText position (argumentName position) := by
  unfold textLines TypeTable.readText
  simp [← String.toList_inj, CodeLine.toList_text, Token.text, Variable.text]

theorem text_releaseLines (type : NativeType) (position : Nat) :
    (releaseLines type position).map CodeLine.text = releaseCode type position := by
  unfold releaseLines releaseCode TypeTable.release
  cases type.category <;> simp [← String.toList_inj, CodeLine.toList_text, Token.text, Variable.text]

section

variable {c} (hc : c.types.handlers = [])
include hc

theorem check_eq (type : NativeType) (position : Nat) : c.types.check type position =
    checkName type.category ++ TypeTable.argument position ++ ")" := by
  rw [TypeTable.check, TypeTable.handlerOf?_eq_none hc]
  cases type.category <;> rfl

theorem text_checkLines (m : Method) (type : NativeType) (position : Nat) :
    (c.checkLines m type position).map CodeLine.text = c.checkCode m type position := by
  unfold checkLines checkCode
  rw [check_eq hc]
  simp [← String.toList_inj, CodeLine.toList_text, Token.text, refusalTokens, Fragment.block,
    Fragment.indentLine, toList_complaint]

theorem text_readLines {type : NativeType} {position : Nat} {code : Fragment}
    (h : c.readCode type position = .ok code) : (readLines type position).map CodeLine.text = code := by
  rw [readCode, TypeTable.readArgument, TypeTable.handlerOf?_eq_none hc] at h
  rw [readLines]
  cases hcategory : type.category with
  | string =>
    simp only [hcategory] at h
    rw [← Except.ok.inj h]
    exact text_textLines position
  | bool =>
    simp only [hcategory] at h
    rw [← Except.ok.inj h]
    simp [← String.toList_inj, CodeLine.toList_text, Token.text, Variable.text]
  | int | float | enum =>
    simp only [hcategory] at h
    rw [← Except.ok.inj h]
    simp [← String.toList_inj, CodeLine.toList_text, Token.text, Variable.text]
  | void | unsupported | custom => simp [hcategory] at h

end

theorem toList_argumentTokens (positions : List Nat) :
    ((positions.map fun i => Token.used (.argument i)).intersperse (.fixed ", ")).flatMap (·.text.toList) =
      ", ".toList.intercalate ((positions.map argumentName).map String.toList) := by
  induction positions with
  | nil => rfl
  | cons i positions ih =>
    cases positions with
    | nil => simp [Token.text, Variable.text]
    | cons j positions =>
      rw [List.map_cons, List.map_cons] at ih
      rw [List.map_cons, List.map_cons, List.intersperse_cons_cons, List.flatMap_cons, List.flatMap_cons, ih]
      simp [Token.text, Variable.text]

theorem toList_call (m : Method) : (c.call m).toList = (c.callTokens m).flatMap (·.text.toList) := by
  have hcallee : (c.callee m).toList = (c.calleeTokens m).flatMap (·.text.toList) := by
    unfold callee calleeTokens
    cases m.receiver <;> simp [Token.text, Variable.text]
  have hfixed (text : String) : (Token.fixed text).text = text := rfl
  unfold call callTokens
  rw [List.flatMap_append, List.flatMap_cons, List.flatMap_append, List.flatMap_singleton, argumentTokens,
    toList_argumentTokens, ← hcallee, hfixed, hfixed]
  simp [String.toList_intercalate]

theorem text_callLine {m : Method} {call result : String} (hc : c.types.handlers = [])
    (h : c.callAndResult m = .ok (call, result)) :
    (c.callLine m).text = call ∧ (c.resultLine m).text = result := by
  have htoken (tokens rest : List Token) : (tokens ++ rest).flatMap (·.text.toList) =
      tokens.flatMap (·.text.toList) ++ rest.flatMap (·.text.toList) := List.flatMap_append
  rw [← String.toList_inj, ← String.toList_inj, CodeLine.toList_text, CodeLine.toList_text, callLine,
    htoken, ← toList_call]
  cases hr : m.receiver with
  | newObject =>
    simp only [callAndResult, hr, Except.ok.injEq, Prod.mk.injEq] at h
    obtain ⟨rfl, rfl⟩ := h
    simp [holderTokens, resultLine, resultTokens, hr, Token.text, Variable.text]
  | noObject | thisObject =>
    cases hv : m.result.category with
    | void =>
      simp only [callAndResult, hr, hv, Except.ok.injEq, Prod.mk.injEq] at h
      obtain ⟨rfl, rfl⟩ := h
      simp [holderTokens, resultLine, resultTokens, hr, hv, Token.text]
    | bool | int | float | string | enum =>
      simp only [callAndResult, hr, hv, TypeTable.toScript, TypeTable.handlerOf?_eq_none hc, Except.map,
        Except.ok.injEq, Prod.mk.injEq] at h
      obtain ⟨rfl, rfl⟩ := h
      simp [holderTokens, resultLine, resultTokens, hr, hv, Token.text, Variable.text]
    | unsupported | custom =>
      simp [callAndResult, hr, hv, TypeTable.toScript, TypeTable.handlerOf?_eq_none hc, Except.map] at h

theorem flatten_reads {numbered : List (NativeType × Nat)} {reads : List Fragment}
    (hc : c.types.handlers = [])
    (h : numbered.mapM (fun (type, position) => c.readCode type position) = .ok reads) :
    reads.flatten = (numbered.flatMap fun (type, position) => readLines type position).map CodeLine.text := by
  have h₂ := mapM_eq_ok_iff.mp h
  clear h
  induction h₂ with
  | nil => rfl
  | cons hread _ ih =>
    rw [List.flatten_cons, ih, List.flatMap_cons, List.map_append, text_readLines hc hread]

theorem text_listing {m : Method} {isOverloaded : Bool} {body : MethodBody} {signature : String}
    (hc : c.types.handlers = []) (hbody : c.Writes m isOverloaded body)
    (hsignature : signatureOf (some m.name) m.parameters = .ok signature) :
    (c.listing m (if isOverloaded then some signature else none)).map CodeLine.text = body.code := by
  have hcomment : (commentLines (if isOverloaded then some signature else none)).map CodeLine.text =
      body.comment := by
    have h := hbody.comment
    rw [commentOf, hsignature] at h
    rw [text_commentLines]
    cases isOverloaded <;> exact Except.ok.inj h
  have hchecks : (m.parameters.zipIdx.flatMap fun (type, position) =>
      c.checkLines m type position).map CodeLine.text = body.checks.flatten := by
    rw [hbody.checks, ← List.flatMap_def, List.map_flatMap]
    simp only [text_checkLines hc]
  have hreleases : (m.parameters.zipIdx.flatMap fun (type, position) =>
      releaseLines type position).map CodeLine.text = body.releases.flatten := by
    rw [hbody.releases, ← List.flatMap_def, List.map_flatMap]
    simp only [text_releaseLines]
  obtain ⟨hcall, hresult⟩ := c.text_callLine hc hbody.call
  simp only [listing, MethodBody.code, List.map_append, List.map_cons, List.map_nil, hcomment,
    text_receiverLines, hbody.receiver, hchecks, flatten_reads c hc hbody.reads, hcall, hreleases, hresult]

end Target

end ScriptBinding
