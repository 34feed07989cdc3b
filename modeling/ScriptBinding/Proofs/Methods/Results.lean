import Mathlib.Logic.Relation
import ScriptBinding.Proofs.Code.OneLine
import ScriptBinding.Proofs.Dump.Renumbering
import ScriptBinding.Proofs.Exchange.Grammar
import ScriptBinding.Proofs.Methods.Acceptance

/-!
Methods whose result is dropped. Behind the type definitions and qualifiers of such a method's type there is an entry
without a reference to a type: it has no type attribute, or one whose value holds no `<0x..>`. The two are not told
apart, so that a type which is recorded in another way counts as `void`.
-/

namespace ScriptBinding

open Code Dump Text

section References

variable {α : Type} {read : List Char → Option α}

theorem firstRead?_eq_none_iff {cs : List Char} :
    firstRead? read cs = none ↔ ∀ after, after <:+ cs → read after = none := by
  induction cs with
  | nil => simp [firstRead?]
  | cons c cs ih =>
    have hsplit : firstRead? read (c :: cs) = none ↔ read (c :: cs) = none ∧ firstRead? read cs = none := by
      rw [firstRead?]
      cases read (c :: cs) <;> simp
    rw [hsplit, ih]
    constructor
    · rintro ⟨hhere, hrest⟩ after hafter
      rcases List.suffix_cons_iff.mp hafter with rfl | hafter
      · exact hhere
      · exact hrest after hafter
    · intro h
      exact ⟨h _ (List.suffix_refl _), fun after hafter => h after (hafter.trans (List.suffix_cons c cs))⟩

namespace Dump

/-- There is a reference `<0x..>` somewhere in the value. -/
def HasReference (value : String) : Prop :=
  ∃ digits, digits ≠ [] ∧ (∀ c ∈ digits, isHexDigit c = true) ∧
    "<0x".toList ++ (digits ++ ['>']) <:+: value.toList

theorem firstRead?_readReference?_eq_none_iff {value : String} :
    firstRead? readReference? value.toList = none ↔ ¬ HasReference value := by
  have hread {cs : List Char} : readReference? cs = none ↔ ∀ digits, digits ≠ [] →
      (∀ c ∈ digits, isHexDigit c = true) → ¬ "<0x".toList ++ (digits ++ ['>']) <+: cs := by
    rw [readReference?_eq, Option.map_eq_none_iff, Option.eq_none_iff_forall_ne_some]
    simp only [ne_eq, referenceDigits?_eq_some_iff, not_and]
  rw [firstRead?_eq_none_iff]
  constructor
  · rintro h ⟨digits, hne, hhex, hinfix⟩
    obtain ⟨after, hprefix, hafter⟩ := List.infix_iff_prefix_suffix.mp hinfix
    exact hread.mp (h after hafter) digits hne hhex hprefix
  · intro h after hafter
    apply hread.mpr
    intro digits hne hhex hprefix
    exact h ⟨digits, hne, hhex, List.infix_iff_prefix_suffix.mpr ⟨after, hprefix, hafter⟩⟩

namespace Tree

variable (t : Tree)

/-- The value of an entry's type attribute. -/
def typeValue? (i : Nat) : Option String := t.nodes[i]?.bind (·.attribute? "type")

/-- The type of entry `i` is a type definition or a qualifier at entry `k`. -/
def HasAlias (i k : Nat) : Prop := (t.typeReference? i).bind t.lookup = some k ∧ t.isAlias k = true

/-- No type is recorded at an entry in the form of a reference. -/
def LacksReference (i : Nat) : Prop := ∀ value, t.typeValue? i = some value → ¬ HasReference value

variable {t}

theorem typeReference?_eq_none_iff {i : Nat} : t.typeReference? i = none ↔ t.LacksReference i := by
  rw [typeReference?, LacksReference, typeValue?]
  cases t.nodes[i]? with
  | none => simp
  | some n =>
    simp only [Option.bind_some, Entry.typeReference?]
    cases n.attribute? "type" with
    | none => simp
    | some value => simp [firstRead?_readReference?_eq_none_iff]

theorem isVoid_iff {i : Nat} : t.IsVoid (t.typeReference? i) ↔
    ∃ j, Relation.ReflTransGen t.HasAlias i j ∧ t.typeReference? j = none := by
  constructor
  · intro h
    generalize hreference : t.typeReference? i = reference at h
    induction h generalizing i with
    | absent => exact ⟨i, .refl, hreference⟩
    | @behind offset k hk halias _ ih =>
      obtain ⟨j, hj, hnone⟩ := ih rfl
      have hstep : t.HasAlias i k := ⟨by rw [hreference]; exact hk, halias⟩
      exact ⟨j, .head hstep hj, hnone⟩
  · rintro ⟨j, hj, hnone⟩
    induction hj using Relation.ReflTransGen.head_induction_on with
    | refl => rw [hnone]; exact .absent
    | head hstep _ ih =>
      obtain ⟨offset, hreference, hk⟩ := Option.bind_eq_some_iff.mp hstep.1
      rw [hreference]
      exact .behind hk hstep.2 ih

end Tree

end Dump

end References

theorem Code.Fragment.getLast?_ofText_toText (code : Fragment) {l : String} (hl : OneLine l) :
    (ofText (toText (code ++ [l]))).getLast? = some l := by
  rw [ofText_toText_eq_flatMap (by simp), List.flatMap_append, List.flatMap_singleton, ofText_of_oneLine hl,
    List.getLast?_concat]

namespace Target

variable {c : Target} {method : Nat} {siblings : List Nat} {m : Method} {b : Binding} {body : MethodBody}

def undefinedLine : String := "return jerry_create_undefined();"

/-- The body calls the method on a line of its own, and returns `undefined`. -/
def Discards (c : Target) (method : Nat) (b : Binding) : Prop :=
  ∃ m before releases, c.Accepts method m ∧
    b.body = Fragment.toText (before ++ c.call m :: (releases ++ [undefinedLine]))

def resultLines : List String := [
  "return jerry_create_boolean(result);",
  "return jerry_create_number((double)result);",
  "return result ? jerry_create_string((const jerry_char_t*)result) : jerry_create_null();"]

theorem mem_resultLines {t : TypeTable} (hno : t.handlers = []) {info : NativeType} {value : String}
    (h : t.toScript info "result" = .ok value) (hcategory : info.category ≠ .void) :
    "return " ++ value ++ ";" ∈ resultLines := by
  have hhandler : t.handlerOf? info = none := by
    rw [TypeTable.handlerOf?, hno]
    rfl
  rw [TypeTable.toScript, hhandler] at h
  cases hc : info.category with
  | void => exact absurd hc hcategory
  | unsupported | custom name => simp [hc] at h
  | bool | int | float | enum | string =>
    simp only [hc] at h
    rw [← Except.ok.inj h]
    decide +kernel

theorem callAndResult_of_void (hreceiver : m.receiver ≠ .newObject) (hvoid : m.result.category = .void) :
    c.callAndResult m = .ok (c.call m, undefinedLine) := by
  rw [callAndResult, hvoid]
  cases hr : m.receiver with
  | newObject => exact absurd hr hreceiver
  | noObject => rfl
  | thisObject => rfl

theorem result_mem_of_callAndResult {call result : String} (hno : c.types.handlers = [])
    (hreceiver : m.receiver ≠ .newObject) (hvoid : m.result.category ≠ .void)
    (h : c.callAndResult m = .ok (call, result)) : result ∈ resultLines := by
  rw [callAndResult] at h
  split at h
  · next hr => exact absurd hr hreceiver
  · next hr _ => exact absurd hr hvoid
  · obtain ⟨value, hvalue, hpair⟩ := Except.map_eq_ok_iff.mp h
    obtain ⟨-, rfl⟩ := Prod.mk.inj hpair
    exact mem_resultLines hno hvalue hvoid

theorem oneLine_of_mem_resultLines : ∀ l ∈ resultLines, OneLine l := by
  simp only [resultLines, List.forall_mem_cons, List.not_mem_nil, false_imp_iff, implies_true, and_true]
  exact ⟨oneLine_ofList (by decide), oneLine_ofList (by decide), oneLine_ofList (by decide)⟩

theorem undefinedLine_notMem_resultLines : undefinedLine ∉ resultLines := by decide +kernel

theorem discards_iff_category (hno : c.types.handlers = []) (haccepts : c.Accepts method m)
    (hreceiver : m.receiver ≠ .newObject) {isOverloaded : Bool} (hbody : c.Writes m isOverloaded body)
    (htext : b.body = body.code.toText) : c.Discards method b ↔ m.result.category = .void := by
  constructor
  · rintro ⟨other, before, releases, -, hdiscards⟩
    by_contra hvoid
    have hresult := result_mem_of_callAndResult hno hreceiver hvoid hbody.call
    -- The parts before the last line may hold line breaks, so the two texts are compared at their last lines.
    have hlast := congrArg (fun text => (Fragment.ofText text).getLast?) (htext.symm.trans hdiscards)
    have hsplit : before ++ c.call other :: (releases ++ [undefinedLine]) =
        (before ++ c.call other :: releases) ++ [undefinedLine] := by simp
    have hundefined : OneLine undefinedLine := oneLine_ofList (by decide)
    rw [hsplit, Fragment.getLast?_ofText_toText _ hundefined, MethodBody.code,
      Fragment.getLast?_ofText_toText _ (oneLine_of_mem_resultLines _ hresult)] at hlast
    exact undefinedLine_notMem_resultLines (Option.some.inj hlast ▸ hresult)
  · intro hvoid
    have hcall := hbody.call
    rw [callAndResult_of_void hreceiver hvoid] at hcall
    obtain ⟨hcall, hresult⟩ := Prod.mk.inj (Except.ok.inj hcall)
    refine ⟨m, body.comment ++ body.receiver ++ body.checks.flatten ++ body.reads.flatten, body.releases.flatten,
      haccepts, ?_⟩
    rw [htext, MethodBody.code, ← hcall, ← hresult]
    simp

/-- The result of a method is dropped just if its type leads to an entry at which no reference to a type can be read.
If all types on the way are recorded as references, that entry has none. -/
theorem discards_iff (hno : c.types.handlers = []) (hmember : b.member ≠ .constructor)
    (h : c.binding? method siblings = .ok (some b)) :
    (c.Discards method b ↔ ∃ j, Relation.ReflTransGen c.tree.HasAlias method j ∧ c.tree.LacksReference j) ∧
      ((∀ j value, Relation.ReflTransGen c.tree.HasAlias method j → c.tree.typeValue? j = some value →
          HasReference value) →
        (c.Discards method b ↔
          ∃ j, Relation.ReflTransGen c.tree.HasAlias method j ∧ c.tree.typeValue? j = none)) := by
  obtain ⟨m, body, haccepts, hwrites, -, hsame, -, htext⟩ := exists_of_binding? h
  have hreceiver : m.receiver ≠ .newObject := by
    intro hnew
    apply hmember
    rw [hsame, Method.member, hnew]
  have hvoid : m.result.category = .void ↔ c.tree.IsVoid (c.tree.typeReference? method) :=
    ⟨(TypeTable.sound_of_describeWithin hno haccepts.result).void,
      fun hisVoid => TypeTable.category_of_isVoid hno hisVoid haccepts.result⟩
  have hdiscards : c.Discards method b ↔
      ∃ j, Relation.ReflTransGen c.tree.HasAlias method j ∧ c.tree.LacksReference j := by
    rw [discards_iff_category hno haccepts hreceiver hwrites htext, hvoid, Tree.isVoid_iff]
    simp only [Tree.typeReference?_eq_none_iff]
  refine ⟨hdiscards, ?_⟩
  intro hrecorded
  rw [hdiscards]
  refine exists_congr fun j => and_congr_right fun hj => ?_
  constructor
  · intro hlacks
    apply Option.eq_none_iff_forall_ne_some.mpr
    intro value hvalue
    exact hlacks value hvalue (hrecorded j value hj hvalue)
  · intro hnone value hvalue
    rw [hnone] at hvalue
    cases hvalue

/-- A method that returns a type definition of `void`. -/
def stopTarget : Target where
  types := ⟨.ofEntries [
    ⟨"class_type", 0x10, 0, [("name", "Led")]⟩,
    ⟨"subprogram", 0x20, 1, [("name", "stop"), ("type", "<0x30>")]⟩,
    ⟨"typedef", 0x30, 0, [("name", "nothing")]⟩], []⟩
  place := 0
  scriptClass := ⟨"Led"⟩

def stopBinding : Binding := ⟨.method "stop", 0, Fragment.toText ["Led::stop();", undefinedLine], [], "stop()"⟩

theorem follows_stop {i j : Nat} (hi : i = 1 ∨ i = 2) (h : Relation.ReflTransGen stopTarget.tree.HasAlias i j) :
    j = 1 ∨ j = 2 := by
  induction h using Relation.ReflTransGen.head_induction_on with
  | refl => exact hi
  | head hstep _ ih =>
    apply ih
    obtain ⟨hnext, -⟩ := hstep
    rcases hi with rfl | rfl
    · have htypedef : (stopTarget.tree.typeReference? 1).bind stopTarget.tree.lookup = some 2 := by decide +kernel
      exact .inr (Option.some.inj (hnext.symm.trans htypedef))
    · have hend : (stopTarget.tree.typeReference? 2).bind stopTarget.tree.lookup = none := by decide +kernel
      rw [hend] at hnext
      cases hnext

theorem discards_iff_stop : stopTarget.binding? 1 [1] = .ok (some stopBinding) ∧ stopTarget.Discards 1 stopBinding ∧
    ∃ j, Relation.ReflTransGen stopTarget.tree.HasAlias 1 j ∧ stopTarget.tree.typeValue? j = none := by
  have hbinding : stopTarget.binding? 1 [1] = .ok (some stopBinding) := by decide +kernel
  have halias : stopTarget.tree.HasAlias 1 2 := ⟨by decide +kernel, by decide +kernel⟩
  have hlast : stopTarget.tree.typeValue? 2 = none := by decide +kernel
  have hrecorded : ∀ j value, Relation.ReflTransGen stopTarget.tree.HasAlias 1 j →
      stopTarget.tree.typeValue? j = some value → HasReference value := by
    intro j value hj hvalue
    rcases follows_stop (.inl rfl) hj with rfl | rfl
    · have hfirst : stopTarget.tree.typeValue? 1 = some "<0x30>" := by decide +kernel
      obtain rfl := Option.some.inj (hfirst.symm.trans hvalue)
      exact ⟨['3', '0'], by simp, by simp [isHexDigit], [], [], by decide +kernel⟩
    · rw [hlast] at hvalue
      cases hvalue
  obtain ⟨-, hends⟩ := discards_iff (c := stopTarget) rfl (by decide) hbinding
  exact ⟨hbinding, (hends hrecorded).mpr ⟨2, .single halias, hlast⟩, 2, .single halias, hlast⟩

/-- A method whose type is recorded by its signature. -/
def signatureLines : List (List Char) := [
  " <0><10>: Abbrev Number: 1 (DW_TAG_class_type)".toList,
  "    <11>   DW_AT_name        : Led".toList,
  " <1><20>: Abbrev Number: 2 (DW_TAG_subprogram)".toList,
  "    <21>   DW_AT_name        : mode".toList,
  "    <22>   DW_AT_type        : signature: 0x1f2e3d4c5b6a7988".toList,
  "    <2a>   DW_AT_accessibility: 1\t(public)".toList]

def signatureTarget : Target where
  types := ⟨.ofEntries [
    ⟨"class_type", 0x10, 0, [("name", "Led")]⟩,
    ⟨"subprogram", 0x20, 1, [("name", "mode"), ("type", "signature: 0x1f2e3d4c5b6a7988"),
      ("accessibility", "1\t(public)")]⟩], []⟩
  place := 0
  scriptClass := ⟨"Led"⟩

def signatureBinding : Binding := ⟨.method "mode", 0, Fragment.toText ["Led::mode();", undefinedLine], [], "mode()"⟩

/-- The result is dropped although the method has a type. -/
theorem discards_signature : ¬ ∀ (text : String) (c : Target) (method : Nat) (siblings : List Nat) (b : Binding),
    Tree.parse text = .ok c.tree → c.types.handlers = [] → b.member ≠ .constructor →
    c.tree.typeValue? method ≠ none → c.binding? method siblings = .ok (some b) → c.Discards method b →
    ∃ j, Relation.ReflTransGen c.tree.HasAlias method j ∧ c.tree.typeValue? j = none := by
  intro h
  have hparse : Tree.parse (String.ofList (['\n'].intercalate signatureLines)) = .ok signatureTarget.tree := by
    rw [Tree.parse, String.toList_ofList, signatureLines]
    repeat rw [String.toList_ofList]
    decide +kernel
  have hbinding : signatureTarget.binding? 1 [1] = .ok (some signatureBinding) := by decide +kernel
  have htype : signatureTarget.tree.typeValue? 1 ≠ none := by decide +kernel
  have haccept : signatureTarget.accept 1 = .ok (some ⟨"mode", .noObject, [], .void⟩) := by rfl
  have hdiscards : signatureTarget.Discards 1 signatureBinding :=
    ⟨_, [], [], accepts_of_accept haccept, by decide +kernel⟩
  obtain ⟨j, hj, hnone⟩ := h _ signatureTarget 1 [1] signatureBinding hparse rfl (by decide) htype hbinding hdiscards
  rcases hj.cases_head with rfl | ⟨k, ⟨hnext, -⟩, -⟩
  · exact htype hnone
  · have hend : signatureTarget.tree.typeReference? 1 = none := by decide +kernel
    rw [hend] at hnext
    cases hnext

end Target

end ScriptBinding
