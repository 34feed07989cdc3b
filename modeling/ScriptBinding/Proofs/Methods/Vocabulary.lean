import ScriptBinding.Proofs.Code.Identifiers
import ScriptBinding.Proofs.Exchange.Spellings
import ScriptBinding.Proofs.Methods.Acceptance
import ScriptBinding.Proofs.Methods.Listing

/-!
The texts that a listing is made of. Its fixed texts name no variable, argument or buffer, all that depends
on names is given, and nothing holds a newline.
-/

namespace ScriptBinding

open Code Dump

def vocabulary : List String := [
  "// ", "    ", "jerry_create_error(JERRY_ERROR_TYPE, (const jerry_char_t*)", ")", ";", "void* ",
  "if (!jerry_get_object_native_pointer(this_val, &", ", &", ")) \x7b", "\x7d", "* ", " = static_cast<",
  "*>(", ");", "if (", "!jerry_value_is_boolean(", "!jerry_value_is_string(", "!jerry_value_is_number(",
  ") \x7b", "jerry_size_t ", " = jerry_get_string_size(", "char* ", " = ", " + 1];",
  "jerry_string_to_char_buffer(", ", (jerry_char_t*)", ", ", "[", "] = '\\0';", "bool ",
  " = jerry_get_boolean_value(", " ", " = (", ")(int)", "jerry_get_number_value(", "new ", "::", "->", "(",
  "jerry_create_undefined()", "jerry_create_boolean(", " ? jerry_create_string((const jerry_char_t*)",
  ") : jerry_create_null()", "jerry_create_number((double)"]

/-- What only tokens of their own stand for: the arguments, the variables, and the words for returning,
allocating and deleting. -/
def marks : List String :=
  ["args_p", "arg", "native_ptr", "native_obj", "result", "return", "new char", "delete"]

/-- The fixed texts name no variable and no argument, and none of them returns, allocates or deletes. -/
theorem not_infix_vocabulary : ∀ s ∈ vocabulary, ∀ mark ∈ marks, ¬ mark.toList <:+: s.toList := by
  have hchars : ∀ cs ∈ vocabulary.map String.toList, ∀ ms ∈ marks.map String.toList, ¬ ms <:+: cs := by
    -- Literals are turned into lists here, since the kernel would read their bytes again for every mark.
    simp only [vocabulary, marks, List.map_cons, List.map_nil]
    repeat rw [String.toList_ofList]
    decide +kernel
  intro s hs mark hmark
  exact hchars _ (List.mem_map_of_mem hs) _ (List.mem_map_of_mem hmark)

theorem oneLine_vocabulary : ∀ s ∈ vocabulary, OneLine s := by
  simp only [vocabulary, List.forall_mem_cons, List.not_mem_nil, false_implies, implies_true, and_true]
  repeat' apply And.intro
  all_goals exact oneLine_ofList (by decide)

/-- What a token may be in a line of some stage, if there are `count` arguments: a fixed text is one of the
vocabulary, a given one holds no newline, and every action has its stage. -/
def Token.Fits (count : Nat) (stage : Stage) : Token → Prop
  | fixed text => text ∈ vocabulary
  | given text => OneLine text
  | input position => position < count
  | declared (.argument _) => stage = .read
  | leave => stage = .receiver ∨ stage = .check ∨ stage = .result
  | allocate => stage = .read
  | release => stage = .release
  | _ => True

def CodeLine.Fits (count : Nat) (l : CodeLine) : Prop := ∀ t ∈ l.tokens, t.Fits count l.stage

theorem oneLine_argumentName (position : Nat) : OneLine (argumentName position) := by
  rw [argumentName, oneLine_append]
  exact ⟨by decide, oneLine_nat position⟩

theorem Variable.oneLine_text (v : Variable) : OneLine v.text := by
  cases v with
  | nativePointer | nativeObject | result => decide
  | argument position => exact oneLine_argumentName position
  | size position => exact oneLine_append.mpr ⟨oneLine_argumentName position, by decide⟩

theorem Token.Fits.oneLine {count : Nat} {stage : Stage} {t : Token} (h : t.Fits count stage) :
    OneLine t.text := by
  cases t with
  | fixed text => exact oneLine_vocabulary text h
  | given text => exact h
  | input position =>
    change OneLine ("args_p[" ++ toString (position : Int) ++ "]")
    rw [oneLine_append, oneLine_append]
    exact ⟨⟨by decide, oneLine_int _⟩, by decide⟩
  | declared v => exact v.oneLine_text
  | used v => exact v.oneLine_text
  | leave | allocate | release => decide

theorem CodeLine.Fits.oneLine {count : Nat} {l : CodeLine} (h : l.Fits count) : OneLine l.text := by
  obtain ⟨stage, tokens⟩ := l
  rw [CodeLine.text]
  induction tokens with
  | nil => exact (by decide : OneLine "")
  | cons t tokens ih =>
    exact oneLine_append.mpr ⟨(h t (by simp)).oneLine, ih fun t ht => h t (by simp [ht])⟩

/-- No name that the code of a binding is given holds a newline. -/
structure Target.Named (c : Target) (m : Method) : Prop where
  scriptClass : OneLine c.scriptClass.name
  className : OneLine c.className
  name : OneLine m.name
  parameters : ∀ type ∈ m.parameters, type.Flat
  result : m.result.Flat

namespace Target

variable {c : Target} {m : Method}

theorem named_of_accepts {method : Nat} (ht : c.tree.Flat) (hscript : OneLine c.scriptClass.name)
    (h : c.Accepts method m) : c.Named m where
  scriptClass := hscript
  className := by
    rw [className, className?]
    exact TypeTable.oneLine_qualifiedName ht c.place
  name := by
    have hname := h.name
    rw [callableName?] at hname
    split at hname
    · exact ht.name? (Option.filter_eq_some_iff.mp hname).1
    · cases hname
  parameters := by
    intro type htype
    obtain ⟨p, -, hp⟩ := exists_of_mem_mapM h.parameters htype
    exact TypeTable.flat_describe ht hp
  result := TypeTable.flat_describe ht h.result

section

variable (h : c.Named m)
include h

theorem Named.oneLine_label : OneLine (c.scriptClass.label m.member) := by
  unfold ScriptClass.label Method.member
  cases m.receiver with
  | newObject => exact h.scriptClass
  | noObject | thisObject =>
    exact oneLine_append.mpr ⟨oneLine_append.mpr ⟨h.scriptClass, by decide⟩, h.name⟩

theorem Named.fits_refusalTokens {message : String} (hmessage : OneLine message) (count : Nat)
    {stage : Stage} (hstage : stage = .receiver ∨ stage = .check) :
    (CodeLine.mk stage (refusalTokens (c.scriptClass.label m.member ++ ": " ++ message))).Fits count := by
  have hquoted : OneLine (c.scriptClass.label m.member ++ ": " ++ message) :=
    oneLine_append.mpr ⟨oneLine_append.mpr ⟨h.oneLine_label, by decide⟩, hmessage⟩
  rcases hstage with rfl | rfl <;>
    simp [CodeLine.Fits, refusalTokens, Token.Fits, vocabulary, oneLine_stringLiteral hquoted]

theorem Named.fits_receiverLines (count : Nat) :
    ∀ l ∈ c.receiverLines m, l.Fits count := by
  have hmessage : OneLine ("this is not a " ++ c.scriptClass.name) :=
    oneLine_append.mpr ⟨by decide, h.scriptClass⟩
  have hinfo : OneLine c.scriptClass.nativeInfo := oneLine_append.mpr ⟨oneLine_identifierOf _, by decide⟩
  rw [receiverLines]
  split
  · simp only [List.forall_mem_cons, List.not_mem_nil, false_implies, implies_true, and_true]
    refine ⟨?_, ?_, h.fits_refusalTokens hmessage count (.inl rfl), ?_, ?_⟩
    all_goals simp [CodeLine.Fits, Token.Fits, vocabulary, hinfo, h.className]
  · simp

theorem Named.fits_checkLines (type : NativeType) {position count : Nat} (hp : position < count) :
    ∀ l ∈ c.checkLines m type position, l.Fits count := by
  have hmessage : OneLine ("argument " ++ toString position ++ " has the wrong type") := by
    rw [oneLine_append, oneLine_append]
    exact ⟨⟨by decide, oneLine_nat position⟩, by decide⟩
  have hname : checkName type.category ∈ vocabulary := by
    cases type.category <;> simp [checkName, vocabulary]
  simp only [checkLines, List.forall_mem_cons, List.not_mem_nil, false_implies, implies_true, and_true]
  refine ⟨?_, h.fits_refusalTokens hmessage count (.inr rfl), ?_⟩
  · simpa [CodeLine.Fits, Token.Fits, hp, vocabulary] using hname
  · simp [CodeLine.Fits, Token.Fits, vocabulary]

omit h in
theorem fits_readLines {type : NativeType} (htype : type.Flat) {position count : Nat} (hp : position < count) :
    ∀ l ∈ readLines type position, l.Fits count := by
  have hgiven : OneLine type.text := htype
  rw [readLines]
  split
  · simp [textLines, CodeLine.Fits, Token.Fits, vocabulary, hp]
  · simp [CodeLine.Fits, Token.Fits, vocabulary, hp]
  · split_ifs <;> simp [CodeLine.Fits, Token.Fits, vocabulary, hp, hgiven]

theorem Named.fits_callLine (count : Nat) : (c.callLine m).Fits count := by
  have hholder : ∀ t ∈ c.holderTokens m, t.Fits count .call := by
    have hresult : OneLine m.result.text := h.result
    rw [holderTokens]
    split <;> simp [Token.Fits, vocabulary, h.className, hresult]
  have hcallee : ∀ t ∈ c.calleeTokens m, t.Fits count .call := by
    rw [calleeTokens]
    split <;> simp [Token.Fits, vocabulary, h.className, h.name]
  have harguments : ∀ t ∈ argumentTokens m.parameters.length, t.Fits count .call := by
    intro t ht
    rcases mem_argumentTokens ht with rfl | ⟨i, -, rfl⟩
    · simp [Token.Fits, vocabulary]
    · trivial
  simp only [CodeLine.Fits, callLine, callTokens, List.forall_mem_append, List.forall_mem_cons]
  refine ⟨hholder, hcallee, ?_, harguments, ?_⟩
  all_goals simp [Token.Fits, vocabulary]

omit h in
theorem fits_releaseLines (type : NativeType) (position count : Nat) :
    ∀ l ∈ releaseLines type position, l.Fits count := by
  rw [releaseLines]
  split <;> simp [CodeLine.Fits, Token.Fits, vocabulary]

omit h in
theorem fits_resultLine (count : Nat) : (c.resultLine m).Fits count := by
  have hwrap : OneLine c.scriptClass.wrapNative := oneLine_append.mpr ⟨oneLine_identifierOf _, by decide⟩
  have hresult : ∀ t ∈ c.resultTokens m, t.Fits count .result := by
    rw [resultTokens]
    split <;> simp [Token.Fits, vocabulary, hwrap]
  simp only [CodeLine.Fits, resultLine, List.cons_append, List.forall_mem_cons, List.forall_mem_append]
  exact ⟨.inr (.inr rfl), hresult, by simp [Token.Fits, vocabulary]⟩

omit h in
theorem oneLine_signature {name : String} (hname : OneLine name) {parameters : List NativeType}
    (hparameters : ∀ type ∈ parameters, type.Flat) {signature : String}
    (hs : signatureOf (some name) parameters = .ok signature) : OneLine signature := by
  obtain ⟨spellings, hspellings, rfl⟩ := Except.map_eq_ok_iff.mp hs
  have hjoined : OneLine spellings := by
    rw [joinSpellings] at hspellings
    split at hspellings
    · cases hspellings
    · rw [← Except.ok.inj hspellings]
      apply oneLine_intercalate (by decide)
      intro s hs
      obtain ⟨type, htype, rfl⟩ := List.mem_map.mp hs
      exact hparameters type htype
  rw [oneLine_append, oneLine_append, oneLine_append]
  exact ⟨⟨⟨hname, by decide⟩, hjoined⟩, by decide⟩

theorem Named.fits_listing {signature : Option String} (hs : ∀ s ∈ signature, OneLine s) :
    ∀ l ∈ c.listing m signature, l.Fits m.parameters.length := by
  have hcomment : ∀ l ∈ commentLines signature, l.Fits m.parameters.length := by
    cases signature with
    | none => simp [commentLines]
    | some s => simp [commentLines, CodeLine.Fits, Token.Fits, vocabulary, hs s rfl]
  have hnumbered : ∀ p ∈ m.parameters.zipIdx, p.2 < m.parameters.length ∧ p.1.Flat := by
    rintro ⟨type, position⟩ hp
    obtain ⟨-, hlt, htype⟩ := List.mem_zipIdx hp
    refine ⟨by simpa using hlt, ?_⟩
    rw [htype]
    exact h.parameters _ (List.getElem_mem _)
  simp only [listing, List.forall_mem_append, List.forall_mem_singleton]
  refine ⟨⟨⟨⟨⟨⟨hcomment, h.fits_receiverLines _⟩, ?_⟩, ?_⟩, h.fits_callLine _⟩, ?_⟩, fits_resultLine _⟩
  · intro l hl
    obtain ⟨p, hp, hl⟩ := List.mem_flatMap.mp hl
    exact h.fits_checkLines p.1 (hnumbered p hp).1 l hl
  · intro l hl
    obtain ⟨p, hp, hl⟩ := List.mem_flatMap.mp hl
    exact fits_readLines (hnumbered p hp).2 (hnumbered p hp).1 l hl
  · intro l hl
    obtain ⟨p, -, hl⟩ := List.mem_flatMap.mp hl
    exact fits_releaseLines p.1 p.2 _ l hl

end

end Target

end ScriptBinding
