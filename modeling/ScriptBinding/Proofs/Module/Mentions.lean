import ScriptBinding.Module.Source
import ScriptBinding.Proofs.Code.Identifiers
import ScriptBinding.Text.Scan

/-!
The names that lines of generated code define and mention. A name is read from between the fixed texts around
it, and no line that holds any other text is taken for one of these.
-/

namespace ScriptBinding

open Code Text

/-- Two texts that no line can both begin with. -/
def Apart (p q : String) : Prop := ¬ p.toList <+: q.toList ∧ ¬ q.toList <+: p.toList

instance (p q : String) : Decidable (Apart p q) := by
  unfold Apart
  infer_instance

theorem Apart.not_begins {p q : String} (h : Apart p q) {cs : List Char} (hp : p.toList <+: cs) :
    ¬ q.toList <+: cs := by
  intro hq
  rcases List.prefix_or_prefix_of_prefix hp hq with hpq | hqp
  · exact h.1 hpq
  · exact h.2 hqp

theorem begins_append {start s : String} (h : start.toList <+: s.toList) (t : String) :
    start.toList <+: (s ++ t).toList := by
  rw [String.toList_append]
  exact h.trans (List.prefix_append _ _)

theorem begins_ofList {start cs : List Char} (h : start <+: cs) :
    (String.ofList start).toList <+: (String.ofList cs).toList := by
  rw [String.toList_ofList, String.toList_ofList]
  exact h

theorem begins_between {start cs : List Char} (h : start <+: cs) (text rest : String) :
    (String.ofList start).toList <+: (String.ofList cs ++ text ++ rest).toList :=
  begins_append (begins_append (begins_ofList h) text) rest

theorem apart_ofList {p q : List Char} (h : ¬ p <+: q ∧ ¬ q <+: p) : Apart (String.ofList p) (String.ofList q) := by
  rw [Apart, String.toList_ofList, String.toList_ofList]
  exact h

/-- A name behind a fixed text, and what follows it. -/
def nameAfter? (start : String) (cs : List Char) : Option (String × List Char) :=
  ((after? start.toList cs).bind (run? isNameChar)).map fun (name, rest) => (.ofList name, rest)

/-- A name does not go on in such a text. -/
def Breaks (rest : String) : Prop := rest.toList.head?.any isNameChar = false

instance : DecidablePred Breaks := fun _ => inferInstanceAs (Decidable (_ = false))

theorem breaks_of_begins {c : Char} {rest : String} (hstart : (String.ofList [c]).toList <+: rest.toList)
    (hc : isNameChar c = false) : Breaks rest := by
  obtain ⟨cs, hcs⟩ := hstart
  rw [Breaks, ← hcs, String.toList_ofList]
  exact hc

theorem nameAfter?_append {start name rest : String} (hname : IsName name) (hrest : Breaks rest) :
    nameAfter? start (start ++ name ++ rest).toList = some (name, rest.toList) := by
  have hhead : ∀ c ∈ rest.toList.head?, isNameChar c = false := by
    rw [Breaks] at hrest
    cases hc : rest.toList.head? with
    | none => simp
    | some c => simpa [hc] using hrest
  rw [nameAfter?, String.toList_append, String.toList_append, List.append_assoc, after?_append,
    Option.bind_some, run?_append hname.1 hname.2.2 hhead, Option.map_some]
  simp

theorem eq_append_of_nameAfter? {start name : String} {cs rest : List Char}
    (h : nameAfter? start cs = some (name, rest)) :
    cs = start.toList ++ (name.toList ++ rest) ∧ IsPart name := by
  obtain ⟨⟨run, rest'⟩, hread, hpair⟩ := Option.map_eq_some_iff.mp h
  obtain ⟨rfl, rfl⟩ := Prod.mk.inj hpair
  obtain ⟨found, hafter, hrun⟩ := Option.bind_eq_some_iff.mp hread
  rw [IsPart, String.toList_ofList, ← eq_append_of_run? hrun]
  exact ⟨eq_append_of_after? hafter, (run?_eq_some hrun).2.1⟩

theorem nameAfter?_eq_none {start : String} {cs : List Char} (h : ¬ start.toList <+: cs) :
    nameAfter? start cs = none := by
  apply Option.eq_none_iff_forall_ne_some.mpr
  rintro ⟨name, rest⟩ hread
  exact h ⟨_, (eq_append_of_nameAfter? hread).1.symm⟩

inductive Role where
  | destructor
  | info
  | dispatcher
  | wrapper
  | entry
deriving DecidableEq

structure Definition where
  role : Role
  name : String
deriving DecidableEq

/-- A function with the parameters that the engine passes is a dispatcher. -/
def Role.ofFunction (rest : List Char) : Role :=
  if rest = (Plan.callParameters ++ " \x7b").toList then .dispatcher else .wrapper

/-- What the types that a definition starts with are for. -/
def Role.ofType : List (String × (List Char → Role)) := [
  ("void ", fun _ => destructor),
  ("static const jerry_object_native_info_t ", fun _ => info),
  ("jerry_value_t ", ofFunction),
  ("extern \"C\" jerry_value_t ", fun _ => entry)]

/-- The name that is defined in a line at the margin. -/
def definition? (line : String) : Option Definition :=
  Role.ofType.findSome? fun (type, role) =>
    (nameAfter? type line.toList).map fun (name, rest) => ⟨role rest, name⟩

def definitions (code : Fragment) : List Definition := code.filterMap definition?

theorem findSome?_of_pairwise {α β : Type} {R : α → α → Prop} {f : α → Option β} {l : List α} {a : α} {b : β}
    (hl : l.Pairwise R) (ha : a ∈ l) (hb : f a = some b) (hnone : ∀ x, R x a → f x = none) :
    l.findSome? f = some b := by
  obtain ⟨before, after, rfl⟩ := List.append_of_mem ha
  apply List.findSome?_eq_some_iff.mpr
  refine ⟨before, a, after, rfl, hb, ?_⟩
  intro x hx
  exact hnone x ((List.pairwise_append.mp hl).2.2 x hx a List.mem_cons_self)

theorem pairwise_ofType : Role.ofType.Pairwise fun p q => Apart q.1 p.1 := by
  unfold Role.ofType
  simp only [List.pairwise_cons, List.mem_cons, List.not_mem_nil, or_false, forall_eq_or_imp, forall_eq,
    List.Pairwise.nil, false_implies, implies_true, and_true]
  repeat' apply And.intro
  all_goals
    rw [String.toList_ofList, String.toList_ofList]
    decide

theorem definition?_append {type : String} {role : List Char → Role} (htype : (type, role) ∈ Role.ofType)
    {name rest : String} (hname : IsName name) (hrest : Breaks rest) :
    definition? (type ++ name ++ rest) = some ⟨role rest.toList, name⟩ := by
  apply findSome?_of_pairwise pairwise_ofType htype
  · dsimp only
    rw [nameAfter?_append hname hrest]
    rfl
  · rintro ⟨other, _⟩ hother
    have hstart : type.toList <+: (type ++ name ++ rest).toList :=
      begins_append (begins_append List.prefix_rfl name) rest
    dsimp only
    rw [nameAfter?_eq_none (hother.not_begins hstart)]
    rfl

/-- The starts of the other lines at the margin. -/
def marginStarts : List String := [" ", "/", "#", "\x7d"]

theorem definition?_of_margin (start : String) {line : String} (hmem : start ∈ marginStarts)
    (hstart : start.toList <+: line.toList) : definition? line = none := by
  have hapart : ∀ start ∈ marginStarts, ∀ p ∈ Role.ofType, Apart start p.1 := by
    simp only [marginStarts, Role.ofType, List.forall_mem_cons, List.not_mem_nil, false_implies, implies_true,
      and_true]
    repeat' apply And.intro
    all_goals
      rw [String.toList_ofList, String.toList_ofList]
      decide
  apply List.findSome?_eq_none_iff.mpr
  rintro ⟨type, role⟩ hp
  dsimp only
  rw [nameAfter?_eq_none ((hapart start hmem _ hp).not_begins hstart)]
  rfl

theorem definition?_empty : definition? "" = none := by
  have hempty : ∀ p ∈ Role.ofType, ¬ p.1.toList <+: "".toList := by
    simp only [Role.ofType, List.forall_mem_cons, List.not_mem_nil, false_implies, implies_true, and_true]
    repeat' apply And.intro
    all_goals
      rw [String.toList_ofList]
      decide
  apply List.findSome?_eq_none_iff.mpr
  rintro ⟨type, role⟩ hp
  dsimp only
  rw [nameAfter?_eq_none (hempty _ hp)]
  rfl

theorem definition?_indentLine (line : String) : definition? (Fragment.indentLine line) = none := by
  rw [Fragment.indentLine]
  split
  · next hempty =>
    rw [String.isEmpty_iff.mp hempty]
    exact definition?_empty
  · exact definition?_of_margin " " (by simp [marginStarts]) (begins_append (begins_ofList (by decide)) line)

@[simp] theorem definitions_append (a b : Fragment) : definitions (a ++ b) = definitions a ++ definitions b :=
  List.filterMap_append

theorem definitions_cons (line : String) (code : Fragment) :
    definitions (line :: code) = (definition? line).toList ++ definitions code := by
  rw [definitions, List.filterMap_cons]
  cases definition? line <;> rfl

theorem definitions_indent (code : Fragment) : definitions (Fragment.indent code) = [] := by
  apply List.filterMap_eq_nil_iff.mpr
  intro line hline
  obtain ⟨l, -, rfl⟩ := List.mem_map.mp hline
  exact definition?_indentLine l

/-- Only the header of a block stands at the margin. -/
theorem definitions_block (header : String) (body : Fragment) :
    definitions (Fragment.block header body) = (definition? header).toList := by
  have hfooter : definition? "\x7d" = none := definition?_of_margin "\x7d" (by simp [marginStarts]) List.prefix_rfl
  rw [Fragment.block, List.cons_append, definitions_cons, definitions_append, definitions_indent, definitions_cons,
    hfooter]
  exact List.append_nil _

/-- What a use of a name looks like: the whole line but for its indentation. -/
structure Frame where
  before : String
  after : String

namespace Frame

variable (f : Frame)

def text (name : String) : String := f.before ++ name ++ f.after

def read? (cs : List Char) : Option String :=
  (nameAfter? f.before cs).bind fun (name, rest) => if rest = f.after.toList then some name else none

variable {f}

theorem read?_text {name : String} (hname : IsName name) (hafter : Breaks f.after) :
    f.read? (f.text name).toList = some name := by
  rw [read?, text, nameAfter?_append hname hafter]
  exact if_pos rfl

theorem eq_text_of_read? {cs : List Char} {name : String} (h : f.read? cs = some name) :
    cs = (f.text name).toList ∧ IsPart name := by
  obtain ⟨⟨found, rest⟩, hread, h⟩ := Option.bind_eq_some_iff.mp h
  obtain ⟨hcs, hpart⟩ := eq_append_of_nameAfter? hread
  dsimp only at h
  split at h
  · next hrest =>
    obtain rfl := Option.some.inj h
    rw [text, String.toList_append, String.toList_append, List.append_assoc, ← hrest]
    exact ⟨hcs, hpart⟩
  · cases h

theorem read?_eq_none {cs : List Char} (h : ¬ f.before.toList <+: cs) : f.read? cs = none := by
  rw [read?, nameAfter?_eq_none h]
  rfl

end Frame

/-- What a name is used for: to unwrap and to mark an object with the class's own information, to attach a
dispatcher, to wrap a new object, and to hand over the constructor. -/
inductive Use where
  | unwraps
  | marks
  | attaches
  | returns
  | wraps
deriving DecidableEq

namespace Use

def frame : Use → Frame
  | unwraps => ⟨"if (!jerry_get_object_native_pointer(this_val, &native_ptr, &", ")) \x7b"⟩
  | marks => ⟨"jerry_set_object_native_pointer(js_obj, native_obj, &", ");"⟩
  | attaches => ⟨"jerry_value_t prop_fn = jerry_create_external_function(", ");"⟩
  | returns => ⟨"return jerry_create_external_function(", ");"⟩
  | wraps => ⟨"return ", "(native_obj);"⟩

def all : List Use := [unwraps, marks, attaches, returns, wraps]

/-- What has to be defined for a name to be used so. -/
def role : Use → Role
  | unwraps | marks => .info
  | attaches | returns => .dispatcher
  | wraps => .wrapper

end Use

structure Mention where
  use : Use
  name : String
deriving DecidableEq

def Mention.target (m : Mention) : Definition := ⟨m.use.role, m.name⟩

def outdented (line : String) : List Char := line.toList.dropWhile (· = ' ')

def mention? (line : String) : Option Mention :=
  Use.all.findSome? fun use => (use.frame.read? (outdented line)).map fun name => ⟨use, name⟩

def mentions (code : Fragment) : List Mention := code.filterMap mention?

@[simp] theorem mentions_nil : mentions [] = [] := rfl

@[simp] theorem mentions_cons (line : String) (code : Fragment) :
    mentions (line :: code) = (mention? line).toList ++ mentions code := by
  rw [mentions, List.filterMap_cons]
  cases mention? line <;> rfl

@[simp] theorem mentions_append (a b : Fragment) : mentions (a ++ b) = mentions a ++ mentions b :=
  List.filterMap_append

theorem mentions_flatMap {α : Type} (l : List α) (f : α → Fragment) :
    mentions (l.flatMap f) = l.flatMap fun a => mentions (f a) :=
  List.filterMap_flatMap

theorem outdented_indentLine (line : String) : outdented (Fragment.indentLine line) = outdented line := by
  rw [Fragment.indentLine]
  split
  · rfl
  · rw [outdented, String.toList_append]
    rfl

theorem mention?_indentLine (line : String) : mention? (Fragment.indentLine line) = mention? line := by
  rw [mention?, outdented_indentLine, mention?]

@[simp] theorem mentions_indent (code : Fragment) : mentions (Fragment.indent code) = mentions code := by
  have hline : mention? ∘ Fragment.indentLine = mention? := funext mention?_indentLine
  rw [mentions, Fragment.indent, List.filterMap_map, hline, mentions]

theorem head_ofList {c : Char} {cs : List Char} (h : c ≠ ' ') :
    (String.ofList (c :: cs)).toList.head? ≠ some ' ' ∧ (String.ofList (c :: cs)).toList ≠ [] := by
  rw [String.toList_ofList]
  exact ⟨fun he => h (Option.some.inj he), List.cons_ne_nil c cs⟩

theorem Use.head_frame (use : Use) :
    use.frame.before.toList.head? ≠ some ' ' ∧ use.frame.before.toList ≠ [] := by
  cases use <;> exact head_ofList (by decide)

theorem outdented_of_head {line : String} (h : line.toList.head? ≠ some ' ') : outdented line = line.toList := by
  rw [outdented]
  cases hline : line.toList with
  | nil => rfl
  | cons c cs =>
    have hc : c ≠ ' ' := by simpa [hline] using h
    rw [List.dropWhile_cons_of_neg (by simpa using hc)]

/-- The characters that no use of a name is written with. -/
def foreignChars : List Char := ['*', ':', '>', '<', '[', ']', '"', '\\', '/', '+', '?']

def Foreign (s : String) : Prop := ∃ c ∈ foreignChars, c ∈ s.toList

theorem foreign_ofList {cs : List Char} (h : foreignChars.any (cs.contains ·) = true) :
    Foreign (String.ofList cs) := by
  rw [Foreign, String.toList_ofList]
  simpa using h

theorem Foreign.left {s : String} (h : Foreign s) (t : String) : Foreign (s ++ t) := by
  obtain ⟨c, hc, hs⟩ := h
  refine ⟨c, hc, ?_⟩
  rw [String.toList_append]
  exact List.mem_append_left _ hs

theorem Foreign.right {t : String} (h : Foreign t) (s : String) : Foreign (s ++ t) := by
  obtain ⟨c, hc, ht⟩ := h
  refine ⟨c, hc, ?_⟩
  rw [String.toList_append]
  exact List.mem_append_right _ ht

theorem Use.frame_of_foreign (use : Use) :
    ∀ d ∈ foreignChars, d ∉ use.frame.before.toList ∧ d ∉ use.frame.after.toList := by
  have hall (before after : List Char) (h : (foreignChars.all fun d => !before.contains d && !after.contains d) = true) :
      ∀ d ∈ foreignChars, d ∉ (String.ofList before).toList ∧ d ∉ (String.ofList after).toList := by
    rw [String.toList_ofList, String.toList_ofList]
    simpa using h
  cases use <;> exact hall _ _ rfl

theorem mention?_of_foreign {line : String} (h : Foreign line) : mention? line = none := by
  have hchars : ∀ d ∈ foreignChars, d ≠ ' ' ∧ isNameChar d = false := by
    simp [foreignChars, isNameChar, isLetter, isDigit]
  obtain ⟨c, hforeign, hc⟩ := h
  obtain ⟨hspace, hname⟩ := hchars c hforeign
  have houtdented : c ∈ outdented line := by
    have hsplit := List.takeWhile_append_dropWhile (p := fun d => decide (d = ' ')) (l := line.toList)
    rw [← hsplit] at hc
    rcases List.mem_append.mp hc with hc | hc
    · have hblank := List.mem_takeWhile_imp hc
      exact absurd (by simpa using hblank) hspace
    · exact hc
  apply List.findSome?_eq_none_iff.mpr
  intro use _
  obtain ⟨hbefore, hafter⟩ := use.frame_of_foreign c hforeign
  apply Option.map_eq_none_iff.mpr
  apply Option.eq_none_iff_forall_ne_some.mpr
  intro name hread
  obtain ⟨htext, hpart⟩ := Frame.eq_text_of_read? hread
  rw [htext, Frame.text, String.toList_append, String.toList_append] at houtdented
  rcases List.mem_append.mp houtdented with hmem | hmem
  · rcases List.mem_append.mp hmem with hmem | hmem
    · exact hbefore hmem
    · rw [hpart c hmem] at hname
      cases hname
  · exact hafter hmem

theorem head?_ne_of_begins {start cs : List Char} (hstart : start <+: cs)
    (h : start.head? ≠ some ' ' ∧ start ≠ []) : cs.head? ≠ some ' ' := by
  obtain ⟨rest, rfl⟩ := hstart
  cases start with
  | nil => exact absurd rfl h.2
  | cons c start => exact h.1

/-- The starts of lines that are no uses of a name. -/
def quietStarts : List String := [
  "\x7d", "\x7b", "static", "if (args", "jerry_value_t enum", "jerry_value_t global", "jerry_value_t js",
  "jerry_release"]

theorem mention?_of_quiet (start : String) {line : String} (hmem : start ∈ quietStarts)
    (hstart : start.toList <+: line.toList) : mention? line = none := by
  have hheads : ∀ start ∈ quietStarts, start.toList.head? ≠ some ' ' ∧ start.toList ≠ [] := by
    simp only [quietStarts, List.forall_mem_cons, List.not_mem_nil, false_implies, implies_true, and_true]
    repeat' apply And.intro
    all_goals
      rw [String.toList_ofList]
      decide
  have hapart (use : Use) : ∀ start ∈ quietStarts, Apart start use.frame.before := by
    cases use
    all_goals
      simp only [quietStarts, Use.frame, List.forall_mem_cons, List.not_mem_nil, false_implies, implies_true, and_true]
      exact ⟨apart_ofList (by decide), apart_ofList (by decide), apart_ofList (by decide), apart_ofList (by decide),
        apart_ofList (by decide), apart_ofList (by decide), apart_ofList (by decide), apart_ofList (by decide)⟩
  apply List.findSome?_eq_none_iff.mpr
  intro use _
  rw [outdented_of_head (head?_ne_of_begins hstart (hheads start hmem)),
    Frame.read?_eq_none ((hapart use start hmem).not_begins hstart)]
  rfl

/-- What is returned is neither a function nor an object that is wrapped. -/
theorem mention?_returned (start : String) {cs : List Char} (hstart : start.toList <+: cs)
    (hreturn : "return ".toList <+: start.toList) (hcreate : Apart start Use.returns.frame.before)
    (hwrap : ¬ ['j', ')', ';'] <:+ cs) : mention? (String.ofList cs) = none := by
  have hline : (String.ofList cs).toList = cs := String.toList_ofList
  have hblank : (String.ofList cs).toList.head? ≠ some ' ' := by
    rw [hline]
    exact head?_ne_of_begins (hreturn.trans hstart) (head_ofList (by decide))
  apply List.findSome?_eq_none_iff.mpr
  intro use _
  rw [outdented_of_head hblank, hline]
  apply Option.map_eq_none_iff.mpr
  cases use with
  | wraps =>
    apply Option.eq_none_iff_forall_ne_some.mpr
    intro name hread
    apply hwrap
    rw [(Frame.eq_text_of_read? hread).1, Frame.text, String.toList_append]
    exact (show _ <:+ Use.wraps.frame.after.toList by decide).trans (List.suffix_append _ _)
  | returns => exact Frame.read?_eq_none (hcreate.not_begins hstart)
  | unwraps | marks | attaches =>
    apply Frame.read?_eq_none
    exact Apart.not_begins (apart_ofList (by decide)) (hreturn.trans hstart)

theorem mention?_empty : mention? "" = none := by
  apply List.findSome?_eq_none_iff.mpr
  intro use _
  have hempty : ¬ use.frame.before.toList <+: outdented "" := fun h => use.head_frame.2 (List.prefix_nil.mp h)
  rw [Frame.read?_eq_none hempty]
  rfl

theorem mentions_block (header : String) (body : Fragment) :
    mentions (Fragment.block header body) = (mention? header).toList ++ mentions body := by
  have hfooter : mention? "\x7d" = none := mention?_of_quiet "\x7d" (by simp [quietStarts]) List.prefix_rfl
  rw [Fragment.block, List.cons_append, mentions_cons, mentions_append, mentions_indent, mentions_cons, hfooter]
  simp

theorem pairwise_all : Use.all.Pairwise fun use other =>
    Apart other.frame.before use.frame.before ∨ use = .returns ∧ other = .wraps := by
  unfold Use.all
  simp only [List.pairwise_cons, List.mem_cons, List.not_mem_nil, or_false, forall_eq_or_imp, forall_eq,
    List.Pairwise.nil, false_implies, implies_true, and_true]
  have hapart {p q : List Char} {other : Prop} (h : ¬ p <+: q ∧ ¬ q <+: p) :
      Apart (String.ofList p) (String.ofList q) ∨ other := .inl (apart_ofList h)
  exact ⟨⟨hapart (by decide), hapart (by decide), hapart (by decide), hapart (by decide)⟩,
    ⟨hapart (by decide), hapart (by decide), hapart (by decide)⟩, ⟨hapart (by decide), hapart (by decide)⟩,
    .inr trivial⟩

/-- Only the function that makes a function could be taken for one that wraps an object. -/
theorem mention?_text (use : Use) {name : String} (hname : IsName name)
    (hcreate : use = .wraps → name ≠ "jerry_create_external_function") :
    mention? (use.frame.text name) = some ⟨use, name⟩ := by
  have hafter : Breaks use.frame.after := by
    cases use with
    | wraps => exact breaks_of_begins (c := '(') (begins_ofList (by decide)) (by decide)
    | _ => exact breaks_of_begins (c := ')') (begins_ofList (by decide)) (by decide)
  have huse : use ∈ Use.all := by cases use <;> decide
  have hstart : use.frame.before.toList <+: (use.frame.text name).toList :=
    begins_append (begins_append List.prefix_rfl name) use.frame.after
  rw [mention?, outdented_of_head (head?_ne_of_begins hstart use.head_frame)]
  apply findSome?_of_pairwise pairwise_all huse
  · rw [Frame.read?_text hname hafter]
    rfl
  · rintro other (hapart | ⟨rfl, rfl⟩)
    · rw [Frame.read?_eq_none (hapart.not_begins hstart)]
      rfl
    · apply Option.map_eq_none_iff.mpr
      apply Option.eq_none_iff_forall_ne_some.mpr
      intro found hread
      obtain ⟨htext, -⟩ := Frame.eq_text_of_read? hread
      -- Both kinds of line start with `return`: what tells them apart is the name behind it.
      have hwraps : nameAfter? "return " ("return " ++ name ++ "(native_obj);").toList =
          some (name, "(native_obj);".toList) := nameAfter?_append hname (by decide)
      have hreturns : nameAfter? "return " ("return " ++ "jerry_create_external_function" ++
          ("(" ++ found ++ ");")).toList = some ("jerry_create_external_function", ("(" ++ found ++ ");").toList) :=
        nameAfter?_append (by decide) (breaks_of_begins (c := '(') (begins_between (by decide) _ _) (by decide))
      have hcut : "return jerry_create_external_function(" =
          "return " ++ "jerry_create_external_function" ++ "(" := by decide
      have hsame : "return " ++ name ++ "(native_obj);" =
          "return " ++ "jerry_create_external_function" ++ ("(" ++ found ++ ");") := by
        rw [← String.append_assoc, ← String.append_assoc, ← hcut]
        exact String.toList_inj.mp htext
      rw [hsame, hreturns, Option.some.injEq, Prod.mk.injEq] at hwraps
      exact absurd hwraps.1.symm (hcreate rfl)

/-- Every part of the code mentions only what the parts before it define. -/
def Closed (known : List Definition) : List Fragment → Prop
  | [] => True
  | code :: rest => (∀ m ∈ mentions code, m.target ∈ known) ∧ Closed (known ++ definitions code) rest

theorem closed_append {known : List Definition} {a b : List Fragment} :
    Closed known (a ++ b) ↔ Closed known a ∧ Closed (known ++ a.flatMap definitions) b := by
  induction a generalizing known with
  | nil => simp [Closed]
  | cons code a ih => rw [List.cons_append, Closed, ih, Closed, List.flatMap_cons, List.append_assoc, and_assoc]

theorem closed_of_forall {known : List Definition} {codes : List Fragment}
    (h : ∀ code ∈ codes, ∀ m ∈ mentions code, m.target ∈ known) : Closed known codes := by
  induction codes generalizing known with
  | nil => trivial
  | cons code codes ih =>
    refine ⟨h code List.mem_cons_self, ih ?_⟩
    intro other hother m hm
    exact List.mem_append_left _ (h other (List.mem_cons_of_mem _ hother) m hm)

end ScriptBinding
