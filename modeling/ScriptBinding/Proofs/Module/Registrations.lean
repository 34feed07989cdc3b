import ScriptBinding.Proofs.Code.Literals
import ScriptBinding.Proofs.Dump.Printing
import ScriptBinding.Proofs.Module.References
import ScriptBinding.Proofs.Module.Wiring

/-!
The enumerations that a module registers, read from its source. The function that the engine calls first is run
line by line on the objects that it makes; a line that is no statement of such a function ends the reading.
-/

namespace ScriptBinding

open Code Dump Text

inductive Statement where
  | makeObject
  | key (label : String)
  | number (value : Int)
  | setKey
  | title (name : String)
  | setTitle
  | handOver (functionName : String)
  | idle
deriving DecidableEq

namespace Statement

def keyStart : String := "jerry_value_t enum_key = "

def titleStart : String := "jerry_value_t enum_name = "

def numberStart : String := "jerry_value_t enum_val = jerry_create_number((double) "

def fixed : List (String × Statement) := [
  ("", idle), ("\x7b", idle), ("\x7d", idle),
  ("jerry_value_t enum_obj = jerry_create_object();", makeObject),
  ("jerry_release_value(jerry_set_property(enum_obj, enum_key, enum_val));", setKey),
  ("jerry_release_value(enum_val);", idle),
  ("jerry_release_value(enum_key);", idle),
  ("jerry_value_t global_obj = jerry_get_global_object();", idle),
  ("jerry_release_value(jerry_set_property(global_obj, enum_name, enum_obj));", setTitle),
  ("jerry_release_value(enum_name);", idle),
  ("jerry_release_value(global_obj);", idle),
  ("jerry_release_value(enum_obj);", idle)]

/-- The text that a variable is set to, if that is all that the line does. -/
def string? (start : String) (cs : List Char) : Option String :=
  ((after? start.toList cs).bind scriptString?).bind fun (text, rest) => if rest = [';'] then some text else none

def number? (cs : List Char) : Option Int :=
  (after? numberStart.toList cs).bind fun cs =>
    if cs.dropWhile (· ≠ ')') = [')', ';'] then (readDecimal (cs.takeWhile (· ≠ ')'))).toOption else none

def read? (cs : List Char) : Option Statement :=
  ((string? keyStart cs).map key).or <| ((number? cs).map number).or <| ((string? titleStart cs).map title).or <|
    ((Use.returns.frame.read? cs).map handOver).or <| (fixed.find? (·.1.toList = cs)).map (·.2)

end Statement

def statement? (line : String) : Option Statement := Statement.read? (outdented line)

/-- The values at hand, and what has been registered so far. -/
structure Registering where
  key : Option String := none
  number : Option Int := none
  object : Option EnumValues := none
  title : Option String := none
  registered : List (String × EnumValues) := []
deriving DecidableEq

namespace Registering

def step (r : Registering) : Statement → Option Registering
  | .makeObject => some { r with object := some [] }
  | .key label => some { r with key := some label }
  | .number value => some { r with number := some value }
  | .setKey =>
    match r.key, r.number, r.object with
    | some label, some value, some values =>
      some { r with key := none, number := none, object := some (values ++ [(label, value)]) }
    | _, _, _ => none
  | .title name => some { r with title := some name }
  | .setTitle =>
    match r.title, r.object with
    | some name, some values =>
      some { r with title := none, object := none, registered := r.registered ++ [(name, values)] }
    | _, _ => none
  | .handOver _ => some r
  | .idle => some r

def next (r : Registering) (line : String) : Option Registering := (statement? line).bind r.step

def run (r : Registering) (code : Fragment) : Option Registering := code.foldlM next r

end Registering

def isEntry (line : String) : Bool := (definition? line).any (·.role = .entry)

/-- The lines behind the last one that begins a function to be called first. -/
def afterEntry (source : Fragment) : Fragment := (source.reverse.takeWhile fun line => !isEntry line).reverse

/-- The enumerations that are registered by the function that is called first. -/
def registrations? (source : Fragment) : Option (List (String × EnumValues)) :=
  (Registering.run {} (afterEntry source)).map (·.registered)

theorem afterEntry_append (before : Fragment) {body : Fragment} {header : String} (hheader : isEntry header = true)
    (hbody : ∀ line ∈ body, isEntry line = false) : afterEntry (before ++ header :: body) = body := by
  have hreverse : ∀ line ∈ body.reverse, (!isEntry line) = true := by
    intro line hline
    simp [hbody line (List.mem_reverse.mp hline)]
  have hstop : (header :: before.reverse).takeWhile (fun line => !isEntry line) = [] :=
    List.takeWhile_cons_of_neg (by simp [hheader])
  rw [afterEntry, List.reverse_append, List.reverse_cons, List.append_assoc, List.singleton_append,
    List.takeWhile_append_of_pos hreverse, hstop, List.append_nil, List.reverse_reverse]

namespace Statement

theorem after?_eq_none {start cs : List Char} (h : ¬ start <+: cs) : after? start cs = none := by
  apply Option.eq_none_iff_forall_ne_some.mpr
  intro rest hrest
  exact h ⟨rest, (eq_append_of_after? hrest).symm⟩

theorem string?_eq_none {start : String} {cs : List Char} (h : ¬ start.toList <+: cs) : string? start cs = none := by
  rw [string?, after?_eq_none h]
  rfl

theorem number?_eq_none {cs : List Char} (h : ¬ numberStart.toList <+: cs) : number? cs = none := by
  rw [number?, after?_eq_none h]
  rfl

theorem string?_append (start text : String) :
    string? start (start ++ scriptString text ++ ";").toList = some text := by
  have hend : ";".toList = [';'] := rfl
  rw [string?, String.toList_append, String.toList_append, List.append_assoc, after?_append, Option.bind_some,
    scriptString?_append, Option.bind_some]
  exact if_pos hend

theorem number?_append {z : Int} {number : String} (h : decimal? z = some number) :
    number? (numberStart ++ number ++ ");").toList = some z := by
  obtain ⟨hbound, hnumber⟩ := Option.ite_none_right_eq_some.mp h
  obtain rfl := Option.some.inj hnumber
  have hplain : ∀ c ∈ (toString z).toList, (decide (c ≠ ')')) = true := by
    intro c hc
    rw [decide_eq_true_eq]
    rw [toList_int] at hc
    split_ifs at hc
    · exact isDecimal_ne (isDecimal_of_mem_toDigits c hc) (by decide +kernel)
    · rcases List.mem_cons.mp hc with rfl | hc
      · decide
      · exact isDecimal_ne (isDecimal_of_mem_toDigits c hc) (by decide +kernel)
  have hend : ");".toList = [')', ';'] := rfl
  rw [number?, String.toList_append, String.toList_append, List.append_assoc, after?_append, Option.bind_some, hend,
    List.dropWhile_append_of_pos hplain, List.takeWhile_append_of_pos hplain, if_pos (by simp),
    List.takeWhile_cons_of_neg (by simp), List.append_nil, readDecimal_toString hbound]
  rfl

end Statement

theorem statement?_indentLine (line : String) : statement? (Fragment.indentLine line) = statement? line := by
  rw [statement?, outdented_indentLine, statement?]

namespace Statement

/-- The starts of the lines that hold a text, a number or a name. -/
def starts : List String := [keyStart, numberStart, titleStart, Use.returns.frame.before]

theorem starts_fixed : ∀ p ∈ fixed, p.1.toList.head? ≠ some ' ' ∧ ∀ start ∈ starts, ¬ start.toList <+: p.1.toList := by
  simp only [fixed, starts, keyStart, numberStart, titleStart, Use.frame, List.forall_mem_cons, List.not_mem_nil,
    false_implies, implies_true, and_true]
  repeat' apply And.intro
  all_goals
    repeat rw [String.toList_ofList]
    decide

theorem find?_fixed {line : String} {s : Statement} (h : (line, s) ∈ fixed) :
    fixed.find? (·.1.toList = line.toList) = some (line, s) := by
  have hnodup : (fixed.map (·.1)).Nodup := by simp [fixed]
  obtain ⟨before, after, hsplit⟩ := List.append_of_mem h
  rw [hsplit, List.find?_append]
  rw [hsplit, List.map_append, List.nodup_append] at hnodup
  have hbefore : before.find? (·.1.toList = line.toList) = none := by
    apply List.find?_eq_none.mpr
    intro p hp hsame
    exact hnodup.2.2 p.1 (List.mem_map_of_mem hp) line (by simp) (String.toList_inj.mp (by simpa using hsame))
  simp [hbefore]

end Statement

theorem statement?_fixed {line : String} {s : Statement} (h : (line, s) ∈ Statement.fixed) :
    statement? line = some s := by
  obtain ⟨hhead, hstarts⟩ := Statement.starts_fixed _ h
  rw [statement?, outdented_of_head hhead, Statement.read?,
    Statement.string?_eq_none (hstarts Statement.keyStart (by simp [Statement.starts])),
    Statement.number?_eq_none (hstarts Statement.numberStart (by simp [Statement.starts])),
    Statement.string?_eq_none (hstarts Statement.titleStart (by simp [Statement.starts])),
    Frame.read?_eq_none (hstarts Use.returns.frame.before (by simp [Statement.starts])), Statement.find?_fixed h]
  rfl

/-- The statement of a fixed line at its position, where the lines need not be compared. -/
theorem statement?_at (i : Nat) {line : String} {s : Statement} (h : Statement.fixed[i]? = some (line, s)) :
    statement? line = some s :=
  statement?_fixed (List.mem_of_getElem? h)

theorem statement?_of_begins {start line : String} (hstart : start.toList <+: line.toList)
    (hhead : start.toList.head? ≠ some ' ' ∧ start.toList ≠ []) : statement? line = Statement.read? line.toList := by
  rw [statement?, outdented_of_head (head?_ne_of_begins hstart hhead)]

theorem statement?_key (label : String) :
    statement? ("jerry_value_t enum_key = " ++ scriptString label ++ ";") = some (.key label) := by
  have hstart : Statement.keyStart.toList <+: (Statement.keyStart ++ scriptString label ++ ";").toList :=
    begins_append (begins_append List.prefix_rfl _) _
  change statement? (Statement.keyStart ++ scriptString label ++ ";") = _
  rw [statement?_of_begins hstart (head_ofList (by decide)), Statement.read?, Statement.string?_append]
  rfl

theorem statement?_number {z : Int} {number : String} (h : decimal? z = some number) :
    statement? ("jerry_value_t enum_val = jerry_create_number((double) " ++ number ++ ");") = some (.number z) := by
  have hstart : Statement.numberStart.toList <+: (Statement.numberStart ++ number ++ ");").toList :=
    begins_append (begins_append List.prefix_rfl _) _
  have hkey : Apart Statement.numberStart Statement.keyStart := apart_ofList (by decide)
  change statement? (Statement.numberStart ++ number ++ ");") = _
  rw [statement?_of_begins hstart (head_ofList (by decide)), Statement.read?,
    Statement.string?_eq_none (hkey.not_begins hstart), Statement.number?_append h]
  rfl

theorem statement?_title (name : String) :
    statement? ("jerry_value_t enum_name = " ++ scriptString name ++ ";") = some (.title name) := by
  have hstart : Statement.titleStart.toList <+: (Statement.titleStart ++ scriptString name ++ ";").toList :=
    begins_append (begins_append List.prefix_rfl _) _
  have hkey : Apart Statement.titleStart Statement.keyStart := apart_ofList (by decide)
  have hnumber : Apart Statement.titleStart Statement.numberStart := apart_ofList (by decide)
  change statement? (Statement.titleStart ++ scriptString name ++ ";") = _
  rw [statement?_of_begins hstart (head_ofList (by decide)), Statement.read?,
    Statement.string?_eq_none (hkey.not_begins hstart), Statement.number?_eq_none (hnumber.not_begins hstart),
    Statement.string?_append]
  rfl

theorem statement?_handOver {name : String} (h : IsName name) :
    statement? ("return jerry_create_external_function(" ++ name ++ ");") = some (.handOver name) := by
  have hstart : Use.returns.frame.before.toList <+: (Use.returns.frame.text name).toList :=
    begins_append (begins_append List.prefix_rfl _) _
  have hapart : ∀ start ∈ [Statement.keyStart, Statement.numberStart, Statement.titleStart],
      Apart Use.returns.frame.before start := by
    simp only [List.forall_mem_cons, List.not_mem_nil, false_implies, implies_true, and_true]
    exact ⟨apart_ofList (by decide), apart_ofList (by decide), apart_ofList (by decide)⟩
  have hnone (start : String) (hmem : start ∈ [Statement.keyStart, Statement.numberStart, Statement.titleStart]) :=
    (hapart start hmem).not_begins hstart
  have hafter : Breaks Use.returns.frame.after := breaks_of_begins (c := ')') (begins_ofList (by decide)) (by decide)
  change statement? (Use.returns.frame.text name) = _
  rw [statement?_of_begins hstart Use.returns.head_frame, Statement.read?,
    Statement.string?_eq_none (hnone _ (by simp)), Statement.number?_eq_none (hnone _ (by simp)),
    Statement.string?_eq_none (hnone _ (by simp)), Frame.read?_text h hafter]
  rfl

namespace Registering

variable {r : Registering}

theorem next_of_statement? {line : String} {s : Statement} (h : statement? line = some s) : r.next line = r.step s := by
  rw [next, h]
  rfl

theorem run_nil : r.run [] = some r := rfl

theorem run_cons (line : String) (code : Fragment) : r.run (line :: code) = (r.next line).bind (·.run code) :=
  List.foldlM_cons

theorem run_append (a b : Fragment) : r.run (a ++ b) = (r.run a).bind (·.run b) := List.foldlM_append

theorem run_indent (code : Fragment) : r.run (Fragment.indent code) = r.run code := by
  induction code generalizing r with
  | nil => rfl
  | cons line code ih =>
    rw [Fragment.indent_cons, run_cons, run_cons, next, statement?_indentLine, ← next]
    simp only [ih]

theorem run_idle {code : Fragment} (h : ∀ line ∈ code, statement? line = some .idle) : r.run code = some r := by
  induction code with
  | nil => rfl
  | cons line code ih =>
    rw [run_cons, next_of_statement? (h line List.mem_cons_self)]
    exact ih fun l hl => h l (List.mem_cons_of_mem _ hl)

theorem run_block (body : Fragment) : r.run (Fragment.block "\x7b" body) = r.run body := by
  have hclose (r : Registering) : r.run ["\x7d"] = some r := run_idle (by simpa using statement?_at 2 rfl)
  rw [Fragment.block, List.cons_append, run_cons, next_of_statement? (statement?_at 1 rfl)]
  change ((r.run (Fragment.indent body ++ ["\x7d"]))) = _
  rw [run_append, run_indent]
  simp [hclose]

section

variable {values before : EnumValues} {registered : List (String × EnumValues)}

theorem run_labelCode {label : String} {value : Int} {code : Fragment} (h : labelCode label value = .ok code) :
    run ⟨none, none, some before, none, registered⟩ code =
      some ⟨none, none, some (before ++ [(label, value)]), none, registered⟩ := by
  unfold labelCode at h
  split at h
  · cases h
  · next number hnumber =>
    obtain rfl := Except.ok.inj h
    simp only [run_block, run_cons, run_nil, next_of_statement? (statement?_key label),
      next_of_statement? (statement?_number hnumber), next_of_statement? (statement?_at 4 rfl),
      next_of_statement? (statement?_at 5 rfl), next_of_statement? (statement?_at 6 rfl), step, Option.bind_some]

theorem run_labels {labels : List Fragment}
    (h : (values.mapM fun (label, value) => labelCode label value) = .ok labels) :
    run ⟨none, none, some before, none, registered⟩ labels.flatten =
      some ⟨none, none, some (before ++ values), none, registered⟩ := by
  have h₂ := mapM_eq_ok_iff.mp h
  clear h
  induction h₂ generalizing before with
  | nil => rw [List.append_nil]; rfl
  | cons hcode _ ih =>
    rw [List.flatten_cons, run_append, run_labelCode hcode, Option.bind_some, ih, List.append_assoc]
    rfl

theorem run_registrationCode {name : String} {code : Fragment} (h : registrationCode name values = .ok code) :
    run { registered } code = some { registered := registered ++ [(name, values)] } := by
  obtain ⟨labels, hlabels, rfl⟩ := Except.map_eq_ok_iff.mp h
  have hmake : run { registered } ["jerry_value_t enum_obj = jerry_create_object();", ""] =
      some ⟨none, none, some [], none, registered⟩ := by
    simp only [run_cons, run_nil, next_of_statement? (statement?_at 3 rfl), next_of_statement? (statement?_at 0 rfl),
      step, Option.bind_some]
  have hset : run ⟨none, none, some values, none, registered⟩ ["",
      "jerry_value_t global_obj = jerry_get_global_object();",
      "jerry_value_t enum_name = " ++ scriptString name ++ ";",
      "jerry_release_value(jerry_set_property(global_obj, enum_name, enum_obj));",
      "jerry_release_value(enum_name);", "jerry_release_value(global_obj);", "jerry_release_value(enum_obj);"] =
      some { registered := registered ++ [(name, values)] } := by
    simp only [run_cons, run_nil, next_of_statement? (statement?_at 0 rfl), next_of_statement? (statement?_at 7 rfl),
      next_of_statement? (statement?_title name), next_of_statement? (statement?_at 8 rfl),
      next_of_statement? (statement?_at 9 rfl), next_of_statement? (statement?_at 10 rfl),
      next_of_statement? (statement?_at 11 rfl), step, Option.bind_some]
  rw [run_block, run_append, run_append, hmake, Option.bind_some, run_labels hlabels, Option.bind_some, List.nil_append,
    hset]

theorem run_registrations {enumerations : Keyed String EnumValues} {codes : List Fragment}
    (h : (enumerations.mapM fun (name, values) => registrationCode name values) = .ok codes) :
    run { registered } (codes.flatMap (· ++ [""])) = some { registered := registered ++ enumerations } := by
  have hgap (r : Registering) : r.run [""] = some r := run_idle (by simpa using statement?_at 0 rfl)
  have h₂ := mapM_eq_ok_iff.mp h
  clear h
  induction h₂ generalizing registered with
  | nil => rw [List.append_nil]; rfl
  | cons hcode _ ih =>
    rw [List.flatMap_cons, run_append, run_append, run_registrationCode hcode, Option.bind_some, hgap,
      Option.bind_some, ih, List.append_assoc]
    rfl

end

end Registering

namespace Plan

variable {p : Plan}

theorem isEntry_initializerHeader :
    isEntry ("extern \"C\" jerry_value_t " ++ p.scriptClass.init ++ "() \x7b") = true := by
  have hentry := (reads_entryHeader p.scriptClass.isName_init).definitions
  rw [definitions_cons] at hentry
  have hdefinition : definition? ("extern \"C\" jerry_value_t " ++ p.scriptClass.init ++ "() \x7b") =
      some ⟨.entry, p.scriptClass.init⟩ := by
    cases hd : definition? ("extern \"C\" jerry_value_t " ++ p.scriptClass.init ++ "() \x7b") with
    | none => rw [hd] at hentry; cases hentry
    | some d => rw [hd] at hentry; exact congrArg some (List.cons.inj hentry).1
  rw [isEntry, hdefinition]
  rfl

theorem registrations?_initializerCode {before code : Fragment} (hconstructor : IsName p.constructor.functionName)
    (h : p.initializerCode = .ok code) : registrations? (before ++ (code ++ [""])) = some p.enumerations := by
  obtain ⟨codes, hcodes, rfl⟩ := Except.map_eq_ok_iff.mp h
  have hbody : ∀ line ∈ Fragment.indent (codes.flatMap (· ++ [""]) ++
      ["return jerry_create_external_function(" ++ p.constructor.functionName ++ ");"]) ++ (["\x7d"] ++ [""]),
      isEntry line = false := by
    have hclose : ∀ line ∈ ["\x7d"] ++ [""], isEntry line = false := by
      have hfooter : definition? "\x7d" = none := definition?_of_margin "\x7d" (by simp [marginStarts]) List.prefix_rfl
      simp [isEntry, hfooter, definition?_empty]
    intro line hline
    rcases List.mem_append.mp hline with hline | hline
    · obtain ⟨l, -, rfl⟩ := List.mem_map.mp hline
      rw [isEntry, definition?_indentLine]
      rfl
    · exact hclose line hline
  have hreturn (r : Registering) :
      r.run ["return jerry_create_external_function(" ++ p.constructor.functionName ++ ");"] = some r := by
    rw [Registering.run_cons, Registering.next_of_statement? (statement?_handOver hconstructor)]
    rfl
  have hclose (r : Registering) : r.run (["\x7d"] ++ [""]) = some r :=
    Registering.run_idle (by simpa using ⟨statement?_at 2 rfl, statement?_at 0 rfl⟩)
  have hlines := afterEntry_append before p.isEntry_initializerHeader hbody
  rw [Fragment.block, List.cons_append, List.cons_append, List.append_assoc, registrations?, hlines,
    Registering.run_append, Registering.run_indent, Registering.run_append, Registering.run_registrations hcodes,
    Option.bind_some, hreturn, Option.bind_some, hclose]
  rfl

end Plan

namespace Target

theorem registrations?_package {c : Target} {headerLine library : String} {plan : Plan} {package : Package}
    (ht : c.tree.Flat) (hplan : (c.plan headerLine).result = .ok plan) (h : plan.package library = .ok package) :
    registrations? (Fragment.ofText package.source) = some plan.enumerations := by
  obtain ⟨bindings, bound, skipped, initializer, rfl, hdivided, hbound, hinitializer, hsource, -⟩ :=
    exists_planned hplan h
  have hflat := (reads_initializerPart ht hdivided hbound hinitializer).flat
  have hconstructor : IsName (c.planFor headerLine bindings).constructor.functionName := by
    change IsName (c.naming.dispatch bindings).constructor.functionName
    rw [Naming.functionName_constructor]
    exact c.scriptClass.isName_constructor
  generalize c.planFor headerLine bindings = p at hinitializer hsource hflat hconstructor
  generalize c.destructorCode.toText = destructor, (c.nativeWrapperCode p.methods).toText = nativeWrapper at hsource
  have hsections : (p.sections destructor nativeWrapper initializer).flatMap p.sectionCode =
      ([Section.preamble p.headerLine, .fragment destructor] ++ p.methods.map p.methodSection ++
        [.fragment nativeWrapper, p.constructorSection]).flatMap p.sectionCode ++
          p.sectionCode (.initializer initializer) := by
    simp [Plan.sections]
  have hne : (p.sections destructor nativeWrapper initializer).flatMap p.sectionCode ≠ [] := by
    simp [hsections, Plan.sectionCode]
  rw [hsource, Fragment.ofText_toText_eq_flatMap hne, hsections, List.flatMap_append, Fragment.flatMap_ofText hflat]
  exact Plan.registrations?_initializerCode hconstructor hinitializer

/-- The enumerations that methods with a binding refer to, each name once: in the order of the first references and
with the values of the last one. -/
structure Registers (c : Target) (registered : Keyed String EnumValues) : Prop where
  latest : Keyed.Latest c.references registered
  once : registered.keys.Nodup
  names : ∀ name, name ∈ registered.keys ↔ ∃ m ∈ c.boundMethods, ∃ values, (name, values) ∈ c.namedEnumerations m
  bound : ∀ m, m ∈ c.boundMethods ↔ m ∈ c.tree.publicMethods c.place ∧
    ∃ b, c.binding? m (c.tree.publicMethods c.place) = .ok (some b)
  ordered : c.boundMethods.Pairwise (· < ·)
  origin : ∀ m ∈ c.boundMethods, ∀ r ∈ c.namedEnumerations m, r.1 ≠ "" ∧
    ∃ i ∈ c.parameters m ++ [m], c.types.Origin (c.tree.typeReference? i) ⟨some r.1, r.2⟩

theorem registers_of_latest {c : Target} {registered : Keyed String EnumValues} (ht : c.tree.Linked)
    (h : Keyed.Latest c.references registered) : c.Registers registered where
  latest := h
  once := by
    rw [h.inOrder]
    exact nodup_firstOccurrences [] _
  names := by
    intro name
    rw [h.inOrder, mem_firstOccurrences, mem_keys_references]
    simp
  bound := fun m => mem_boundMethods
  ordered := (((ht.pairwise_children c.place).filter _).filter _).filter _
  origin := fun m _ r hr => origin_of_mem_namedEnumerations hr

/-- The enumerations that a module registers are those that its methods refer to, and no others. -/
theorem package_registers {text : String} {tree : Tree} {s : Settings} {handlers : Keyed String Handler}
    {package : Package} (ht : Tree.parse text = .ok tree)
    (h : (s.package handlers tree).result = .ok package) :
    ∃ place registered, tree.findClass s.className = .ok place ∧
      registrations? (Fragment.ofText package.source) = some registered ∧
      Registers ⟨⟨tree, handlers⟩, place, ⟨s.scriptName⟩⟩ registered := by
  obtain ⟨place, hplace, h, -⟩ := Report.exists_of_bind h
  obtain ⟨plan, hplan, hpackage, -⟩ := Report.exists_of_bind h
  refine ⟨place, plan.enumerations, hplace, registrations?_package (Tree.flat_of_parse ht) hplan hpackage, ?_⟩
  exact registers_of_latest (linked_of_parse ht) (latest_references hplan)

/-- An enumeration behind a reference to a constant, one that has the name of a type definition, and another one
of the first one's name. -/
def lampLines : List (List Char) := [
  "<0><b>: Abbrev Number: 1 (DW_TAG_class_type)".toList,
  "<c> DW_AT_name:Lamp".toList,
  "<1><10>: Abbrev Number: 2 (DW_TAG_subprogram)".toList,
  "<11> DW_AT_name:set".toList,
  "<12> DW_AT_accessibility:1 (public)".toList,
  "<2><13>: Abbrev Number: 3 (DW_TAG_formal_parameter)".toList,
  "<14> DW_AT_type:<0x70>".toList,
  "<2><15>: Abbrev Number: 3 (DW_TAG_formal_parameter)".toList,
  "<16> DW_AT_type:<0xa0>".toList,
  "<1><30>: Abbrev Number: 2 (DW_TAG_subprogram)".toList,
  "<31> DW_AT_name:get".toList,
  "<32> DW_AT_accessibility:1 (public)".toList,
  "<33> DW_AT_type:<0x80>".toList,
  "<0><50>: Abbrev Number: 4 (DW_TAG_enumeration_type)".toList,
  "<51> DW_AT_name:Mode".toList,
  "<0><60>: Abbrev Number: 4 (DW_TAG_enumeration_type)".toList,
  "<1><62>: Abbrev Number: 5 (DW_TAG_enumerator)".toList,
  "<63> DW_AT_name:low".toList,
  "<64> DW_AT_const_value:-2".toList,
  "<0><70>: Abbrev Number: 6 (DW_TAG_typedef)".toList,
  "<71> DW_AT_name:Level".toList,
  "<72> DW_AT_type:<0x60>".toList,
  "<0><80>: Abbrev Number: 4 (DW_TAG_enumeration_type)".toList,
  "<81> DW_AT_name:Mode".toList,
  "<1><82>: Abbrev Number: 5 (DW_TAG_enumerator)".toList,
  "<83> DW_AT_name:the \"on\"".toList,
  "<84> DW_AT_const_value:1".toList,
  "<0><a0>: Abbrev Number: 7 (DW_TAG_reference_type)".toList,
  "<a1> DW_AT_type:<0xa8>".toList,
  "<0><a8>: Abbrev Number: 8 (DW_TAG_const_type)".toList,
  "<a9> DW_AT_type:<0x50>".toList]

def lampTree : Tree := .ofEntries [
  ⟨"class_type", 0xb, 0, [("name", "Lamp")]⟩,
  ⟨"subprogram", 0x10, 1, [("name", "set"), ("accessibility", "1 (public)")]⟩,
  ⟨"formal_parameter", 0x13, 2, [("type", "<0x70>")]⟩,
  ⟨"formal_parameter", 0x15, 2, [("type", "<0xa0>")]⟩,
  ⟨"subprogram", 0x30, 1, [("name", "get"), ("accessibility", "1 (public)"), ("type", "<0x80>")]⟩,
  ⟨"enumeration_type", 0x50, 0, [("name", "Mode")]⟩,
  ⟨"enumeration_type", 0x60, 0, []⟩,
  ⟨"enumerator", 0x62, 1, [("name", "low"), ("const_value", "-2")]⟩,
  ⟨"typedef", 0x70, 0, [("name", "Level"), ("type", "<0x60>")]⟩,
  ⟨"enumeration_type", 0x80, 0, [("name", "Mode")]⟩,
  ⟨"enumerator", 0x82, 1, [("name", "the \"on\""), ("const_value", "1")]⟩,
  ⟨"reference_type", 0xa0, 0, [("type", "<0xa8>")]⟩,
  ⟨"const_type", 0xa8, 0, [("type", "<0x50>")]⟩]

def lampSettings : Settings := ⟨"lamp.txt", "Lamp", "Lamp", "lamp", "#include \"lamp.h\"", true, "output"⟩

theorem package_registers_lamp :
    Tree.parse (String.ofList (['\n'].intercalate lampLines)) = .ok lampTree ∧
      ∃ package, (lampSettings.package [] lampTree).result = .ok package ∧
        registrations? (Fragment.ofText package.source) =
          some [("Level", [("low", -2)]), ("Mode", [("the \"on\"", 1)])] := by
  have hparse : Tree.parse (String.ofList (['\n'].intercalate lampLines)) = .ok lampTree := by
    -- The lines are read one by one, since the whole text is too long for one evaluation.
    have hlines : ∀ l ∈ lampLines, Unbroken l := by
      rw [lampLines]
      repeat rw [String.toList_ofList]
      decide +kernel
    rw [parse_intercalate hlines, lampLines]
    repeat rw [String.toList_ofList]
    decide +kernel
  have hplace : lampTree.findClass lampSettings.className = .ok 0 := by decide +kernel
  have hreferences : Keyed.ofPairs (references ⟨⟨lampTree, []⟩, 0, ⟨"Lamp"⟩⟩) =
      [("Level", [("low", -2)]), ("Mode", [("the \"on\"", 1)])] := by decide +kernel
  have hok : (lampSettings.package [] lampTree).result.toOption.isSome = true := by decide +kernel
  cases hresult : (lampSettings.package [] lampTree).result with
  | error fault =>
    rw [hresult] at hok
    cases hok
  | ok package =>
    obtain ⟨place, registered, hfound, hread, hregisters⟩ := package_registers hparse hresult
    obtain rfl := Except.ok.inj (hfound.symm.trans hplace)
    refine ⟨hparse, package, rfl, hread.trans ?_⟩
    rw [hregisters.latest.unique (Keyed.latest_ofPairs _)]
    exact congrArg some hreferences

end Target

end ScriptBinding
