import ScriptBinding.Command.Run
import ScriptBinding.Proofs.Module.Stops

/-!
Runs that leave the store as it is: all but those that have made a module and are to write it. A run ends with
code 1 for a misuse of the command line, which no file has a part in, and for a class that the dump does not hold.
-/

namespace ScriptBinding

open Dump

/-- Not given, or given as an empty text. -/
def Lacking (text : Option String) : Prop := text = none ∨ text = some ""

theorem given_eq_none_iff {text : Option String} : given text = none ↔ Lacking text := by
  cases text <;> simp [given, Lacking]

theorem given_eq_some_iff {text : Option String} {s : String} : given text = some s ↔ text = some s ∧ s ≠ "" := by
  simp [given, Option.filter_eq_some_iff]

/-- A class template is asked for without a name of its own for scripts. -/
def Options.IsGeneric (o : Options) : Prop :=
  ∃ name, o.className = some name ∧ '<' ∈ name.toList ∧ (Lacking o.scriptName ∨ o.scriptName = some name)

theorem Options.isGeneric_iff {o : Options} {name : String} (hname : o.className = some name) :
    o.IsGeneric ↔ '<' ∈ name.toList ∧ (given o.scriptName).getD name = name := by
  have hscript : (given o.scriptName).getD name = name ↔ Lacking o.scriptName ∨ o.scriptName = some name := by
    cases hgiven : given o.scriptName with
    | none => simp [given_eq_none_iff.mp hgiven]
    | some script =>
      obtain ⟨hscript, hscriptne⟩ := given_eq_some_iff.mp hgiven
      simp [Lacking, hscript, hscriptne]
  rw [hscript]
  constructor
  · rintro ⟨_, hname', h⟩
    obtain rfl := Option.some.inj (hname.symm.trans hname')
    exact h
  · intro h
    exact ⟨name, hname, h⟩

theorem Settings.ofOptions_error_iff {o : Options} :
    (∃ e, Settings.ofOptions o = .error e) ↔ Lacking o.symbolsFile ∨ Lacking o.className ∨ o.IsGeneric := by
  rw [Settings.ofOptions]
  cases hfile : given o.symbolsFile with
  | none => simp [given_eq_none_iff.mp hfile]
  | some file =>
    cases hclass : given o.className with
    | none => simp [given_eq_none_iff.mp hclass]
    | some name =>
      have hfile' : ¬ Lacking o.symbolsFile := by simp [← given_eq_none_iff, hfile]
      have hclass' : ¬ Lacking o.className := by simp [← given_eq_none_iff, hclass]
      have hname := (given_eq_some_iff.mp hclass).1
      rw [Options.isGeneric_iff hname]
      simp only [hfile', hclass', false_or]
      split_ifs with hgeneric
      · simpa using hgeneric
      · simpa using hgeneric

namespace Command

variable {words : List String} {s : Files.FileStore} {program : String}

/-- The words cannot be read, or a name is missing among what they say. -/
inductive Misused (words : List String) : Prop where
  | unreadable (e : UsageFault) : readArguments words = .error e → Misused words
  | nameless (o : Options) : readArguments words = .ok (.options o) →
      Lacking o.symbolsFile ∨ Lacking o.className → Misused words
  | generic (o : Options) : readArguments words = .ok (.options o) → o.IsGeneric → Misused words

theorem misused_iff : Misused words ↔ ∃ message, requestOf words = .explain message := by
  rw [requestOf]
  constructor
  · rintro (⟨e, he⟩ | ⟨o, ho, hlacking⟩ | ⟨o, ho, hgeneric⟩)
    · exact ⟨e.message, by rw [he]⟩
    · obtain ⟨e, he⟩ := Settings.ofOptions_error_iff.mpr (hlacking.imp_right .inl)
      exact ⟨e.message, by rw [ho]; simp only [he]⟩
    · obtain ⟨e, he⟩ := Settings.ofOptions_error_iff.mpr (.inr (.inr hgeneric))
      exact ⟨e.message, by rw [ho]; simp only [he]⟩
  · rintro ⟨message, h⟩
    split at h
    · next e he => exact .unreadable e he
    · cases h
    · next o ho =>
      split at h
      · next e he =>
        rcases Settings.ofOptions_error_iff.mp ⟨e, he⟩ with hfile | hclass | hgeneric
        · exact .nameless o ho (.inl hfile)
        · exact .nameless o ho (.inr hclass)
        · exact .generic o ho hgeneric
      · cases h

/-- The dump can be read, and holds no class of the name that is asked for. -/
def ClassMissing (s : Files.FileStore) (words : List String) : Prop :=
  ∃ settings bytes tree, requestOf words = .generate settings ∧ s.read settings.symbolsFile = .ok bytes ∧
    Tree.load bytes = .ok tree ∧ tree.namedClasses settings.className = []

/-- The run gets as far as a module. -/
def Emits (s : Files.FileStore) (words : List String) : Prop :=
  ∃ settings bytes package, requestOf words = .generate settings ∧ s.read settings.symbolsFile = .ok bytes ∧
    (moduleFrom settings bytes).result = .ok package

section Faults

theorem isExpected_of_cause {c : Target} {method : Nat} {fault : Fault} (h : c.Cause method fault) :
    isExpected fault = false := by
  rcases h with ⟨_, _, hconstant | _ | _⟩ | _
  · next h => cases h <;> rfl
  all_goals rfl

theorem isExpected_of_package {settings : Settings} {handlers : Keyed String Handler} {tree : Tree} {fault : Fault}
    (h : (settings.package handlers tree).result = .error fault) :
    isExpected fault = true ↔ tree.namedClasses settings.className = [] := by
  have hfound {place : Nat} (hplace : tree.findClass settings.className = .ok place) :
      tree.namedClasses settings.className ≠ [] := by
    intro hnone
    rw [Tree.findClass_of_empty hnone] at hplace
    cases hplace
  cases Settings.stop_of_package h with
  | notFound hnone => exact iff_of_true rfl hnone
  | method hplace hcause => simp [isExpected_of_cause hcause, hfound hplace]
  | tooLong hplace => simp [isExpected, hfound hplace]

theorem isExpected_of_load {bytes : List UInt8} {fault : Fault} (h : Tree.load bytes = .error fault) :
    isExpected fault = false := by
  rw [Tree.load, Tree.parseChars, Except.map_eq_error_iff] at h
  rcases mapM_read_cases (Text.lines (Text.plainNewlines (Text.decodeUtf8 bytes))) with ⟨-, read, hread⟩ |
      ⟨-, digits, -, hlong⟩
  · rw [h] at hread
    cases hread
  · obtain rfl := Except.error.inj (h.symm.trans hlong)
    rfl

theorem moduleFrom_of_load {settings : Settings} {bytes : List UInt8} {tree : Tree} (h : Tree.load bytes = .ok tree) :
    moduleFrom settings bytes = settings.package [] tree := by
  rw [moduleFrom, h]
  rfl

theorem moduleFrom_expected_iff (settings : Settings) (bytes : List UInt8) :
    (∃ fault, (moduleFrom settings bytes).result = .error fault ∧ isExpected fault = true) ↔
      ∃ tree, Tree.load bytes = .ok tree ∧ tree.namedClasses settings.className = [] := by
  cases hload : Tree.load bytes with
  | error fault =>
    have hresult : (moduleFrom settings bytes).result = .error fault := by
      rw [moduleFrom, hload]
      rfl
    simp [hresult, isExpected_of_load hload]
  | ok tree =>
    rw [moduleFrom_of_load hload]
    constructor
    · rintro ⟨fault, hfault, hexpected⟩
      exact ⟨tree, rfl, (isExpected_of_package hfault).mp hexpected⟩
    · rintro ⟨_, ⟨rfl⟩, hnone⟩
      refine ⟨.classNotFound settings.className, ?_, rfl⟩
      rw [Settings.package_of_notFound (Tree.findClass_of_empty hnone)]

end Faults

section Generate

variable {settings : Settings} {bytes : List UInt8} (hread : s.read settings.symbolsFile = .ok bytes)
include hread

theorem generate_of_package {package : Package} (h : (moduleFrom settings bytes).result = .ok package) :
    generate s settings = deliver s settings (greeting settings :: (moduleFrom settings bytes).lines) package := by
  simp only [generate, hread, h]

theorem generate_of_fault {fault : Fault} (h : (moduleFrom settings bytes).result = .error fault) :
    (generate s settings).store = s ∧
      (generate s settings).code = if isExpected fault then .ok 1 else .error (.ofFault fault) := by
  simp only [generate, hread, h]
  split_ifs
  · exact ⟨rfl, rfl⟩
  · exact ⟨rfl, rfl⟩

end Generate

theorem generate_of_unread {settings : Settings} {fault : Files.FileFault}
    (h : s.read settings.symbolsFile = .error fault) :
    (generate s settings).store = s ∧ (generate s settings).code = .error (.ofFile fault) := by
  simp only [generate, h, and_self]

theorem deliver_code_ne_one (settings : Settings) (said : List String) (package : Package) :
    (deliver s settings said package).code ≠ .ok 1 := by
  rw [deliver]
  split_ifs
  · split <;> simp
  · simp

theorem generate_code_eq_one_iff {settings : Settings} : (generate s settings).code = .ok 1 ↔
    ∃ bytes tree, s.read settings.symbolsFile = .ok bytes ∧ Tree.load bytes = .ok tree ∧
      tree.namedClasses settings.className = [] := by
  cases hread : s.read settings.symbolsFile with
  | error fault => simp [(generate_of_unread hread).2]
  | ok bytes =>
    have hexpected := moduleFrom_expected_iff settings bytes
    cases hresult : (moduleFrom settings bytes).result with
    | ok package =>
      rw [generate_of_package hread hresult]
      simpa [hresult, deliver_code_ne_one] using hexpected
    | error fault =>
      rw [(generate_of_fault hread hresult).2]
      simpa [hresult, apply_ite] using hexpected

theorem store_generate {settings : Settings} (h : ∀ bytes package, s.read settings.symbolsFile = .ok bytes →
    (moduleFrom settings bytes).result = .ok package → settings.createFiles = false) :
    (generate s settings).store = s := by
  cases hread : s.read settings.symbolsFile with
  | error fault => exact (generate_of_unread hread).1
  | ok bytes =>
    cases hresult : (moduleFrom settings bytes).result with
    | ok package =>
      rw [generate_of_package hread hresult, deliver, h bytes package hread hresult]
      rfl
    | error fault => exact (generate_of_fault hread hresult).1

theorem run_explain {message : String} (h : requestOf words = .explain message) (s : Files.FileStore) :
    run program s words = { code := .ok 1, output := [], errors := [message, usageLine], store := s } := by
  rw [run, h]

theorem run_help (h : requestOf words = .help) :
    run program s words = { code := .ok 0, output := [helpText program], store := s } := by
  rw [run, h]

theorem run_generate {settings : Settings} (h : requestOf words = .generate settings) :
    run program s words = generate s settings := by
  rw [run, h]

theorem requestOf_help (h : readArguments words = .ok .help) : requestOf words = .help := by
  rw [requestOf, h]

theorem createFiles_of_generate {settings : Settings} {o : Options} (h : requestOf words = .generate settings)
    (ho : readArguments words = .ok (.options o)) : settings.createFiles = !o.withoutFiles := by
  simp only [requestOf, ho] at h
  split at h
  · cases h
  · next settings' hsettings =>
    obtain rfl := Request.generate.inj h
    rw [Settings.ofOptions] at hsettings
    split at hsettings
    · simp only at hsettings
      split_ifs at hsettings
      rw [← Except.ok.inj hsettings]
    · cases hsettings

theorem code_eq_one_iff : (run program s words).code = .ok 1 ↔ Misused words ∨ ClassMissing s words := by
  cases hrequest : requestOf words with
  | explain message =>
    rw [run_explain hrequest]
    exact iff_of_true rfl (.inl (misused_iff.mpr ⟨message, hrequest⟩))
  | help => simp [run_help hrequest, misused_iff, ClassMissing, hrequest]
  | generate settings =>
    rw [run_generate hrequest, generate_code_eq_one_iff, misused_iff]
    simp [ClassMissing, hrequest]

theorem store_run (h : ∀ settings bytes package, requestOf words = .generate settings →
    s.read settings.symbolsFile = .ok bytes → (moduleFrom settings bytes).result = .ok package →
      settings.createFiles = false) : (run program s words).store = s := by
  cases hrequest : requestOf words with
  | explain message => rw [run_explain hrequest]
  | help => rw [run_help hrequest]
  | generate settings =>
    rw [run_generate hrequest]
    exact store_generate fun bytes package hread hresult => h settings bytes package hrequest hread hresult

theorem store_of_not_emits (h : ¬ Emits s words) : (run program s words).store = s := by
  apply store_run
  intro settings bytes package hrequest hread hresult
  exact absurd ⟨settings, bytes, package, hrequest, hread, hresult⟩ h

theorem store_withoutFiles {o : Options} (ho : readArguments words = .ok (.options o)) (h : o.withoutFiles = true) :
    (run program s words).store = s := by
  apply store_run
  intro settings _ _ hrequest _ _
  rw [createFiles_of_generate hrequest ho, h]
  rfl

theorem not_emits_of_code (h : (run program s words).code = .ok 1) : ¬ Emits s words := by
  rintro ⟨settings, bytes, package, hrequest, hread, hresult⟩
  rw [run_generate hrequest, generate_of_package hread hresult] at h
  exact deliver_code_ne_one settings _ package h

/-- Which runs end with code 1, and which leave the store as it is. -/
structure Careful (program : String) (s : Files.FileStore) (words : List String) : Prop where
  refused : (run program s words).code = .ok 1 ↔ Misused words ∨ ClassMissing s words
  unchanged : (run program s words).code = .ok 1 → (run program s words).store = s
  helped : readArguments words = .ok .help →
    (run program s words).code = .ok 0 ∧ (run program s words).store = s
  broken : ¬ Emits s words → (run program s words).store = s
  withoutFiles : ∀ o, readArguments words = .ok (.options o) → o.withoutFiles = true →
    (run program s words).store = s
  unopened : Misused words → ∀ t, run program t words = { run program s words with store := t }

theorem run_careful (program : String) (s : Files.FileStore) (words : List String) : Careful program s words where
  refused := code_eq_one_iff
  unchanged h := store_of_not_emits (not_emits_of_code h)
  helped h := by
    rw [run_help (requestOf_help h)]
    exact ⟨rfl, rfl⟩
  broken := store_of_not_emits
  withoutFiles _ ho h := store_withoutFiles ho h
  unopened h t := by
    obtain ⟨message, hmessage⟩ := misused_iff.mp h
    rw [run_explain hmessage, run_explain hmessage]

end Command

end ScriptBinding
