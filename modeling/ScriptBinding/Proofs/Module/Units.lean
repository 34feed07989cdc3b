import ScriptBinding.Proofs.Dump.Units
import ScriptBinding.Proofs.Methods.Choice
import ScriptBinding.Proofs.Module.Renaming

/-!
The module of a dump of two units. Wherever the units stand, the same nodes are found under the same offsets,
and if the class has one largest entry, that one is chosen.
-/

namespace ScriptBinding

open Dump Text

namespace Dump.Tree

variable {t u : Tree} {name : String}

theorem namedClasses_beside (t u : Tree) (name : String) :
    (t.beside u).namedClasses name = t.namedClasses name ++ (u.namedClasses name).map (t.size + ·) := by
  have hright (i : Nat) : decide ((t.beside u).name? (t.size + i) = some name) = decide (u.name? i = some name) := by
    rw [name?_beside_right]
  rw [namedClasses, tagged_beside, List.filter_append,
    filter_map_of_comp (p := fun i => decide ((t.beside u).name? i = some name)) hright]
  apply congrArg (· ++ _)
  apply List.filter_congr
  intro i hi
  rw [name?_beside_left u (mem_places.mp (List.mem_of_mem_filter hi))]

theorem classSizes_beside (ht : t.Sealed) (hu : u.Sealed) (name : String) :
    (t.beside u).classSizes name = t.classSizes name ++ u.classSizes name := by
  rw [classSizes, namedClasses_beside, List.map_append, List.map_map]
  apply congrArg₂
  · apply List.map_congr_left
    intro i hi
    have hplace := List.mem_of_mem_filter (List.mem_of_mem_filter hi)
    rw [ht.children_beside_left hu (mem_places.mp hplace)]
  · apply List.map_congr_left
    intro i _
    rw [Function.comp_apply, ht.children_beside_right hu, List.length_map]

end Dump.Tree

/-- The module of a dump. -/
def Settings.packageOf (s : Settings) (handlers : Keyed String Handler) (text : String) : Report Package := do
  let tree ← Report.ofResult (Tree.parse text)
  s.package handlers tree

namespace Settings

variable (s : Settings) (handlers : Keyed String Handler)

theorem packageOf_of_ok {text : String} {t : Tree} (h : Tree.parse text = .ok t) :
    s.packageOf handlers text = s.package handlers t := by
  rw [packageOf, h]
  rfl

theorem packageOf_of_error {text : String} {fault : Fault} (h : Tree.parse text = .error fault) :
    s.packageOf handlers text = ⟨[], .error fault⟩ := by
  rw [packageOf, h]
  rfl

theorem package_beside {t u : Tree} (ht : t.Sealed) (hu : u.Sealed) (hapart : t.Apart u)
    (hone : Tree.OneLargest (t.classSizes s.className ++ u.classSizes s.className)) :
    s.package handlers (u.beside t) = s.package handlers (t.beside u) := by
  have hrenamed := Tree.renamed_beside ht hu hapart
  apply hrenamed.package
  apply hrenamed.findClass
  rw [Tree.classSizes_beside ht hu]
  exact hone

/-- The order of two units does not matter, except for which of two dumps is refused first. -/
theorem package_units (a b : String) (ha : OpensUnit a) (hb : OpensUnit b)
    (h : ∀ t u, Tree.parse a = .ok t → Tree.parse b = .ok u →
      t.Apart u ∧ Tree.OneLargest (t.classSizes s.className ++ u.classSizes s.className)) :
    s.packageOf handlers (a ++ "\n" ++ b) = s.packageOf handlers (b ++ "\n" ++ a) ∨
      ∃ m n, maxDigits < m ∧ maxDigits < n ∧
        Tree.parse a = .error (.longNumeral m) ∧ Tree.parse b = .error (.longNumeral n) ∧
        s.packageOf handlers (a ++ "\n" ++ b) = ⟨[], .error (.longNumeral m)⟩ ∧
        s.packageOf handlers (b ++ "\n" ++ a) = ⟨[], .error (.longNumeral n)⟩ := by
  rcases parse_cases a with ⟨-, t, ht⟩ | ⟨-, m, hm, ht⟩ <;>
    rcases parse_cases b with ⟨-, u, hu⟩ | ⟨-, n, hn, hu⟩
  · left
    obtain ⟨hapart, hone⟩ := h t u ht hu
    rw [packageOf_of_ok s handlers (parse_append ht hb hu), packageOf_of_ok s handlers (parse_append hu ha ht)]
    exact (package_beside s handlers (sealed_of_parse ht) (sealed_of_parse hu) hapart hone).symm
  · left
    rw [packageOf_of_error s handlers (parse_append_error ht hu), packageOf_of_error s handlers (parse_append_of_error hu)]
  · left
    rw [packageOf_of_error s handlers (parse_append_of_error ht), packageOf_of_error s handlers (parse_append_error hu ht)]
  · right
    exact ⟨m, n, hm, hn, ht, hu, packageOf_of_error s handlers (parse_append_of_error ht),
      packageOf_of_error s handlers (parse_append_of_error hu)⟩

end Settings

/-- A type, and a class that is only declared. -/
def declaringLines : List (List Char) := [
  "<0><5>: Abbrev Number: 1 (DW_TAG_base_type)".toList,
  "<6> DW_AT_name:int".toList,
  "<0><8>: Abbrev Number: 2 (DW_TAG_class_type)".toList,
  "<9> DW_AT_name:Lamp".toList]

/-- The class itself, with a reference to the type in the other unit. -/
def definingLines : List (List Char) := [
  "<0><b>: Abbrev Number: 2 (DW_TAG_class_type)".toList,
  "<c> DW_AT_name:Lamp".toList,
  "<1><10>: Abbrev Number: 3 (DW_TAG_subprogram)".toList,
  "<11> DW_AT_name:dim".toList,
  "<12> DW_AT_accessibility:1 (public)".toList,
  "<2><13>: Abbrev Number: 4 (DW_TAG_formal_parameter)".toList,
  "<14> DW_AT_type:<0x5>".toList]

def declaringText : String := .ofList (['\n'].intercalate declaringLines)

def definingText : String := .ofList (['\n'].intercalate definingLines)

def declaringTree : Tree := .ofEntries [
  ⟨"base_type", 0x5, 0, [("name", "int")]⟩,
  ⟨"class_type", 0x8, 0, [("name", "Lamp")]⟩]

def definingTree : Tree := .ofEntries [
  ⟨"class_type", 0xb, 0, [("name", "Lamp")]⟩,
  ⟨"subprogram", 0x10, 1, [("name", "dim"), ("accessibility", "1 (public)")]⟩,
  ⟨"formal_parameter", 0x13, 2, [("type", "<0x5>")]⟩]

def unitSettings : Settings := ⟨"lamp.txt", "Lamp", "Lamp", "lamp", "#include \"lamp.h\"", true, "output"⟩

theorem Settings.package_units_lamp :
    OpensUnit declaringText ∧ OpensUnit definingText ∧
      Tree.parse declaringText = .ok declaringTree ∧ Tree.parse definingText = .ok definingTree ∧
      declaringTree.Apart definingTree ∧
      Tree.OneLargest (declaringTree.classSizes "Lamp" ++ definingTree.classSizes "Lamp") ∧
      (unitSettings.packageOf [] (declaringText ++ "\n" ++ definingText)).lines =
        ["  >> warning: Lamp has no public constructor that can be wrapped"] ∧
      unitSettings.packageOf [] (declaringText ++ "\n" ++ definingText) =
        unitSettings.packageOf [] (definingText ++ "\n" ++ declaringText) := by
  have hdeclaringLines : ∀ l ∈ declaringLines, Unbroken l := by
    rw [declaringLines]
    repeat rw [String.toList_ofList]
    decide +kernel
  have hdefiningLines : ∀ l ∈ definingLines, Unbroken l := by
    rw [definingLines]
    repeat rw [String.toList_ofList]
    decide +kernel
  have hdeclaring : Tree.parse declaringText = .ok declaringTree := by
    rw [declaringText, parse_intercalate hdeclaringLines, declaringLines]
    repeat rw [String.toList_ofList]
    decide +kernel
  have hdefining : Tree.parse definingText = .ok definingTree := by
    rw [definingText, parse_intercalate hdefiningLines, definingLines]
    repeat rw [String.toList_ofList]
    decide +kernel
  have hopen : OpensUnit declaringText := by
    have hread : Line.read "<0><5>: Abbrev Number: 1 (DW_TAG_base_type)".toList =
        .ok (.entry 0 0x5 (some "base_type")) := by decide +kernel
    exact opensUnit_intercalate hdeclaringLines (by decide +kernel) hread ⟨rfl, rfl⟩
  have hopen' : OpensUnit definingText := by
    have hread : Line.read "<0><b>: Abbrev Number: 2 (DW_TAG_class_type)".toList =
        .ok (.entry 0 0xb (some "class_type")) := by decide +kernel
    exact opensUnit_intercalate hdefiningLines (by decide +kernel) hread ⟨rfl, rfl⟩
  have hapart : declaringTree.Apart definingTree := by
    unfold Tree.Apart
    decide +kernel
  have hone : Tree.OneLargest (declaringTree.classSizes "Lamp" ++ definingTree.classSizes "Lamp") := by
    decide +kernel
  refine ⟨hopen, hopen', hdeclaring, hdefining, hapart, hone, ?_, ?_⟩
  · rw [Settings.packageOf_of_ok _ _ (parse_append hdeclaring hopen' hdefining)]
    decide +kernel
  · rcases Settings.package_units unitSettings [] declaringText definingText hopen hopen' (by
      intro t u ht hu
      obtain rfl := Except.ok.inj (hdeclaring.symm.trans ht)
      obtain rfl := Except.ok.inj (hdefining.symm.trans hu)
      exact ⟨hapart, hone⟩) with hsame | ⟨m, n, -, -, ht, -⟩
    · exact hsame
    · rw [hdeclaring] at ht
      cases ht

/-- A unit of two entries, the second with a depth of many digits. -/
def longDepthLines (first second : Char) (digits : Nat) : List (List Char) := [
  headingText ['0'] [first] ['1'] (some "x"),
  headingText (List.replicate digits '0') [second] ['1'] (some "x")]

def longDepthText (first second : Char) (digits : Nat) : String :=
  .ofList (['\n'].intercalate (longDepthLines first second digits))

theorem refused_longDepthText {first second : Char} {digits : Nat} (hfirst : isHexDigit first = true)
    (hsecond : isHexDigit second = true) (hlong : maxDigits < digits) :
    OpensUnit (longDepthText first second digits) ∧
      Tree.parse (longDepthText first second digits) = .error (.longNumeral digits) := by
  have hzero : ∀ c ∈ ['0'], isDecimal c = true := List.all_eq_true.mp (by decide +kernel)
  have hone : ∀ c ∈ ['1'], isDecimal c = true := List.all_eq_true.mp (by decide +kernel)
  have hzeros : ∀ c ∈ List.replicate digits '0', isDecimal c = true := by
    intro c hc
    rw [List.eq_of_mem_replicate hc]
    exact hzero '0' (List.mem_singleton_self _)
  have hhex : ∀ c ∈ [first], isHexDigit c = true := by simpa using hfirst
  have hhex' : ∀ c ∈ [second], isHexDigit c = true := by simpa using hsecond
  have hword : ∀ s ∈ some "x", IsWordText s := by
    rintro _ ⟨rfl⟩
    decide +kernel
  have hdepth : readDecimal ['0'] = .ok (0 : Nat) := by decide +kernel
  have hread : Line.read (headingText ['0'] [first] ['1'] (some "x")) =
      .ok (.entry 0 (hexValue [first]) (some "x")) :=
    read_heading (readHeading?_headingText (by simp) hzero (by simp) hhex (by simp) hone hword) hdepth
  have hrefused := read_longHeading hzeros (by rwa [List.length_replicate]) (by simp) hhex' (by simp) hone hword
  have hunbroken : ∀ l ∈ longDepthLines first second digits, Unbroken l := by
    rw [longDepthLines, List.forall_mem_cons, List.forall_mem_singleton]
    exact ⟨unbroken_headingText hzero hhex hone hword, unbroken_headingText hzeros hhex' hone hword⟩
  constructor
  · apply opensUnit_intercalate hunbroken _ hread ⟨rfl, rfl⟩
    simp [headingText]
  · rw [longDepthText, parse_intercalate hunbroken, longDepthLines, List.mapM_cons, List.mapM_cons, hread, hrefused,
      List.length_replicate]
    rfl

theorem Settings.package_units_longDepth :
    OpensUnit (longDepthText '1' '2' 4301) ∧ OpensUnit (longDepthText '3' '4' 4302) ∧
      (unitSettings.packageOf [] (longDepthText '1' '2' 4301 ++ "\n" ++ longDepthText '3' '4' 4302)).result =
        .error (.longNumeral 4301) ∧
      (unitSettings.packageOf [] (longDepthText '3' '4' 4302 ++ "\n" ++ longDepthText '1' '2' 4301)).result =
        .error (.longNumeral 4302) ∧
      (Fault.longNumeral 4301).message ≠ (Fault.longNumeral 4302).message := by
  have hlimit : maxDigits = 4300 := rfl
  obtain ⟨ha, hparse⟩ : OpensUnit (longDepthText '1' '2' 4301) ∧ _ :=
    refused_longDepthText (by decide) (by decide) (by omega)
  obtain ⟨hb, hparse'⟩ : OpensUnit (longDepthText '3' '4' 4302) ∧ _ :=
    refused_longDepthText (by decide) (by decide) (by omega)
  refine ⟨ha, hb, ?_, ?_, by decide +kernel⟩
  · rw [Settings.packageOf_of_error _ _ (parse_append_of_error hparse)]
  · rw [Settings.packageOf_of_error _ _ (parse_append_of_error hparse')]

end ScriptBinding
