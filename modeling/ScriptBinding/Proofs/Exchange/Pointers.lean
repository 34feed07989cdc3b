import ScriptBinding.Methods.Target
import ScriptBinding.Proofs.Exchange.Cycles

/-!
How a pointer to characters is spelled. The spelling tells whether an alias behind the pointer is a constant, but not
which of the character types there is.
-/

namespace ScriptBinding

open Code Dump

namespace TypeTable

variable {t : TypeTable} {i : Nat} {reference : Option Nat} {type : NativeType}

/-- What stands before the name of a type behind these aliases. -/
def qualifierOf (t : Tree) (path : List Nat) : String := if path.any (t.hasTag "const_type") then "const " else ""

/-- A pointer is described as such, or the category is the name of its handler. -/
theorem link_of_pointer (hi : t.find reference = some i) (htag : t.tree.hasTag "pointer_type" i = true) :
    (∃ name, t.tree.qualifiedName? i = some name ∧ t.hasHandler name = true ∧
        t.link reference = .ends (.ok ⟨some name, .ofWord name, none⟩)) ∨
      t.link reference = .ends (t.pointer i) := by
  obtain ⟨offset, rfl, hlookup⟩ := Option.bind_eq_some_iff.mp hi
  have hk : t.kind i = .pointer := kind_of_hasTag htag
  simp only [link, hlookup, linkOf, hk]
  cases hname : (t.tree.qualifiedName? i).filter t.hasHandler with
  | none => exact .inr rfl
  | some name =>
    obtain ⟨hqualified, hhandler⟩ := Option.filter_eq_some_iff.mp hname
    exact .inl ⟨name, hqualified, hhandler, rfl⟩

theorem exists_passes_of_pointer (h : t.pointer i = .ok type) (hstring : type.category = .string) :
    ∃ path last j name, t.tree.Passes t.tree.pastAlias (t.tree.typeReference? i) path last ∧
      last.bind t.tree.lookup = some j ∧ t.tree.hasTag "base_type" j = true ∧ t.tree.name? j = some name ∧
      name ∈ charTypes ∧ type = ⟨some (qualifierOf t.tree path ++ "char*"), .string, none⟩ := by
  obtain ⟨found, hfound, rfl⟩ := Except.map_eq_ok_iff.mp h
  obtain ⟨path, last, hpasses, rfl⟩ := exists_passes_of_pointee hfound
  dsimp only at hstring ⊢
  split at hstring
  · next htext =>
    obtain ⟨j, hj, hchars⟩ := (Option.any_eq_true _ _).mp htext
    rw [Bool.and_eq_true, decide_eq_true_eq] at hchars
    obtain ⟨name, hname, hchar⟩ := (Option.any_eq_true _ _).mp hchars.2
    refine ⟨path, last, j, name, hpasses, hj, hasTag_of_tag? (by rw [hchars.1]; rfl), hname,
      List.contains_iff_mem.mp hchar, ?_⟩
    rw [if_pos htext, qualifierOf]
    cases path.any (t.tree.hasTag "const_type") <;> rfl
  · cases hstring

theorem toScript_text (hstring : type.category = .string) (name : String) :
    ∃ value, t.toScript type name = .ok value := by
  rw [toScript]
  cases t.handlerOf? type with
  | some handler => exact ⟨_, rfl⟩
  | none => exact ⟨_, by rw [hstring]⟩

theorem callAndResult_text {c : Target} {m : Method} (hstring : m.result.category = .string)
    (hreceiver : m.receiver ≠ .newObject) :
    ∃ line, c.callAndResult m = .ok (m.result.text ++ " result = " ++ c.call m, line) := by
  obtain ⟨value, hvalue⟩ := c.types.toScript_text hstring "result"
  rw [Target.callAndResult, hstring, hvalue]
  cases hr : m.receiver with
  | newObject => exact absurd hr hreceiver
  | noObject | thisObject => exact ⟨_, rfl⟩

theorem spelling_eq_iff (qualifier name : String) :
    qualifier ++ "char*" = qualifier ++ name ++ "*" ↔ name = "char" := by
  have hsplit : "char*".toList = "char".toList ++ "*".toList := by decide
  rw [← String.toList_inj, ← String.toList_inj, String.toList_append, String.toList_append, String.toList_append,
    List.append_assoc, List.append_cancel_left_eq, hsplit, List.append_cancel_right_eq, eq_comm]

theorem text_infix_signature {name : Option String} {parameters : List NativeType} {signature : String}
    (h : signatureOf name parameters = .ok signature) (hmem : type ∈ parameters) :
    type.text.toList <:+: signature.toList := by
  obtain ⟨spellings, hspellings, rfl⟩ := Except.map_eq_ok_iff.mp h
  rw [joinSpellings] at hspellings
  split at hspellings
  · cases hspellings
  · obtain rfl := Except.ok.inj hspellings
    obtain ⟨k, hk⟩ := List.mem_iff_getElem?.mp (List.mem_map_of_mem (f := fun p => p.text.toList) hmem)
    have hlisted : type.text.toList ∈ (parameters.map fun p => p.text.toList).intersperse ", ".toList := by
      rw [← List.getElem?_intersperse_two_mul] at hk
      exact List.mem_of_getElem? hk
    have hinfix : type.text.toList <:+: (String.intercalate ", " (parameters.map (·.text))).toList := by
      rw [String.toList_intercalate, List.map_map]
      exact List.infix_of_mem_flatten hlisted
    rw [String.toList_append, String.toList_append]
    exact List.infix_append_of_infix_left (List.infix_append_of_infix_right hinfix)

/-- A pointer to characters is spelled like one to `char`, also where its result is declared and in signatures, which
is the native spelling for no other of the character types. With a handler of that name `string` is a category too. -/
theorem spelling_of_pointer (hi : t.find reference = some i) (htag : t.tree.hasTag "pointer_type" i = true)
    (h : t.describe reference = .ok type) (hstring : type.category = .string) :
    (t.tree.qualifiedName? i = some "string" ∧ t.hasHandler "string" = true ∧ type.spelling = some "string") ∨
      ∃ path last j name, t.tree.Passes t.tree.pastAlias (t.tree.typeReference? i) path last ∧
        last.bind t.tree.lookup = some j ∧ t.tree.hasTag "base_type" j = true ∧ t.tree.name? j = some name ∧
        name ∈ charTypes ∧ type.spelling = some (qualifierOf t.tree path ++ "char*") ∧
        (type.spelling = some (qualifierOf t.tree path ++ name ++ "*") ↔ name = "char") ∧
        (∀ (c : Target) (m : Method), m.result = type → m.receiver ≠ .newObject →
          ∃ line, c.callAndResult m =
            .ok (qualifierOf t.tree path ++ "char*" ++ " result = " ++ c.call m, line)) ∧
        ∀ (callable : Option String) (parameters : List NativeType) (signature : String), type ∈ parameters →
          signatureOf callable parameters = .ok signature →
          (qualifierOf t.tree path ++ "char*").toList <:+: signature.toList := by
  rcases link_of_pointer hi htag with ⟨name, hname, hhandler, hlink⟩ | hlink
  · left
    rw [describe, describeWithin_of_ends hlink] at h
    obtain rfl := Except.ok.inj h
    have hword : name = "string" := by
      rw [← Category.word_ofWord name]
      exact congrArg Category.word hstring
    rw [hword] at hname hhandler ⊢
    exact ⟨hname, hhandler, rfl⟩
  · right
    rw [describe, describeWithin_of_ends hlink] at h
    obtain ⟨path, last, j, name, hpasses, hj, hbase, hname, hchar, htype⟩ := exists_passes_of_pointer h hstring
    have hspelling : type.spelling = some (qualifierOf t.tree path ++ "char*") := by rw [htype]
    have htext : type.text = qualifierOf t.tree path ++ "char*" := by
      rw [NativeType.text, hspelling]
      rfl
    refine ⟨path, last, j, name, hpasses, hj, hbase, hname, hchar, hspelling, ?_, ?_, ?_⟩
    · rw [hspelling, Option.some.injEq, spelling_eq_iff]
    · rintro c m rfl hreceiver
      rw [← htext]
      exact callAndResult_text hstring hreceiver
    · intro callable parameters signature hmem hsignature
      rw [← htext]
      exact text_infix_signature hsignature hmem

/-- A pointer to constant characters that have a name of their own, and one to `unsigned char`. -/
def bytesLines : List (List Char) := [
  " <0><10>: Abbrev Number: 1 (DW_TAG_pointer_type)".toList,
  " <11> DW_AT_type:<0x20>".toList,
  " <0><20>: Abbrev Number: 2 (DW_TAG_typedef)".toList,
  " <21> DW_AT_name:text".toList,
  " <22> DW_AT_type:<0x30>".toList,
  " <0><30>: Abbrev Number: 3 (DW_TAG_const_type)".toList,
  " <31> DW_AT_type:<0x40>".toList,
  " <0><40>: Abbrev Number: 4 (DW_TAG_base_type)".toList,
  " <41> DW_AT_name:char".toList,
  " <0><50>: Abbrev Number: 1 (DW_TAG_pointer_type)".toList,
  " <51> DW_AT_type:<0x60>".toList,
  " <0><60>: Abbrev Number: 4 (DW_TAG_base_type)".toList,
  " <61> DW_AT_name:unsigned char".toList]

def bytesTree : Tree := .ofEntries [
  ⟨"pointer_type", 0x10, 0, [("type", "<0x20>")]⟩,
  ⟨"typedef", 0x20, 0, [("name", "text"), ("type", "<0x30>")]⟩,
  ⟨"const_type", 0x30, 0, [("type", "<0x40>")]⟩,
  ⟨"base_type", 0x40, 0, [("name", "char")]⟩,
  ⟨"pointer_type", 0x50, 0, [("type", "<0x60>")]⟩,
  ⟨"base_type", 0x60, 0, [("name", "unsigned char")]⟩]

def bytesTable : TypeTable := ⟨bytesTree, []⟩

theorem spelling_of_pointer_text :
    bytesTable.find (some 0x10) = some 0 ∧ bytesTree.hasTag "pointer_type" 0 = true ∧
      bytesTable.describe (some 0x10) = .ok ⟨some "const char*", .string, none⟩ ∧
      ∃ path last j name, bytesTree.Passes bytesTree.pastAlias (bytesTree.typeReference? 0) path last ∧
        last.bind bytesTree.lookup = some j ∧ bytesTree.hasTag "base_type" j = true ∧ bytesTree.name? j = some name ∧
        some "const char*" = some (qualifierOf bytesTree path ++ "char*") := by
  have hi : bytesTable.find (some 0x10) = some 0 := by decide +kernel
  have htag : bytesTree.hasTag "pointer_type" 0 = true := by decide +kernel
  have h : bytesTable.describe (some 0x10) = .ok ⟨some "const char*", .string, none⟩ := by decide +kernel
  refine ⟨hi, htag, h, ?_⟩
  rcases spelling_of_pointer hi htag h rfl with
    ⟨-, hhandler, -⟩ | ⟨path, last, j, name, hpasses, hj, hbase, hname, -, hspelling, -⟩
  · cases hhandler
  · exact ⟨path, last, j, name, hpasses, hj, hbase, hname, hspelling⟩

/-- The native type would be spelled otherwise. -/
theorem spelling_of_pointer_bytes :
    Tree.parse (String.ofList (['\n'].intercalate bytesLines)) = .ok bytesTree ∧
      bytesTree.hasTag "pointer_type" 4 = true ∧
      bytesTree.Passes bytesTree.pastAlias (bytesTree.typeReference? 4) [] (some 0x60) ∧
      bytesTree.lookup 0x60 = some 5 ∧ bytesTree.hasTag "base_type" 5 = true ∧
      bytesTree.name? 5 = some "unsigned char" ∧
      bytesTable.describe (some 0x50) = .ok ⟨some "char*", .string, none⟩ ∧
      some "char*" ≠ some (qualifierOf bytesTree [] ++ "unsigned char" ++ "*") := by
  refine ⟨?_, by decide +kernel, .here _, by decide +kernel, by decide +kernel, by decide +kernel, by decide +kernel,
    by decide +kernel⟩
  rw [Tree.parse, String.toList_ofList, bytesLines]
  repeat rw [String.toList_ofList]
  decide +kernel

end TypeTable

end ScriptBinding
