import Mathlib.Tactic.SplitIfs
import ScriptBinding.Exchange.Conversion
import ScriptBinding.Proofs.Exchange.Chains

/-!
Which types a handler is called for. A handler is found by the name of an entry when a type is described,
but by the word of the category when it is converted, so a handler named like a category takes over all
types of that category.
-/

namespace ScriptBinding

open Dump

namespace Category

/-- The words that name a category of their own. -/
def words : List String := [void, bool, int, float, string, enum, unsupported].map word

theorem eq_custom_of_word {c : Category} {name : String} (h : c.word = name) (hname : name ∉ words) :
    c = .custom name := by
  cases c with
  | custom other => exact congrArg _ h
  | void | bool | int | float | string | enum | unsupported =>
    subst h
    exact absurd (by decide) hname

theorem ofWord_eq_custom {word name : String} (h : ofWord word = .custom name) : word = name := by
  have hword := congrArg Category.word h
  rwa [word_ofWord] at hword

end Category

namespace TypeTable

variable (t : TypeTable)

/-- The table with a handler registered for a name. -/
def register (name : String) (handler : Handler) : TypeTable :=
  { t with handlers := t.handlers.put name handler }

/-- Two tables give the same code for every argument and every variable of a type. -/
def SameCode (t u : TypeTable) (type : NativeType) : Prop := ∀ (position : Int) (variableName : String),
  u.check type position = t.check type position ∧
    u.readArgument type position variableName = t.readArgument type position variableName ∧
    u.toScript type variableName = t.toScript type variableName

theorem sameCode_of_handlerOf? {t u : TypeTable} {type : NativeType}
    (h : u.handlerOf? type = t.handlerOf? type) : t.SameCode u type := by
  intro position variableName
  unfold check readArgument toScript
  rw [h]
  exact ⟨rfl, rfl, rfl⟩

variable {t} {name : String} {handler : Handler}

theorem handlerOf?_register (type : NativeType) : (t.register name handler).handlerOf? type =
    if type.category.word = name then some handler else t.handlerOf? type := by
  unfold handlerOf? register
  rw [Keyed.get?_put]
  by_cases h : type.category.word = name <;> simp [h]

theorem hasHandler_register {other : String} (h : other ≠ name) :
    (t.register name handler).hasHandler other = t.hasHandler other := by
  unfold hasHandler register Keyed.has
  rw [Keyed.get?_put, if_neg (by simpa using h)]

theorem sameCode_register {type : NativeType} (h : type.category.word ≠ name) :
    t.SameCode (t.register name handler) type := by
  apply sameCode_of_handlerOf?
  rw [handlerOf?_register, if_neg h]

theorem handled_register {type : NativeType} (h : type.category.word = name) (position : Int)
    (variableName : String) :
    (t.register name handler).check type position = handler.check ⟨position, "", type⟩ ∧
      (t.register name handler).readArgument type position variableName =
        .ok (Code.Fragment.ofText (handler.toNative ⟨position, variableName, type⟩)) ∧
      (t.register name handler).toScript type variableName =
        .ok (handler.toScript ⟨0, variableName, type⟩) := by
  have hfound : (t.register name handler).handlerOf? type = some handler := by
    rw [handlerOf?_register, if_pos h]
  unfold check readArgument toScript
  rw [hfound]
  exact ⟨rfl, rfl, rfl⟩

theorem category_fundamental (spelling : Option String) :
    (fundamental spelling).category ∈ [Category.bool, .int, .float, .unsupported] := by
  cases spelling with
  | none => simp [fundamental, NativeType.unsupported]
  | some spelling =>
    rw [fundamental]
    split_ifs <;> simp [NativeType.unsupported]

theorem category_pointer {i : Nat} {type : NativeType} (h : t.pointer i = .ok type) :
    type.category = .string ∨ type.category = .unsupported := by
  obtain ⟨⟨isConst, target⟩, -, rfl⟩ := Except.map_eq_ok_iff.mp h
  dsimp only
  split
  · exact .inl rfl
  · exact .inr rfl

theorem category_enumeration {i : Nat} {type : NativeType} (h : t.enumeration i = .ok type) :
    type.category = .enum := by
  obtain ⟨values, -, h⟩ := Except.bind_eq_ok_iff.mp h
  rw [← Except.ok.inj h]

theorem category_typedef (qualified bare : Option String) (inner : NativeType) :
    ((Layer.typedef qualified bare).apply inner).category = inner.category := by
  rw [Layer.apply]
  split <;> rfl

theorem category_constReference (inner : NativeType) :
    (Layer.constReference.apply inner).category.isScalar ∨
      (Layer.constReference.apply inner).category = .unsupported := by
  rw [Layer.apply]
  split
  · next h => exact .inl h
  · exact .inr rfl

/-- A category that a handler brings comes from an entry of the handler's name. -/
theorem handled_of_custom {reference : Option Nat} {type : NativeType} (h : t.describe reference = .ok type)
    (hcategory : type.category = .custom name) :
    t.hasHandler name = true ∧ ∃ i, t.tree.OnChain reference i ∧ t.tree.qualifiedName? i = some name := by
  revert hcategory
  refine describe_induction (P := fun reference type => type.category = .custom name →
    t.hasHandler name = true ∧ ∃ i, t.tree.OnChain reference i ∧ t.tree.qualifiedName? i = some name) ?_ ?_ h
  · intro reference type hends hcategory
    cases hends with
    | void | unsupported => cases hcategory
    | handled hi hname hhandler =>
      obtain rfl := Category.ofWord_eq_custom hcategory
      exact ⟨hhandler, _, .here hi, hname⟩
    | @fundamental offset i hi _ _ =>
      have hbuiltin := category_fundamental (t.tree.qualifiedName? i)
      simp [hcategory] at hbuiltin
    | pointer _ _ _ hpointer =>
      rcases category_pointer hpointer with hbuiltin | hbuiltin <;> simp [hcategory] at hbuiltin
    | enumeration _ _ _ henumeration =>
      have hbuiltin := category_enumeration henumeration
      simp [hcategory] at hbuiltin
  · intro reference layer next inner hcontinues ih hcategory
    cases hcontinues with
    | typedef hi _ halias =>
      rw [category_typedef] at hcategory
      obtain ⟨hhandler, j, hj, hname⟩ := ih hcategory
      exact ⟨hhandler, j, .behind hi halias hj, hname⟩
    | qualifier hi _ halias =>
      obtain ⟨hhandler, j, hj, hname⟩ := ih hcategory
      exact ⟨hhandler, j, .behind hi halias hj, hname⟩
    | constReference =>
      rcases category_constReference inner with hscalar | hscalar <;>
        simp [hcategory, Category.isScalar] at hscalar

theorem onChain_of_custom {reference : Option Nat} {type : NativeType} (h : t.describe reference = .ok type)
    (hcategory : type.category = .custom name) :
    ∃ i, t.tree.OnChain reference i ∧ t.tree.qualifiedName? i = some name :=
  (handled_of_custom h hcategory).2

section

variable {tree : Tree} {few many : Keyed String Handler}

theorem pointeeWithin_congr (fuel : Nat) (isConst : Bool) (reference : Option Nat) :
    (TypeTable.mk tree many).pointeeWithin fuel isConst reference =
      (TypeTable.mk tree few).pointeeWithin fuel isConst reference := by
  induction fuel, reference using (TypeTable.mk tree few).pointeeWithin_induction generalizing isConst with
  | ends fuel reference hends =>
    rw [pointeeWithin_of_ends hends]
    exact pointeeWithin_of_ends (t := ⟨tree, many⟩) hends fuel isConst
  | zero reference i hi halias =>
    rw [pointeeWithin_zero hi halias]
    exact pointeeWithin_zero (t := ⟨tree, many⟩) hi halias isConst
  | succ fuel reference i hi halias ih =>
    rw [pointeeWithin_succ hi halias, ← ih]
    exact pointeeWithin_succ (t := ⟨tree, many⟩) hi halias fuel isConst

theorem link_congr {reference : Option Nat}
    (h : ∀ i, tree.Reached reference i → ∀ q, tree.qualifiedName? i = some q → many.has q = few.has q) :
    (TypeTable.mk tree many).link reference = (TypeTable.mk tree few).link reference := by
  cases reference with
  | none => rfl
  | some offset =>
    rw [link, link]
    cases hi : tree.lookup offset with
    | none => rfl
    | some i =>
      have hname : (tree.qualifiedName? i).filter (TypeTable.mk tree many).hasHandler =
          (tree.qualifiedName? i).filter (TypeTable.mk tree few).hasHandler := by
        cases hq : tree.qualifiedName? i with
        | none => rfl
        | some q =>
          have hsame : (TypeTable.mk tree many).hasHandler q = (TypeTable.mk tree few).hasHandler q :=
            h i (.here hi) q hq
          rw [Option.filter_some, Option.filter_some, hsame]
      have hpointer : (TypeTable.mk tree many).pointer i = (TypeTable.mk tree few).pointer i := by
        rw [pointer, pointer, pointee, pointee, pointeeWithin_congr]
        rfl
      simp only [linkOf, hname, hpointer]
      rfl

/-- Tables that handle the same of the names that a reference leads to describe it alike. -/
theorem describe_congr {reference : Option Nat}
    (h : ∀ i, tree.Reached reference i → ∀ q, tree.qualifiedName? i = some q → many.has q = few.has q) :
    (TypeTable.mk tree many).describe reference = (TypeTable.mk tree few).describe reference := by
  rw [describe, describe]
  change (TypeTable.mk tree many).describeWithin tree.size reference = _
  generalize tree.size = fuel
  fun_induction (TypeTable.mk tree few).describeWithin fuel reference with
  | case1 fuel reference description hlink => exact describeWithin_of_ends ((link_congr h).trans hlink) fuel
  | case2 reference layer next fuel hlink ih =>
    rw [describeWithin_succ ((link_congr h).trans hlink)]
    exact congrArg _ (ih fun i hi => h i ((continues_of_link hlink).reached hi))
  | case3 reference layer next hlink => exact describeWithin_zero ((link_congr h).trans hlink)

end

theorem describe_register {reference : Option Nat}
    (h : ∀ i, t.tree.Reached reference i → t.tree.qualifiedName? i ≠ some name) :
    (t.register name handler).describe reference = t.describe reference := by
  apply describe_congr
  intro i hi q hq
  apply hasHandler_register
  rintro rfl
  exact h i hi hq

/-- Unless it is called like a category, a handler is only called for types whose chain has an entry of its
name. A handler that is called like the category of a type is always called for it. -/
theorem handler_keeps_to_name (t : TypeTable) (name : String) (handler : Handler) (reference : Option Nat) :
    (name ∉ Category.words →
        (∀ i, t.tree.OnChain reference i → t.tree.qualifiedName? i ≠ some name) →
        ∀ type, t.describe reference = .ok type → t.SameCode (t.register name handler) type) ∧
      ((∀ i, t.tree.Reached reference i → t.tree.qualifiedName? i ≠ some name) →
        (t.register name handler).describe reference = t.describe reference ∧
          ∀ type, t.describe reference = .ok type → type.category.word ≠ name →
            t.SameCode (t.register name handler) type) ∧
      ∀ type, t.describe reference = .ok type → type.category.word = name → ∀ position variableName,
        (t.register name handler).check type position = handler.check ⟨position, "", type⟩ ∧
          (t.register name handler).readArgument type position variableName =
            .ok (Code.Fragment.ofText (handler.toNative ⟨position, variableName, type⟩)) ∧
          (t.register name handler).toScript type variableName =
            .ok (handler.toScript ⟨0, variableName, type⟩) := by
  refine ⟨?_, ?_, ?_⟩
  · intro hname hchain type htype
    apply sameCode_register
    intro hword
    obtain ⟨i, hi, hi'⟩ := onChain_of_custom htype (Category.eq_custom_of_word hword hname)
    exact hchain i hi hi'
  · intro hchain
    exact ⟨describe_register hchain, fun type _ hword => sameCode_register hword⟩
  · intro type _ hword
    exact handled_register hword

def doubleTable : TypeTable := ⟨.ofEntries [
  ⟨"base_type", 0x10, 0, [("name", "double")]⟩,
  ⟨"typedef", 0x20, 0, [("name", "Level"), ("type", "<0x10>")]⟩], []⟩

def quietHandler : Handler := ⟨fun _ => "rejects", fun _ => "reads", fun _ => "returns"⟩

theorem onChain_double {i : Nat} (h : doubleTable.tree.OnChain (some 0x10) i) : i = 0 := by
  have hlookup : doubleTable.tree.lookup 0x10 = some 0 := by decide +kernel
  cases h with
  | here hi => exact (Option.some.inj (hlookup.symm.trans hi)).symm
  | behind hi halias =>
    obtain rfl := Option.some.inj (hlookup.symm.trans hi)
    exact absurd halias (by decide +kernel)

theorem onChain_level {i : Nat} (h : doubleTable.tree.OnChain (some 0x20) i) : i = 1 ∨ i = 0 := by
  have hlookup : doubleTable.tree.lookup 0x20 = some 1 := by decide +kernel
  have hnext : doubleTable.tree.typeReference? 1 = some 0x10 := by decide +kernel
  cases h with
  | here hi => exact .inl (Option.some.inj (hlookup.symm.trans hi)).symm
  | behind hi halias hnext' =>
    obtain rfl := Option.some.inj (hlookup.symm.trans hi)
    exact .inr (onChain_double (hnext ▸ hnext'))

theorem handler_keeps_to_name_level :
    "Colour" ∉ Category.words ∧ doubleTable.describe (some 0x20) = .ok ⟨some "Level", .float, none⟩ ∧
      doubleTable.SameCode (doubleTable.register "Colour" quietHandler) ⟨some "Level", .float, none⟩ := by
  have hwords : "Colour" ∉ Category.words := by decide
  have hdescribe : doubleTable.describe (some 0x20) = .ok ⟨some "Level", .float, none⟩ := by decide +kernel
  have hchain : ∀ i, doubleTable.tree.OnChain (some 0x20) i →
      doubleTable.tree.qualifiedName? i ≠ some "Colour" := by
    intro i hi
    rcases onChain_level hi with rfl | rfl <;> decide +kernel
  exact ⟨hwords, hdescribe,
    (handler_keeps_to_name doubleTable "Colour" quietHandler (some 0x20)).1 hwords hchain _ hdescribe⟩

/-- A handler for `float` is called for `double`. -/
theorem float_handler_takes_double :
    ¬ ∀ (t : TypeTable) (name : String) (handler : Handler) (reference : Option Nat),
      (∀ i, t.tree.OnChain reference i → t.tree.qualifiedName? i ≠ some name) →
      ∀ type, t.describe reference = .ok type → t.SameCode (t.register name handler) type := by
  intro h
  have hchain : ∀ i, doubleTable.tree.OnChain (some 0x10) i →
      doubleTable.tree.qualifiedName? i ≠ some "float" := by
    intro i hi
    rw [onChain_double hi]
    decide +kernel
  have hdescribe : doubleTable.describe (some 0x10) = .ok ⟨some "double", .float, none⟩ := by decide +kernel
  obtain ⟨hcheck, -⟩ := h doubleTable "float" quietHandler (some 0x10) hchain _ hdescribe 0 ""
  revert hcheck
  decide +kernel

end TypeTable

end ScriptBinding
