import ScriptBinding.Proofs.Dump.Names
import ScriptBinding.Proofs.Exchange.Chains

/-!
The spellings of types. They are made of names in a dump, so none holds a newline.
-/

namespace ScriptBinding

open Code Dump

def NativeType.Flat (type : NativeType) : Prop := OneLine type.text

instance : DecidablePred NativeType.Flat := fun type => inferInstanceAs (Decidable (OneLine type.text))

theorem NativeType.flat_unsupported : unsupported.Flat := by decide

namespace TypeTable

variable {t : TypeTable}

theorem flat_pointer {i : Nat} {type : NativeType} (h : t.pointer i = .ok type) : type.Flat := by
  obtain ⟨⟨isConst, target⟩, -, rfl⟩ := Except.map_eq_ok_iff.mp h
  dsimp only
  split
  · cases isConst <;> decide
  · exact NativeType.flat_unsupported

section

variable (ht : t.tree.Flat)
include ht

theorem oneLine_qualifiedName (i : Nat) : OneLine ((t.tree.qualifiedName? i).getD "None") := by
  cases h : t.tree.qualifiedName? i with
  | none => decide
  | some name => exact ht.qualifiedName? h

theorem flat_enumeration {i : Nat} {type : NativeType} (h : t.enumeration i = .ok type) : type.Flat := by
  obtain ⟨values, -, h⟩ := Except.bind_eq_ok_iff.mp h
  obtain rfl := Except.ok.inj h
  change OneLine (((t.tree.qualifiedName? i).filter (· ≠ "")).getD "int")
  cases hname : (t.tree.qualifiedName? i).filter (· ≠ "") with
  | none => decide
  | some name => exact ht.qualifiedName? (Option.filter_eq_some_iff.mp hname).1

theorem flat_fundamental (i : Nat) : (fundamental (t.tree.qualifiedName? i)).Flat := by
  cases hname : t.tree.qualifiedName? i with
  | none => exact NativeType.flat_unsupported
  | some name =>
    have h : OneLine name := ht.qualifiedName? hname
    rw [fundamental]
    split_ifs
    · exact h
    · exact h
    · exact h
    · exact NativeType.flat_unsupported

theorem flat_of_ends {reference : Option Nat} {type : NativeType} (h : t.Ends reference type) : type.Flat := by
  cases h with
  | void => decide
  | unsupported => exact NativeType.flat_unsupported
  | handled _ hname _ => exact ht.qualifiedName? hname
  | fundamental _ _ _ => exact flat_fundamental ht _
  | pointer _ _ _ hpointer => exact flat_pointer hpointer
  | enumeration _ _ _ henumeration => exact flat_enumeration ht henumeration

theorem flat_of_continues {reference next : Option Nat} {layer : Layer} {inner : NativeType}
    (h : t.Continues reference layer next) (hinner : inner.Flat) : (layer.apply inner).Flat := by
  cases h with
  | @typedef _ i _ _ _ =>
    rw [Layer.apply]
    split
    · exact oneLine_qualifiedName ht i
    · exact hinner
  | qualifier _ _ _ => exact hinner
  | constReference _ _ _ _ _ =>
    rw [Layer.apply]
    split
    · exact hinner
    · exact NativeType.flat_unsupported

theorem flat_describe {reference : Option Nat} {type : NativeType} (h : t.describe reference = .ok type) :
    type.Flat :=
  describe_induction (P := fun _ type => type.Flat) (flat_of_ends ht) (flat_of_continues ht) h

end

end TypeTable

end ScriptBinding
