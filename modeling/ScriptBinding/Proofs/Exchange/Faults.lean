import ScriptBinding.Proofs.Exchange.Handlers

/-!
Why a type cannot be described: an enumerator without a readable value, or links that do not end. A description that
succeeds can be converted both ways, unless the type is not supported at all.
-/

namespace ScriptBinding

open Dump

/-- The faults of an enumerator's value. -/
inductive Fault.IsConstant : Fault → Prop where
  | empty : IsConstant .emptyConstant
  | malformed (token : String) : IsConstant (.malformedConstant token)

theorem isConstant_of_readConstant {value : List Char} {fault : Fault} (h : readConstant value = .error fault) :
    fault.IsConstant := by
  unfold readConstant at h
  split at h
  · obtain rfl := Except.error.inj h
    exact .empty
  · split at h
    · cases h
    · split at h
      · cases h
      · obtain rfl := Except.error.inj h
        exact .malformed _

namespace TypeTable

variable {t : TypeTable} {reference : Option Nat} {fault : Fault}

theorem isConstant_of_enumerator {j : Nat} (h : t.enumerator j = .error fault) : fault.IsConstant := by
  rw [enumerator] at h
  split at h
  · have hconstant := Except.map_eq_error_iff.mp h
    rw [Entry.constant?] at hconstant
    split at hconstant
    · cases hconstant
    · exact isConstant_of_readConstant (Except.map_eq_error_iff.mp hconstant)
  · cases h

/-- What keeps a type from being described. -/
inductive Obstacle (t : TypeTable) : Option Nat → Fault → Prop where
  | constant {reference : Option Nat} {i j : Nat} {fault : Fault} : t.tree.Reached reference i →
      t.tree.hasTag "enumeration_type" i → j ∈ t.tree.childrenTagged "enumerator" i →
      t.enumerator j = .error fault → fault.IsConstant → Obstacle t reference fault
  | cycle (reference : Option Nat) : Obstacle t reference .cyclicType
  | pointee {reference : Option Nat} {i : Nat} : t.tree.Reached reference i → t.pointee i = .error .cyclicPointee →
      Obstacle t reference .cyclicPointee

theorem pointeeWithin_error {fuel : Nat} {isConst : Bool} (h : t.pointeeWithin fuel isConst reference = .error fault) :
    fault = .cyclicPointee := by
  induction fuel, reference using t.pointeeWithin_induction generalizing isConst with
  | ends fuel reference hends =>
    rw [pointeeWithin_of_ends hends] at h
    cases h
  | zero reference i hi halias =>
    rw [pointeeWithin_zero hi halias] at h
    exact (Except.error.inj h).symm
  | succ fuel reference i hi halias ih =>
    rw [pointeeWithin_succ hi halias] at h
    exact ih h

theorem obstacle_of_enumeration {i : Nat} (hi : t.tree.Reached reference i) (hkind : t.kind i = .enumeration)
    (h : t.enumeration i = .error fault) : t.Obstacle reference fault := by
  rcases Except.bind_eq_error_iff.mp h with hvalues | ⟨values, -, h⟩
  · obtain ⟨j, hj, hvalue⟩ := exists_of_mapM_error hvalues
    exact .constant hi (hasTag_enumeration hkind) hj hvalue (isConstant_of_enumerator hvalue)
  · cases h

theorem obstacle_of_pointer {i : Nat} (hi : t.tree.Reached reference i) (h : t.pointer i = .error fault) :
    t.Obstacle reference fault := by
  have hpointee := Except.map_eq_error_iff.mp h
  obtain rfl := pointeeWithin_error hpointee
  exact .pointee hi hpointee

theorem obstacle_of_link (h : t.link reference = .ends (.error fault)) : t.Obstacle reference fault := by
  obtain ⟨offset, i, rfl, hi, hpointer | ⟨hkind, henumeration⟩⟩ := fails_of_link h
  · exact obstacle_of_pointer (.here hi) hpointer
  · exact obstacle_of_enumeration (.here hi) hkind henumeration

theorem Obstacle.continues {next : Option Nat} {layer : Layer} (h : t.Continues reference layer next)
    (hnext : t.Obstacle next fault) : t.Obstacle reference fault := by
  cases hnext with
  | constant hi htag hj hvalue hconstant => exact .constant (h.reached hi) htag hj hvalue hconstant
  | cycle => exact .cycle reference
  | pointee hi hpointee => exact .pointee (h.reached hi) hpointee

theorem obstacle_of_describe (h : t.describe reference = .error fault) : t.Obstacle reference fault := by
  rw [describe] at h
  generalize t.tree.size = fuel at h
  fun_induction t.describeWithin fuel reference with
  | case1 fuel reference description hlink => exact obstacle_of_link (h ▸ hlink)
  | case2 reference layer next fuel hlink ih =>
    exact (ih (Except.map_eq_error_iff.mp h)).continues (continues_of_link hlink)
  | case3 reference layer next hlink =>
    obtain rfl := Except.error.inj h
    exact .cycle reference

theorem exists_handlerOf? {type : NativeType} {name : String} (h : t.describe reference = .ok type)
    (hcategory : type.category = .custom name) : ∃ handler, t.handlerOf? type = some handler := by
  have hhandler := (handled_of_custom h hcategory).1
  rw [hasHandler, Keyed.has] at hhandler
  rw [handlerOf?, hcategory]
  exact Option.isSome_iff_exists.mp hhandler

theorem exists_readArgument {type : NativeType} (h : t.describe reference = .ok type)
    (hpassable : type.isPassable = true) (position : Int) (name : String) :
    ∃ code, t.readArgument type position name = .ok code := by
  rw [readArgument]
  cases hhandler : t.handlerOf? type with
  | some handler => exact ⟨_, rfl⟩
  | none =>
    cases hcategory : type.category with
    | bool | int | float | string | enum => exact ⟨_, rfl⟩
    | void | unsupported => simp [NativeType.isPassable, NativeType.isSupported, hcategory] at hpassable
    | custom name =>
      obtain ⟨handler, hfound⟩ := exists_handlerOf? h hcategory
      rw [hhandler] at hfound
      cases hfound

theorem exists_toScript {type : NativeType} (h : t.describe reference = .ok type)
    (hsupported : type.isSupported = true) (name : String) : ∃ value, t.toScript type name = .ok value := by
  rw [toScript]
  cases hhandler : t.handlerOf? type with
  | some handler => exact ⟨_, rfl⟩
  | none =>
    cases hcategory : type.category with
    | void | bool | int | float | string | enum => exact ⟨_, rfl⟩
    | unsupported => simp [NativeType.isSupported, hcategory] at hsupported
    | custom name =>
      obtain ⟨handler, hfound⟩ := exists_handlerOf? h hcategory
      rw [hhandler] at hfound
      cases hfound

end TypeTable

end ScriptBinding
