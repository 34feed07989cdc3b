import ScriptBinding.Proofs.Dump.Ways
import ScriptBinding.Proofs.Exchange.Grammar

/-!
Type references that form a cycle. A description fails for them, whatever number of links is allowed, and without a
cycle it needs no more links than the tree has nodes. The search behind a pointer then has no end.
-/

namespace ScriptBinding

open Dump

/-- The reference behind an alias. -/
def Dump.Tree.pastAlias (t : Tree) (i : Nat) : Option (Option Nat) :=
  if t.isAlias i then some (t.typeReference? i) else none

namespace TypeTable

variable {t : TypeTable} {i fuel : Nat} {reference next last : Option Nat} {path : List Nat}

section Describe

variable (t) in
/-- The reference that a description goes on with behind an entry: that of an alias, or that of the constant which a
reference is to. -/
def onward (i : Nat) : Option (Option Nat) :=
  if (t.tree.qualifiedName? i).any t.hasHandler then none
  else if t.tree.isAlias i then some (t.tree.typeReference? i)
  else if t.tree.isReference i then
    (((t.tree.typeReference? i).bind t.tree.lookup).filter (t.tree.hasTag "const_type")).map t.tree.typeReference?
  else none

theorem exists_linkOf_iff : (∃ layer, t.linkOf i = .through layer next) ↔ t.onward i = some next := by
  rw [onward, linkOf, ← Option.isSome_filter]
  cases hname : (t.tree.qualifiedName? i).filter t.hasHandler with
  | some name => simp
  | none =>
    simp only [isAlias_iff, isReference_iff, find, kind_beq_constant]
    cases hk : t.kind i with
    | typedef | constant | volatile => simp
    | fundamental | pointer | enumeration | other => simp
    | reference =>
      cases htarget : ((t.tree.typeReference? i).bind t.tree.lookup).filter (t.tree.hasTag "const_type") with
      | none => simp
      | some target => simp

theorem exists_link_iff : (∃ layer, t.link reference = .through layer next) ↔
    ∃ i, reference.bind t.tree.lookup = some i ∧ t.onward i = some next := by
  cases reference with
  | none => simp [link]
  | some offset =>
    rw [link, Option.bind_some]
    cases t.tree.lookup offset with
    | none => simp
    | some i => simp [exists_linkOf_iff]

theorem ne_cyclicType_of_link {description : Except Fault NativeType} (h : t.link reference = .ends description) :
    description ≠ .error .cyclicType := by
  rintro rfl
  obtain ⟨offset, i, rfl, -, hpointer | ⟨-, henumeration⟩⟩ := fails_of_link h
  · cases pointeeWithin_error (Except.map_eq_error_iff.mp hpointer)
  · rcases Except.bind_eq_error_iff.mp henumeration with hvalues | ⟨values, -, h⟩
    · obtain ⟨j, -, hvalue⟩ := exists_of_mapM_error hvalues
      cases isConstant_of_enumerator hvalue
    · cases h

theorem stops_iff : t.tree.Stops t.onward reference ↔ ∃ description, t.link reference = .ends description := by
  constructor
  · intro hstops
    cases hlink : t.link reference with
    | ends description => exact ⟨description, rfl⟩
    | through layer next =>
      obtain ⟨i, hi, hnext⟩ := exists_link_iff.mp ⟨layer, hlink⟩
      rw [hstops i hi] at hnext
      cases hnext
  · rintro ⟨description, hlink⟩ i hi
    apply Option.eq_none_iff_forall_ne_some.mpr
    intro next hnext
    obtain ⟨layer, hthrough⟩ := exists_link_iff.mpr ⟨i, hi, hnext⟩
    rw [hlink] at hthrough
    cases hthrough

theorem not_passes_of_ends {description : Except Fault NativeType} (h : t.link reference = .ends description) :
    ¬ ∃ path last, t.tree.Passes t.onward reference path last ∧ path.length = fuel + 1 := by
  rintro ⟨path, last, hpasses, hlength⟩
  rw [hpasses.eq_nil (stops_iff.mpr ⟨description, h⟩)] at hlength
  cases hlength

/-- A description fails for want of links exactly if its way is longer than that. -/
theorem describeWithin_eq_cyclicType_iff : t.describeWithin fuel reference = .error .cyclicType ↔
    ∃ path last, t.tree.Passes t.onward reference path last ∧ path.length = fuel + 1 := by
  fun_induction t.describeWithin fuel reference with
  | case1 fuel reference description hlink =>
    exact iff_of_false (ne_cyclicType_of_link hlink) (not_passes_of_ends hlink)
  | case2 reference layer next fuel hlink ih =>
    obtain ⟨i, hi, hnext⟩ := exists_link_iff.mp ⟨layer, hlink⟩
    rw [Except.map_eq_error_iff, ih]
    constructor
    · rintro ⟨path, last, hpasses, hlength⟩
      exact ⟨i :: path, last, .on hi hnext hpasses, congrArg Nat.succ hlength⟩
    · rintro ⟨path, last, hpasses, hlength⟩
      rcases hpasses.eq_nil_or_cons hi hnext with ⟨rfl, -⟩ | ⟨rest, rfl, hrest⟩
      · cases hlength
      · exact ⟨rest, last, hrest, Nat.succ.inj hlength⟩
  | case3 reference layer next hlink =>
    obtain ⟨i, hi, hnext⟩ := exists_link_iff.mp ⟨layer, hlink⟩
    exact ⟨fun _ => ⟨[i], next, .on hi hnext (.here next), rfl⟩, fun _ => rfl⟩

theorem describeWithin_eq_of_passes (h : t.tree.Passes t.onward reference path last)
    (hstops : t.tree.Stops t.onward last) {other : Nat} (hfuel : path.length ≤ fuel) (hother : path.length ≤ other) :
    t.describeWithin fuel reference = t.describeWithin other reference := by
  induction h generalizing fuel other with
  | here =>
    obtain ⟨description, hlink⟩ := stops_iff.mp hstops
    rw [describeWithin_of_ends hlink, describeWithin_of_ends hlink]
  | on hi hnext _ ih =>
    obtain ⟨layer, hlink⟩ := exists_link_iff.mpr ⟨_, hi, hnext⟩
    cases fuel with
    | zero => cases hfuel
    | succ fuel =>
      cases other with
      | zero => cases hother
      | succ other =>
        rw [describeWithin_succ hlink, describeWithin_succ hlink,
          ih hstops (Nat.le_of_succ_le_succ hfuel) (Nat.le_of_succ_le_succ hother)]

theorem describe_of_comesBack (h : t.tree.ComesBack t.onward reference) (fuel : Nat) :
    t.describeWithin fuel reference = .error .cyclicType :=
  describeWithin_eq_cyclicType_iff.mpr (h.exists_passes (fuel + 1))

theorem describeWithin_eq_describe (h : t.tree.size ≤ fuel) :
    t.describeWithin fuel reference = t.describe reference := by
  by_cases hback : t.tree.ComesBack t.onward reference
  · exact (describe_of_comesBack hback fuel).trans (describe_of_comesBack hback t.tree.size).symm
  · obtain ⟨path, last, hpasses, hstops, hle⟩ := Tree.exists_stop hback
    exact describeWithin_eq_of_passes hpasses hstops (Nat.le_trans hle h) hle

/-- A description comes back to an entry and no number of links is enough for it, or it stops after no more links than
the tree has nodes. -/
theorem describe_comesBack_or_stops (t : TypeTable) (reference : Option Nat) :
    (t.tree.ComesBack t.onward reference ∧ t.describe reference = .error .cyclicType ∧
        ∀ fuel, t.describeWithin fuel reference = .error .cyclicType) ∨
      (¬ t.tree.ComesBack t.onward reference ∧ t.describe reference ≠ .error .cyclicType ∧
        ∃ path last, t.tree.Passes t.onward reference path last ∧ t.tree.Stops t.onward last ∧
          path.length ≤ t.tree.size ∧
          ∀ fuel, path.length ≤ fuel → t.describeWithin fuel reference = t.describe reference) := by
  by_cases hback : t.tree.ComesBack t.onward reference
  · exact .inl ⟨hback, describe_of_comesBack hback _, describe_of_comesBack hback⟩
  · obtain ⟨path, last, hpasses, hstops, hle⟩ := Tree.exists_stop hback
    refine .inr ⟨hback, ?_, path, last, hpasses, hstops, hle, ?_⟩
    · intro hcyclic
      obtain ⟨long, behind, hlong, hlength⟩ := describeWithin_eq_cyclicType_iff.mp hcyclic
      obtain ⟨rest, rfl, -⟩ := hlong.exists_rest hpasses hstops
      rw [List.length_append] at hle
      omega
    · intro fuel hfuel
      exact describeWithin_eq_of_passes hpasses hstops hfuel hle

end Describe

section Pointee

theorem pastAlias_eq_some_iff : t.tree.pastAlias i = some next ↔
    t.tree.isAlias i = true ∧ t.tree.typeReference? i = next := by
  rw [Tree.pastAlias, Option.ite_none_right_eq_some, Option.some.injEq]

theorem pointeeWithin_of_stops (h : t.tree.Stops t.tree.pastAlias reference) (fuel : Nat) (isConst : Bool) :
    t.pointeeWithin fuel isConst reference = .ok (isConst, reference.bind t.tree.lookup) := by
  apply pointeeWithin_of_ends
  intro i hi
  apply Bool.eq_false_iff.mpr
  intro halias
  cases (h i hi).symm.trans (if_pos halias)

theorem pointeeWithin_of_passes (h : t.tree.Passes t.tree.pastAlias reference path last)
    (hstops : t.tree.Stops t.tree.pastAlias last) (hfuel : path.length ≤ fuel) (isConst : Bool) :
    t.pointeeWithin fuel isConst reference =
      .ok (isConst || path.any (t.tree.hasTag "const_type"), last.bind t.tree.lookup) := by
  induction h generalizing fuel isConst with
  | here => rw [pointeeWithin_of_stops hstops, List.any_nil, Bool.or_false]
  | on hi hnext _ ih =>
    obtain ⟨halias, rfl⟩ := pastAlias_eq_some_iff.mp hnext
    cases fuel with
    | zero => cases hfuel
    | succ fuel =>
      rw [pointeeWithin_succ hi halias, ih hstops (Nat.le_of_succ_le_succ hfuel), List.any_cons, Bool.or_assoc]

theorem pointeeWithin_of_longer (h : t.tree.Passes t.tree.pastAlias reference path last)
    (hlength : path.length = fuel + 1) (isConst : Bool) :
    t.pointeeWithin fuel isConst reference = .error .cyclicPointee := by
  induction h generalizing fuel isConst with
  | here => cases hlength
  | on hi hnext hpasses ih =>
    obtain ⟨halias, rfl⟩ := pastAlias_eq_some_iff.mp hnext
    cases fuel with
    | zero => exact pointeeWithin_zero hi halias isConst
    | succ fuel => rw [pointeeWithin_succ hi halias, ih (Nat.succ.inj hlength)]

theorem pointeeWithin_of_comesBack (h : t.tree.ComesBack t.tree.pastAlias reference) (fuel : Nat) :
    t.pointeeWithin fuel false reference = .error .cyclicPointee := by
  obtain ⟨path, last, hpasses, hlength⟩ := h.exists_passes (fuel + 1)
  exact pointeeWithin_of_longer hpasses hlength false

theorem exists_passes_of_pointee {found : Bool × Option Nat} (h : t.pointee i = .ok found) :
    ∃ path last, t.tree.Passes t.tree.pastAlias (t.tree.typeReference? i) path last ∧
      found = (path.any (t.tree.hasTag "const_type"), last.bind t.tree.lookup) := by
  rw [pointee] at h
  by_cases hback : t.tree.ComesBack t.tree.pastAlias (t.tree.typeReference? i)
  · rw [pointeeWithin_of_comesBack hback] at h
    cases h
  · obtain ⟨path, last, hpasses, hstops, hle⟩ := Tree.exists_stop hback
    rw [pointeeWithin_of_passes hpasses hstops hle] at h
    exact ⟨path, last, hpasses, (Except.ok.inj h).symm⟩

/-- The search behind a pointer reaches no entry or one of another tag after no more steps than the tree has nodes,
or it comes back to an entry and goes on for ever. -/
theorem pointee_stops_or_endless (t : TypeTable) (i : Nat) :
    (∃ path last, t.tree.Passes t.tree.pastAlias (t.tree.typeReference? i) path last ∧
        (∀ j, last.bind t.tree.lookup = some j → t.tree.isAlias j = false) ∧ path.length ≤ t.tree.size ∧
        t.pointee i = .ok (path.any (t.tree.hasTag "const_type"), last.bind t.tree.lookup)) ∨
      (t.tree.ComesBack t.tree.pastAlias (t.tree.typeReference? i) ∧
        ∀ steps, (∃ path last, t.tree.Passes t.tree.pastAlias (t.tree.typeReference? i) path last ∧
          path.length = steps) ∧
          t.pointeeWithin steps false (t.tree.typeReference? i) = .error .cyclicPointee) := by
  by_cases hback : t.tree.ComesBack t.tree.pastAlias (t.tree.typeReference? i)
  · exact .inr ⟨hback, fun steps => ⟨hback.exists_passes steps, pointeeWithin_of_comesBack hback steps⟩⟩
  · obtain ⟨path, last, hpasses, hstops, hle⟩ := Tree.exists_stop hback
    refine .inl ⟨path, last, hpasses, ?_, hle, pointeeWithin_of_passes hpasses hstops hle false⟩
    intro j hj
    apply Bool.eq_false_iff.mpr
    intro halias
    cases (hstops j hj).symm.trans (if_pos halias)

/-- A pointer to a type definition that is one of itself. -/
def ringLines : List (List Char) := [
  " <0><10>: Abbrev Number: 1 (DW_TAG_pointer_type)".toList,
  " <11> DW_AT_type:<0x20>".toList,
  " <0><20>: Abbrev Number: 2 (DW_TAG_typedef)".toList,
  " <21> DW_AT_name:word".toList,
  " <22> DW_AT_type:<0x20>".toList]

def ringTree : Tree := .ofEntries [
  ⟨"pointer_type", 0x10, 0, [("type", "<0x20>")]⟩,
  ⟨"typedef", 0x20, 0, [("name", "word"), ("type", "<0x20>")]⟩]

theorem pointee_endless_ring :
    Tree.parse (String.ofList (['\n'].intercalate ringLines)) = .ok ringTree ∧
      ringTree.hasTag "pointer_type" 0 = true ∧
      (∀ fuel, (TypeTable.mk ringTree []).pointeeWithin fuel false (ringTree.typeReference? 0) =
        .error .cyclicPointee) ∧
      ¬ ∃ path last, ringTree.Passes ringTree.pastAlias (ringTree.typeReference? 0) path last ∧
        (∀ j, last.bind ringTree.lookup = some j → ringTree.isAlias j = false) ∧ path.length ≤ ringTree.size := by
  have hparse : Tree.parse (String.ofList (['\n'].intercalate ringLines)) = .ok ringTree := by
    rw [Tree.parse, String.toList_ofList, ringLines]
    repeat rw [String.toList_ofList]
    decide +kernel
  have hback : ringTree.ComesBack ringTree.pastAlias (ringTree.typeReference? 0) :=
    ⟨[1], some 0x20, 1, .on (by decide +kernel) (by decide +kernel) (.here _), by decide +kernel,
      List.mem_singleton_self 1⟩
  refine ⟨hparse, by decide +kernel, pointeeWithin_of_comesBack hback, ?_⟩
  rintro ⟨path, last, hpasses, hother, -⟩
  apply hback.not_stops hpasses
  intro j hj
  rw [Tree.pastAlias, hother j hj]
  rfl

end Pointee

end TypeTable

end ScriptBinding
