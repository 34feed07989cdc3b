import ScriptBinding.Exchange.Description
import ScriptBinding.Proofs.Traversal

/-!
What a type reference leads through and what it ends with: the links one by one, the entries of a chain, and a
rule for proving something of every description.
-/

namespace ScriptBinding

open Dump

namespace Dump.Tree

variable (t : Tree)

def isAlias (i : Nat) : Bool := t.hasTag "typedef" i || t.hasTag "const_type" i || t.hasTag "volatile_type" i

def isReference (i : Nat) : Bool := t.hasTag "reference_type" i || t.hasTag "rvalue_reference_type" i

/-- The entry at a reference and those behind type definitions and qualifiers. -/
inductive OnChain : Option Nat → Nat → Prop where
  | here {offset i : Nat} : t.lookup offset = some i → OnChain (some offset) i
  | behind {offset i j : Nat} : t.lookup offset = some i → t.isAlias i → OnChain (t.typeReference? i) j →
      OnChain (some offset) j

/-- The entries of a chain that goes on behind references to constants. -/
inductive Reached : Option Nat → Nat → Prop where
  | here {offset i : Nat} : t.lookup offset = some i → Reached (some offset) i
  | behind {offset i j : Nat} : t.lookup offset = some i → t.isAlias i → Reached (t.typeReference? i) j →
      Reached (some offset) j
  | constant {offset i target j : Nat} : t.lookup offset = some i → t.isReference i →
      (t.typeReference? i).bind t.lookup = some target → t.hasTag "const_type" target →
      Reached (t.typeReference? target) j → Reached (some offset) j

end Dump.Tree

/-- The tag of a kind that has only one. -/
def TypeKind.tag? : TypeKind → Option String
  | fundamental => "base_type"
  | typedef => "typedef"
  | constant => "const_type"
  | volatile => "volatile_type"
  | pointer => "pointer_type"
  | enumeration => "enumeration_type"
  | reference | other => none

theorem TypeKind.eq_of_tag? {tag only : String} (h : (ofTag tag).tag? = some only) : tag = only := by
  unfold ofTag at h
  split at h <;> simp_all [tag?]

namespace TypeTable

variable {t : TypeTable} {i : Nat} {reference next : Option Nat}

theorem hasTag_of_kind (h : t.kind i ≠ .other) :
    ∃ tag, t.tree.hasTag tag i = true ∧ TypeKind.ofTag tag = t.kind i := by
  rw [kind] at h ⊢
  cases hn : t.tree.nodes[i]? with
  | none => simp [hn] at h
  | some n => exact ⟨n.tag, by simp [Tree.hasTag, hn], rfl⟩

theorem hasTag_of_tag? {tag : String} (h : (t.kind i).tag? = some tag) : t.tree.hasTag tag i = true := by
  have hother : t.kind i ≠ .other := by
    intro hother
    simp [hother, TypeKind.tag?] at h
  obtain ⟨found, hfound, hkind⟩ := hasTag_of_kind hother
  rw [← hkind] at h
  obtain rfl := TypeKind.eq_of_tag? h
  exact hfound

theorem kind_of_hasTag {tag : String} (h : t.tree.hasTag tag i = true) : t.kind i = TypeKind.ofTag tag := by
  rw [Tree.hasTag] at h
  rw [kind]
  cases hn : t.tree.nodes[i]? with
  | none => simp [hn] at h
  | some n =>
    obtain rfl : n.tag = tag := by simpa [hn] using h
    rfl

theorem hasTag_const (h : t.kind i = .constant) : t.tree.hasTag "const_type" i = true := hasTag_of_tag? (by rw [h]; rfl)

theorem isAlias_of_kind (h : t.kind i = .typedef ∨ t.kind i = .constant ∨ t.kind i = .volatile) :
    t.tree.isAlias i = true := by
  obtain ⟨tag, htag, hk⟩ := hasTag_of_kind (t := t) (i := i) (by rcases h with h | h | h <;> simp [h])
  rw [← hk] at h
  unfold TypeKind.ofTag at h
  rw [Tree.isAlias]
  split at h <;> simp_all

theorem isReference_of_kind (h : t.kind i = .reference) : t.tree.isReference i = true := by
  obtain ⟨tag, htag, hk⟩ := hasTag_of_kind (t := t) (i := i) (by simp [h])
  rw [h] at hk
  unfold TypeKind.ofTag at hk
  rw [Tree.isReference]
  split at hk <;> simp_all

theorem kind_of_isAlias (h : t.tree.isAlias i = true) :
    t.kind i = .typedef ∨ t.kind i = .constant ∨ t.kind i = .volatile := by
  rw [Tree.isAlias, Bool.or_eq_true, Bool.or_eq_true] at h
  rcases h with (h | h) | h
  · exact .inl (kind_of_hasTag h)
  · exact .inr (.inl (kind_of_hasTag h))
  · exact .inr (.inr (kind_of_hasTag h))

theorem kind_of_isReference (h : t.tree.isReference i = true) : t.kind i = .reference := by
  rw [Tree.isReference, Bool.or_eq_true] at h
  rcases h with h | h <;> exact kind_of_hasTag h

theorem isAlias_iff : t.tree.isAlias i = true ↔ t.kind i = .typedef ∨ t.kind i = .constant ∨ t.kind i = .volatile :=
  ⟨kind_of_isAlias, isAlias_of_kind⟩

theorem isReference_iff : t.tree.isReference i = true ↔ t.kind i = .reference :=
  ⟨kind_of_isReference, isReference_of_kind⟩

theorem hasTag_const_iff : t.tree.hasTag "const_type" i = true ↔ t.kind i = .constant :=
  ⟨kind_of_hasTag, hasTag_const⟩

theorem kind_beq_constant : (fun i => decide (t.kind i = .constant)) = t.tree.hasTag "const_type" := by
  funext i
  rw [Bool.eq_iff_iff, decide_eq_true_iff, hasTag_const_iff]

theorem hasTag_enumeration (h : t.kind i = .enumeration) : t.tree.hasTag "enumeration_type" i = true :=
  hasTag_of_tag? (by rw [h]; rfl)

variable (t) in
def Unhandled (i : Nat) : Prop := (t.tree.qualifiedName? i).filter t.hasHandler = none

/-- How a link goes on: by an alias, or behind a reference to a constant. -/
inductive Continues (t : TypeTable) : Option Nat → Layer → Option Nat → Prop where
  | typedef {offset i : Nat} : t.tree.lookup offset = some i → t.Unhandled i → t.tree.isAlias i →
      Continues t (some offset) (.typedef (t.tree.qualifiedName? i) (t.tree.name? i)) (t.tree.typeReference? i)
  | qualifier {offset i : Nat} : t.tree.lookup offset = some i → t.Unhandled i → t.tree.isAlias i →
      Continues t (some offset) .qualifier (t.tree.typeReference? i)
  | constReference {offset i target : Nat} : t.tree.lookup offset = some i → t.Unhandled i →
      t.tree.isReference i → (t.tree.typeReference? i).bind t.tree.lookup = some target →
      t.tree.hasTag "const_type" target →
      Continues t (some offset) .constReference (t.tree.typeReference? target)

theorem Continues.reached {reference next : Option Nat} {layer : Layer} {j : Nat} (h : t.Continues reference layer next)
    (hj : t.tree.Reached next j) : t.tree.Reached reference j := by
  cases h with
  | typedef hlookup _ halias => exact .behind hlookup halias hj
  | qualifier hlookup _ halias => exact .behind hlookup halias hj
  | constReference hlookup _ hreference htarget hconst => exact .constant hlookup hreference htarget hconst hj

/-- What a link ends with. -/
inductive Ends (t : TypeTable) : Option Nat → NativeType → Prop where
  | void : Ends t none .void
  | unsupported (reference : Option Nat) : Ends t reference .unsupported
  | handled {offset i : Nat} {name : String} : t.tree.lookup offset = some i →
      t.tree.qualifiedName? i = some name → t.hasHandler name →
      Ends t (some offset) ⟨some name, .ofWord name, none⟩
  | fundamental {offset i : Nat} : t.tree.lookup offset = some i → t.Unhandled i →
      t.kind i = .fundamental → Ends t (some offset) (fundamental (t.tree.qualifiedName? i))
  | pointer {offset i : Nat} {type : NativeType} : t.tree.lookup offset = some i → t.Unhandled i →
      t.kind i = .pointer → t.pointer i = .ok type → Ends t (some offset) type
  | enumeration {offset i : Nat} {type : NativeType} : t.tree.lookup offset = some i → t.Unhandled i →
      t.kind i = .enumeration → t.enumeration i = .ok type → Ends t (some offset) type

/-- Only an entry that is an enumeration gives a type with enumerators. -/
theorem Ends.exists_enumeration {reference : Option Nat} {type : NativeType} {e : Enumeration}
    (h : t.Ends reference type) (he : e ∈ type.enumeration) : ∃ offset i, reference = some offset ∧
      t.tree.lookup offset = some i ∧ t.kind i = .enumeration ∧ t.enumeration i = .ok type := by
  cases h with
  | void | unsupported | handled => cases he
  | @fundamental offset i _ _ _ =>
    have hnone : (TypeTable.fundamental (t.tree.qualifiedName? i)).enumeration = none := by
      unfold TypeTable.fundamental
      split
      · rfl
      · split_ifs <;> rfl
    rw [hnone] at he
    cases he
  | pointer _ _ _ hpointer =>
    obtain ⟨⟨isConst, target⟩, -, rfl⟩ := Except.map_eq_ok_iff.mp hpointer
    revert he
    dsimp only
    split <;> exact fun he => by cases he
  | enumeration hlookup _ hkind henumeration => exact ⟨_, _, rfl, hlookup, hkind, henumeration⟩

/-- A link goes on, ends with a type, or fails: for what a pointer leads to, or for the values of an enumeration. -/
theorem link_cases (t : TypeTable) (reference : Option Nat) :
    (∃ layer next, t.link reference = .through layer next ∧ t.Continues reference layer next) ∨
      (∃ type, t.link reference = .ends (.ok type) ∧ t.Ends reference type) ∨
      ∃ fault offset i, t.link reference = .ends (.error fault) ∧ reference = some offset ∧
        t.tree.lookup offset = some i ∧
        (t.pointer i = .error fault ∨ t.kind i = .enumeration ∧ t.enumeration i = .error fault) := by
  cases reference with
  | none => exact .inr (.inl ⟨_, rfl, .void⟩)
  | some offset =>
    rw [link]
    cases hi : t.tree.lookup offset with
    | none => exact .inr (.inl ⟨_, rfl, .unsupported _⟩)
    | some i =>
      dsimp only
      rw [linkOf]
      cases hname : (t.tree.qualifiedName? i).filter t.hasHandler with
      | some name =>
        obtain ⟨hqualified, hhandler⟩ := Option.filter_eq_some_iff.mp hname
        exact .inr (.inl ⟨_, rfl, .handled hi hqualified hhandler⟩)
      | none =>
        cases hk : t.kind i with
        | fundamental => exact .inr (.inl ⟨_, rfl, .fundamental hi hname hk⟩)
        | typedef => exact .inl ⟨_, _, rfl, .typedef hi hname (isAlias_of_kind (.inl hk))⟩
        | constant => exact .inl ⟨_, _, rfl, .qualifier hi hname (isAlias_of_kind (.inr (.inl hk)))⟩
        | volatile => exact .inl ⟨_, _, rfl, .qualifier hi hname (isAlias_of_kind (.inr (.inr hk)))⟩
        | reference =>
          dsimp only
          cases htarget : (t.find (t.tree.typeReference? i)).filter (t.kind · = .constant) with
          | none => exact .inr (.inl ⟨_, rfl, .unsupported _⟩)
          | some target =>
            obtain ⟨hfind, hconst⟩ := Option.filter_eq_some_iff.mp htarget
            have hconst : t.kind target = .constant := by simpa using hconst
            exact .inl ⟨_, _, rfl, .constReference hi hname (isReference_of_kind hk) hfind (hasTag_const hconst)⟩
        | pointer =>
          cases hpointer : t.pointer i with
          | ok type => exact .inr (.inl ⟨type, rfl, .pointer hi hname hk hpointer⟩)
          | error fault => exact .inr (.inr ⟨fault, offset, i, rfl, rfl, hi, .inl hpointer⟩)
        | enumeration =>
          cases henumeration : t.enumeration i with
          | ok type => exact .inr (.inl ⟨type, rfl, .enumeration hi hname hk henumeration⟩)
          | error fault => exact .inr (.inr ⟨fault, offset, i, rfl, rfl, hi, .inr ⟨hk, henumeration⟩⟩)
        | other => exact .inr (.inl ⟨_, rfl, .unsupported _⟩)

theorem continues_of_link {layer : Layer} (h : t.link reference = .through layer next) :
    t.Continues reference layer next := by
  rcases t.link_cases reference with ⟨_, _, hlink, hcontinues⟩ | ⟨_, hlink, -⟩ | ⟨_, _, _, hlink, -⟩
  · obtain ⟨rfl, rfl⟩ := Link.through.inj (hlink.symm.trans h)
    exact hcontinues
  · cases hlink.symm.trans h
  · cases hlink.symm.trans h

theorem ends_of_link {type : NativeType} (h : t.link reference = .ends (.ok type)) : t.Ends reference type := by
  rcases t.link_cases reference with ⟨_, _, hlink, -⟩ | ⟨_, hlink, hends⟩ | ⟨_, _, _, hlink, -⟩
  · cases hlink.symm.trans h
  · obtain rfl := Except.ok.inj (Link.ends.inj (hlink.symm.trans h))
    exact hends
  · cases hlink.symm.trans h

theorem fails_of_link {fault : Fault} (h : t.link reference = .ends (.error fault)) :
    ∃ offset i, reference = some offset ∧ t.tree.lookup offset = some i ∧
      (t.pointer i = .error fault ∨ t.kind i = .enumeration ∧ t.enumeration i = .error fault) := by
  rcases t.link_cases reference with ⟨_, _, hlink, -⟩ | ⟨_, hlink, -⟩ | ⟨_, offset, i, hlink, rfl, hi, hfails⟩
  · cases hlink.symm.trans h
  · cases hlink.symm.trans h
  · obtain rfl := Except.error.inj (Link.ends.inj (hlink.symm.trans h))
    exact ⟨offset, i, rfl, hi, hfails⟩

section Pointee

theorem pointeeWithin_of_ends (h : ∀ i, t.find reference = some i → t.tree.isAlias i = false) (fuel : Nat)
    (isConst : Bool) : t.pointeeWithin fuel isConst reference = .ok (isConst, t.find reference) := by
  unfold pointeeWithin
  cases hi : t.find reference with
  | none => rfl
  | some i =>
    have halias := h i hi
    rw [← Bool.not_eq_true, isAlias_iff] at halias
    cases hk : t.kind i with
    | typedef | constant | volatile => simp [hk] at halias
    | fundamental | reference | pointer | enumeration | other => simp only [hk]

theorem pointeeWithin_zero (hi : t.find reference = some i) (halias : t.tree.isAlias i = true) (isConst : Bool) :
    t.pointeeWithin 0 isConst reference = .error .cyclicPointee := by
  unfold pointeeWithin
  rcases isAlias_iff.mp halias with hk | hk | hk <;> simp only [hi, hk]

theorem pointeeWithin_succ (hi : t.find reference = some i) (halias : t.tree.isAlias i = true) (fuel : Nat)
    (isConst : Bool) : t.pointeeWithin (fuel + 1) isConst reference =
      t.pointeeWithin fuel (isConst || t.tree.hasTag "const_type" i) (t.tree.typeReference? i) := by
  have hconst : t.tree.hasTag "const_type" i = decide (t.kind i = .constant) := by rw [← kind_beq_constant]
  conv_lhs => unfold pointeeWithin
  rw [hconst]
  rcases isAlias_iff.mp halias with hk | hk | hk <;> simp [hi, hk]

/-- The search behind a pointer ends where no alias is, and otherwise takes a step or has none left. -/
theorem pointeeWithin_induction (t : TypeTable) {P : Nat → Option Nat → Prop}
    (ends : ∀ fuel reference, (∀ i, t.find reference = some i → t.tree.isAlias i = false) → P fuel reference)
    (zero : ∀ reference i, t.find reference = some i → t.tree.isAlias i = true → P 0 reference)
    (succ : ∀ fuel reference i, t.find reference = some i → t.tree.isAlias i = true →
      P fuel (t.tree.typeReference? i) → P (fuel + 1) reference)
    (fuel : Nat) (reference : Option Nat) : P fuel reference := by
  induction fuel generalizing reference with
  | zero =>
    by_cases h : ∃ i, t.find reference = some i ∧ t.tree.isAlias i = true
    · obtain ⟨i, hi, halias⟩ := h
      exact zero reference i hi halias
    · exact ends 0 reference (by simpa using h)
  | succ fuel ih =>
    by_cases h : ∃ i, t.find reference = some i ∧ t.tree.isAlias i = true
    · obtain ⟨i, hi, halias⟩ := h
      exact succ fuel reference i hi halias (ih _)
    · exact ends (fuel + 1) reference (by simpa using h)

end Pointee

section Describe

variable {layer : Layer}

theorem describeWithin_of_ends {description : Except Fault NativeType} (h : t.link reference = .ends description)
    (fuel : Nat) : t.describeWithin fuel reference = description := by
  unfold describeWithin
  cases fuel <;> simp only [h]

theorem describeWithin_zero (h : t.link reference = .through layer next) :
    t.describeWithin 0 reference = .error .cyclicType := by
  unfold describeWithin
  simp only [h]

theorem describeWithin_succ (h : t.link reference = .through layer next) (fuel : Nat) :
    t.describeWithin (fuel + 1) reference = (t.describeWithin fuel next).map layer.apply := by
  conv_lhs => unfold describeWithin
  simp only [h]

theorem exists_of_through {fuel : Nat} {type : NativeType} (hlink : t.link reference = .through layer next)
    (h : t.describeWithin fuel reference = .ok type) :
    ∃ fuel' inner, fuel = fuel' + 1 ∧ t.describeWithin fuel' next = .ok inner ∧ type = layer.apply inner := by
  cases fuel with
  | zero =>
    rw [describeWithin_zero hlink] at h
    cases h
  | succ fuel =>
    rw [describeWithin_succ hlink] at h
    obtain ⟨inner, hinner, rfl⟩ := Except.map_eq_ok_iff.mp h
    exact ⟨fuel, inner, rfl, hinner, rfl⟩

/-- What holds of every type that a chain ends with and is kept by every layer holds of a description. -/
theorem describeWithin_induction {P : Option Nat → NativeType → Prop}
    (hends : ∀ {reference type}, t.Ends reference type → P reference type)
    (hcontinues : ∀ {fuel reference layer next inner}, t.Continues reference layer next →
      t.describeWithin fuel next = .ok inner → P next inner → P reference (layer.apply inner))
    {fuel : Nat} {type : NativeType} (h : t.describeWithin fuel reference = .ok type) : P reference type := by
  fun_induction t.describeWithin fuel reference generalizing type with
  | case1 fuel reference description hlink => exact hends (ends_of_link (h ▸ hlink))
  | case2 reference layer next fuel hlink ih =>
    obtain ⟨inner, hinner, rfl⟩ := Except.map_eq_ok_iff.mp h
    exact hcontinues (continues_of_link hlink) hinner (ih hinner)
  | case3 => cases h

theorem describe_induction {P : Option Nat → NativeType → Prop}
    (hends : ∀ {reference type}, t.Ends reference type → P reference type)
    (hcontinues : ∀ {reference layer next inner}, t.Continues reference layer next → P next inner →
      P reference (layer.apply inner))
    {reference : Option Nat} {type : NativeType} (h : t.describe reference = .ok type) : P reference type :=
  describeWithin_induction hends (fun hnext _ => hcontinues hnext) h

end Describe

end TypeTable

end ScriptBinding
