import ScriptBinding.Proofs.Exchange.Cycles

/-!
Type definitions and qualifiers only rename. The outermost type definition gives the spelling of a scalar type, and
the innermost one with a name gives that of an enumeration that has none.
-/

namespace ScriptBinding

open Dump

/-- The type definition with a name that is nearest to the end. -/
def Dump.Tree.nearestNamed? (t : Tree) (path : List Nat) : Option Nat :=
  path.reverse.find? fun i => t.hasTag "typedef" i && (t.name? i).any (· ≠ "")

theorem Enumeration.hasName_iff (e : Enumeration) : e.hasName = e.name.any (· ≠ "") := by
  obtain ⟨name, values⟩ := e
  cases name <;> simp [hasName]

/-- An enumeration seen from the other end of a path. -/
structure Enumeration.NamedAlong (t : Tree) (path : List Nat) (inner outer : Enumeration) : Prop where
  values : outer.values = inner.values
  kept : inner.hasName = true → outer.name = inner.name
  given : inner.hasName = false → ∀ i, t.nearestNamed? path = some i → outer.name = t.name? i
  nameless : inner.hasName = false → t.nearestNamed? path = none → outer.hasName = false

namespace TypeTable

variable {t : TypeTable} {i : Nat} {reference next last : Option Nat} {path : List Nat} {inner type : NativeType}

variable (t) in
/-- The reference behind an alias without a handler. -/
def aliasOnward (i : Nat) : Option (Option Nat) :=
  if (t.tree.qualifiedName? i).any t.hasHandler then none else t.tree.pastAlias i

variable (t) in
def aliasLayer (i : Nat) : Layer :=
  if t.tree.hasTag "typedef" i then .typedef (t.tree.qualifiedName? i) (t.tree.name? i) else .qualifier

/-- What a type at the end of a path becomes at its start. -/
structure Renames (t : TypeTable) (path : List Nat) (inner outer : NativeType) : Prop where
  category : outer.category = inner.category
  other : inner.category.isScalar = false → outer = inner
  spelling : inner.category.isScalar = true →
    outer.spelling = (path.find? (t.tree.hasTag "typedef")).elim inner.spelling t.tree.qualifiedName?
  enumeration : inner.category.isScalar = true →
    Option.Rel (Enumeration.NamedAlong t.tree path) inner.enumeration outer.enumeration

theorem link_of_aliasOnward (hi : reference.bind t.tree.lookup = some i) (h : t.aliasOnward i = some next) :
    t.link reference = .through (t.aliasLayer i) next := by
  obtain ⟨offset, rfl, hlookup⟩ := Option.bind_eq_some_iff.mp hi
  rw [aliasOnward, ← Option.isSome_filter, Option.ite_none_left_eq_some] at h
  obtain ⟨hhandler, hnext⟩ := h
  obtain ⟨halias, rfl⟩ := pastAlias_eq_some_iff.mp hnext
  have hnone : (t.tree.qualifiedName? i).filter t.hasHandler = none := Option.not_isSome_iff_eq_none.mp hhandler
  have htypedef : t.tree.hasTag "typedef" i = true ↔ t.kind i = .typedef :=
    ⟨kind_of_hasTag, fun hk => hasTag_of_tag? (by rw [hk]; rfl)⟩
  simp only [link, hlookup, linkOf, hnone, aliasLayer, htypedef]
  rcases isAlias_iff.mp halias with hk | hk | hk <;> simp [hk]

theorem describe_of_link {layer : Layer} (hlink : t.link reference = .through layer next)
    (h : t.describe next = .ok inner) : t.describe reference = .ok (layer.apply inner) := by
  rw [← describeWithin_eq_describe (Nat.le_succ _), describeWithin_succ hlink]
  rw [describe] at h
  rw [h]
  rfl

section Enumerations

variable {e outer : Enumeration}

theorem nearestNamed?_cons (t : Tree) (i : Nat) (path : List Nat) : t.nearestNamed? (i :: path) =
    (t.nearestNamed? path).or
      (if t.hasTag "typedef" i = true ∧ (t.name? i).any (· ≠ "") = true then some i else none) := by
  rw [Tree.nearestNamed?, List.reverse_cons, List.find?_append, List.find?_singleton, Tree.nearestNamed?]
  simp only [Bool.and_eq_true]

theorem namedAlong_refl (t : Tree) (e : Enumeration) : Enumeration.NamedAlong t [] e e where
  values := rfl
  kept _ := rfl
  given _ i hi := by cases hi
  nameless h _ := h

theorem namedAlong_qualifier (h : Enumeration.NamedAlong t.tree path e outer)
    (hi : t.tree.hasTag "typedef" i = false) : Enumeration.NamedAlong t.tree (i :: path) e outer := by
  have hnearest : t.tree.nearestNamed? (i :: path) = t.tree.nearestNamed? path := by
    rw [nearestNamed?_cons, hi]
    simp
  exact ⟨h.values, h.kept, fun hnone => hnearest ▸ h.given hnone, fun hnone => hnearest ▸ h.nameless hnone⟩

theorem any_name_of_nearestNamed? {j : Nat} (h : t.tree.nearestNamed? path = some j) :
    (t.tree.name? j).any (· ≠ "") = true := by
  have hfound := List.find?_some h
  rw [Bool.and_eq_true] at hfound
  exact hfound.2

theorem namedAlong_typedef (h : Enumeration.NamedAlong t.tree path e outer) (hi : t.tree.hasTag "typedef" i = true) :
    Enumeration.NamedAlong t.tree (i :: path) e (outer.named (t.tree.name? i)) := by
  by_cases hname : outer.hasName = true
  · have hsame : outer.named (t.tree.name? i) = outer := if_pos hname
    rw [hsame]
    refine ⟨h.values, h.kept, ?_, ?_⟩
    · intro hnone j hj
      -- A name that is there already is that of the nearest typedef of the path, which stays the nearest one.
      cases hfound : t.tree.nearestNamed? path with
      | none =>
        rw [h.nameless hnone hfound] at hname
        cases hname
      | some k =>
        rw [nearestNamed?_cons, hfound, Option.some_or] at hj
        obtain rfl := Option.some.inj hj
        exact h.given hnone k hfound
    · intro hnone hnearest
      rw [nearestNamed?_cons, Option.or_eq_none_iff] at hnearest
      exact h.nameless hnone hnearest.1
  · have hnew : outer.named (t.tree.name? i) = { outer with name := t.tree.name? i } := if_neg hname
    rw [hnew]
    refine ⟨h.values, ?_, ?_, ?_⟩
    · intro hkept
      rw [Enumeration.hasName_iff, h.kept hkept, ← Enumeration.hasName_iff] at hname
      exact absurd hkept hname
    · intro hnone j hj
      cases hfound : t.tree.nearestNamed? path with
      | none =>
        rw [nearestNamed?_cons, hfound, Option.none_or, Option.ite_none_right_eq_some] at hj
        rw [Option.some.inj hj.2]
      | some k =>
        rw [Enumeration.hasName_iff, h.given hnone k hfound] at hname
        exact absurd (any_name_of_nearestNamed? hfound) hname
    · intro hnone hnearest
      rw [nearestNamed?_cons, Option.or_eq_none_iff, hi] at hnearest
      rw [Enumeration.hasName_iff]
      simpa using hnearest.2

end Enumerations

theorem rel_map {α β γ : Type} {R : α → β → Prop} {R' : α → γ → Prop} {f : β → γ} {a : Option α} {b : Option β}
    (h : Option.Rel R a b) (hf : ∀ x y, R x y → R' x (f y)) : Option.Rel R' a (b.map f) := by
  cases h with
  | none => exact .none
  | some hxy => exact .some (hf _ _ hxy)

theorem Renames.nil (inner : NativeType) : t.Renames [] inner inner where
  category := rfl
  other _ := rfl
  spelling _ := rfl
  enumeration _ := by
    cases inner.enumeration with
    | none => exact .none
    | some e => exact .some (namedAlong_refl t.tree e)

theorem apply_aliasLayer_of_qualifier (hi : t.tree.hasTag "typedef" i = false) (type : NativeType) :
    (t.aliasLayer i).apply type = type := by
  rw [aliasLayer, hi]
  rfl

theorem apply_aliasLayer_of_isScalar (hi : t.tree.hasTag "typedef" i = true)
    (hscalar : type.category.isScalar = true) : (t.aliasLayer i).apply type =
      ⟨t.tree.qualifiedName? i, type.category, type.enumeration.map (·.named (t.tree.name? i))⟩ := by
  rw [aliasLayer, hi, if_pos rfl, Layer.apply, hscalar]
  rfl

theorem apply_aliasLayer_of_not_isScalar (i : Nat) (hscalar : type.category.isScalar = false) :
    (t.aliasLayer i).apply type = type := by
  cases hi : t.tree.hasTag "typedef" i with
  | false => exact apply_aliasLayer_of_qualifier hi type
  | true =>
    rw [aliasLayer, hi, if_pos rfl, Layer.apply, hscalar]
    rfl

theorem Renames.cons (h : t.Renames path inner type) (i : Nat) :
    t.Renames (i :: path) inner ((t.aliasLayer i).apply type) := by
  cases hscalar : inner.category.isScalar with
  | false =>
    rw [apply_aliasLayer_of_not_isScalar i (h.category ▸ hscalar)]
    refine ⟨h.category, h.other, ?_, ?_⟩
    all_goals
      intro htrue
      rw [hscalar] at htrue
      cases htrue
  | true =>
    cases hi : t.tree.hasTag "typedef" i with
    | false =>
      rw [apply_aliasLayer_of_qualifier hi]
      refine ⟨h.category, h.other, fun _ => ?_, fun _ => ?_⟩
      · rw [List.find?_cons, hi]
        exact h.spelling hscalar
      · have hrel := rel_map (f := id) (h.enumeration hscalar) fun _ _ hnamed => namedAlong_qualifier hnamed hi
        rwa [Option.map_id] at hrel
    | true =>
      rw [apply_aliasLayer_of_isScalar hi (h.category ▸ hscalar)]
      refine ⟨h.category, fun hfalse => ?_, fun _ => ?_, fun _ => ?_⟩
      · rw [hscalar] at hfalse
        cases hfalse
      · rw [List.find?_cons, hi]
        rfl
      · exact rel_map (h.enumeration hscalar) fun _ _ hnamed => namedAlong_typedef hnamed hi

/-- Whatever a path of aliases leads to gives the type at its start, renamed. -/
theorem describe_renames (h : t.tree.Passes t.aliasOnward reference path last) (hlast : t.describe last = .ok inner) :
    ∃ type, t.describe reference = .ok type ∧ t.Renames path inner type := by
  induction h with
  | here => exact ⟨inner, hlast, .nil inner⟩
  | on hi hnext _ ih =>
    obtain ⟨type, htype, hrenames⟩ := ih hlast
    exact ⟨_, describe_of_link (link_of_aliasOnward hi hnext) htype, hrenames.cons _⟩

/-- An enumeration without a name behind two type definitions, of which the outer one is in a namespace. -/
def levelTable : TypeTable where
  tree := .ofEntries [
    ⟨"namespace", 0x8, 0, [("name", "io")]⟩,
    ⟨"typedef", 0x10, 1, [("name", "Level"), ("type", "<0x20>")]⟩,
    ⟨"const_type", 0x20, 0, [("type", "<0x30>")]⟩,
    ⟨"typedef", 0x30, 0, [("name", "Mode"), ("type", "<0x40>")]⟩,
    ⟨"volatile_type", 0x40, 0, [("type", "<0x50>")]⟩,
    ⟨"enumeration_type", 0x50, 0, []⟩,
    ⟨"enumerator", 0x60, 1, [("name", "on"), ("const_value", "1")]⟩]

def switchType : NativeType := ⟨some "int", .enum, some ⟨some "", [("on", 1)]⟩⟩

theorem describe_renames_level :
    levelTable.tree.Passes levelTable.aliasOnward (some 0x10) [1, 2, 3, 4] (some 0x50) ∧
      levelTable.describe (some 0x50) = .ok switchType ∧
      ∃ type, levelTable.describe (some 0x10) = .ok type ∧ levelTable.Renames [1, 2, 3, 4] switchType type := by
  have hvolatile : levelTable.tree.Passes levelTable.aliasOnward (some 0x40) [4] (some 0x50) :=
    .on (by decide +kernel) (by decide +kernel) (.here _)
  have hmode : levelTable.tree.Passes levelTable.aliasOnward (some 0x30) [3, 4] (some 0x50) :=
    .on (by decide +kernel) (by decide +kernel) hvolatile
  have hconst : levelTable.tree.Passes levelTable.aliasOnward (some 0x20) [2, 3, 4] (some 0x50) :=
    .on (by decide +kernel) (by decide +kernel) hmode
  have hpasses : levelTable.tree.Passes levelTable.aliasOnward (some 0x10) [1, 2, 3, 4] (some 0x50) :=
    .on (by decide +kernel) (by decide +kernel) hconst
  have hlast : levelTable.describe (some 0x50) = .ok switchType := by decide +kernel
  exact ⟨hpasses, hlast, describe_renames hpasses hlast⟩

example : levelTable.describe (some 0x10) =
    .ok ⟨some "io::Level", .enum, some ⟨some "Mode", [("on", 1)]⟩⟩ := by decide +kernel

end TypeTable

end ScriptBinding
