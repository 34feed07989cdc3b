import Mathlib.Tactic.SplitIfs
import ScriptBinding.Proofs.Exchange.Faults

/-!
The grammar of the types whose values can be exchanged: what a description says of a type is what the grammar says
of its reference.
-/

namespace ScriptBinding

open Code Dump

namespace Dump.Tree

variable (t : Tree)

/-- A character type behind any number of qualifiers and type definitions. -/
inductive Characters : Option Nat → Prop where
  | here {offset i : Nat} {name : String} : t.lookup offset = some i → t.hasTag "base_type" i → t.name? i = some name →
      name ∈ charTypes → Characters (some offset)
  | behind {offset i : Nat} : t.lookup offset = some i → t.isAlias i → Characters (t.typeReference? i) →
      Characters (some offset)

inductive IsText : Option Nat → Prop where
  | pointer {offset i : Nat} : t.lookup offset = some i → t.hasTag "pointer_type" i →
      t.Characters (t.typeReference? i) → IsText (some offset)
  | behind {offset i : Nat} : t.lookup offset = some i → t.isAlias i → IsText (t.typeReference? i) →
      IsText (some offset)

inductive IsVoid : Option Nat → Prop where
  | absent : IsVoid none
  | behind {offset i : Nat} : t.lookup offset = some i → t.isAlias i → IsVoid (t.typeReference? i) →
      IsVoid (some offset)

def NamesTypedefs : Prop := ∀ i, t.hasTag "typedef" i = true → t.name? i ≠ none

theorem lt_size_of_hasTag {t : Tree} {tag : String} {i : Nat} (h : t.hasTag tag i = true) : i < t.size := by
  obtain ⟨n, hn, -⟩ := (Option.any_eq_true _ _).mp h
  exact (Array.getElem?_eq_some_iff.mp hn).1

instance : DecidablePred NamesTypedefs := fun t =>
  decidable_of_iff (∀ i ∈ t.places, t.hasTag "typedef" i = true → t.name? i ≠ none)
    ⟨fun h i htag => h i (List.mem_range.mpr (lt_size_of_hasTag htag)) htag, fun h i _ => h i⟩

/-- The references to types of which a value can be passed. -/
inductive Marshallable : Option Nat → Prop where
  | fundamental {offset i : Nat} {name : String} : t.lookup offset = some i → t.hasTag "base_type" i →
      t.qualifiedName? i = some name → name = "bool" ∨ name ∈ integerTypes ∨ name ∈ floatTypes →
      Marshallable (some offset)
  | enumeration {offset i : Nat} : t.lookup offset = some i → t.hasTag "enumeration_type" i →
      Marshallable (some offset)
  | behind {offset i : Nat} : t.lookup offset = some i → t.isAlias i → Marshallable (t.typeReference? i) →
      Marshallable (some offset)
  | constReference {offset i target : Nat} : t.lookup offset = some i → t.isReference i →
      (t.typeReference? i).bind t.lookup = some target → t.hasTag "const_type" target →
      Marshallable (t.typeReference? target) → ¬ t.IsText (t.typeReference? target) → Marshallable (some offset)
  | pointer {offset i : Nat} : t.lookup offset = some i → t.hasTag "pointer_type" i →
      t.Characters (t.typeReference? i) → Marshallable (some offset)

end Dump.Tree

namespace TypeTable

variable {t : TypeTable} {i offset fuel : Nat} {reference next : Option Nat} {layer : Layer} {type inner : NativeType}

section Characters

theorem exists_target_of_characters {isConst : Bool} {found : Bool × Option Nat} (h : t.tree.Characters reference)
    (hfound : t.pointeeWithin fuel isConst reference = .ok found) :
    ∃ j name, found.2 = some j ∧ t.kind j = .fundamental ∧ t.tree.name? j = some name ∧ isCharType name = true := by
  induction h generalizing fuel isConst with
  | @here offset i name hi htag hname hchar =>
    have hkind : t.kind i = .fundamental := kind_of_hasTag htag
    have hfind : t.find (some offset) = some i := hi
    have hends : ∀ j, t.find (some offset) = some j → t.tree.isAlias j = false := by
      intro j hj
      obtain rfl := Option.some.inj (hfind.symm.trans hj)
      simp [← Bool.not_eq_true, isAlias_iff, hkind]
    rw [pointeeWithin_of_ends hends] at hfound
    rw [← Except.ok.inj hfound]
    exact ⟨i, name, hfind, hkind, hname, by simpa [isCharType] using hchar⟩
  | @behind offset i hi halias _ ih =>
    have hfind : t.find (some offset) = some i := hi
    cases fuel with
    | zero =>
      rw [pointeeWithin_zero hfind halias] at hfound
      cases hfound
    | succ fuel =>
      rw [pointeeWithin_succ hfind halias] at hfound
      exact ih hfound

theorem characters_of_target {isConst : Bool} {found : Bool × Option Nat} {j : Nat} {name : String}
    (hfound : t.pointeeWithin fuel isConst reference = .ok found) (hj : found.2 = some j)
    (hkind : t.kind j = .fundamental) (hname : t.tree.name? j = some name) (hchar : isCharType name = true) :
    t.tree.Characters reference := by
  induction fuel, reference using t.pointeeWithin_induction generalizing isConst with
  | ends fuel reference hends =>
    rw [pointeeWithin_of_ends hends] at hfound
    rw [← Except.ok.inj hfound] at hj
    obtain ⟨offset, rfl, hlookup⟩ := Option.bind_eq_some_iff.mp hj
    exact .here hlookup (hasTag_of_tag? (by rw [hkind]; rfl)) hname (by simpa [isCharType] using hchar)
  | zero reference i hi halias =>
    rw [pointeeWithin_zero hi halias] at hfound
    cases hfound
  | succ fuel reference i hi halias ih =>
    rw [pointeeWithin_succ hi halias] at hfound
    obtain ⟨offset, rfl, hlookup⟩ := Option.bind_eq_some_iff.mp hi
    exact .behind hlookup halias (ih hfound)

theorem category_pointer_iff (h : t.pointer i = .ok type) :
    type.category = .string ↔ t.tree.Characters (t.tree.typeReference? i) := by
  obtain ⟨⟨isConst, target⟩, hfound, rfl⟩ := Except.map_eq_ok_iff.mp h
  constructor
  · intro hstring
    dsimp only at hstring
    split at hstring
    · next htext =>
      obtain ⟨j, rfl, hj⟩ := (Option.any_eq_true _ _).mp htext
      rw [Bool.and_eq_true, decide_eq_true_eq] at hj
      obtain ⟨name, hname, hchar⟩ := (Option.any_eq_true _ _).mp hj.2
      exact characters_of_target hfound rfl hj.1 hname hchar
    · cases hstring
  · intro hcharacters
    obtain ⟨j, name, rfl, hkind, hname, hchar⟩ := exists_target_of_characters hcharacters hfound
    simp [hkind, hname, hchar]

end Characters

section Links

variable (hno : t.handlers = [])
include hno

theorem unhandled (i : Nat) : (t.tree.qualifiedName? i).filter t.hasHandler = none := by
  have hnone (name : String) : t.hasHandler name = false := by
    rw [hasHandler, hno]
    rfl
  cases t.tree.qualifiedName? i <;> simp [hnone]

theorem link_alias (hi : t.tree.lookup offset = some i) (halias : t.tree.isAlias i = true) :
    ∃ layer, t.link (some offset) = .through layer (t.tree.typeReference? i) ∧
      ∀ inner, (layer.apply inner).category = inner.category := by
  simp only [link, hi, linkOf, unhandled hno]
  rcases kind_of_isAlias halias with hk | hk | hk
  · exact ⟨_, by rw [hk], category_typedef _ _⟩
  · exact ⟨_, by rw [hk], fun _ => rfl⟩
  · exact ⟨_, by rw [hk], fun _ => rfl⟩

theorem exists_behind (hi : t.tree.lookup offset = some i) (halias : t.tree.isAlias i = true)
    (h : t.describeWithin fuel (some offset) = .ok type) :
    ∃ fuel' inner, t.describeWithin fuel' (t.tree.typeReference? i) = .ok inner ∧ type.category = inner.category := by
  obtain ⟨layer, hlink, hcategory⟩ := link_alias hno hi halias
  obtain ⟨fuel', inner, -, hinner, rfl⟩ := exists_of_through hlink h
  exact ⟨fuel', inner, hinner, hcategory inner⟩

theorem link_pointer (hi : t.tree.lookup offset = some i) (htag : t.tree.hasTag "pointer_type" i = true) :
    t.link (some offset) = .ends (t.pointer i) := by
  have hk : t.kind i = .pointer := kind_of_hasTag htag
  simp only [link, hi, linkOf, unhandled hno, hk]

theorem category_of_isText (h : t.tree.IsText reference) (hdescribe : t.describeWithin fuel reference = .ok type) :
    type.category = .string := by
  induction h generalizing fuel type with
  | pointer hi htag hcharacters =>
    rw [describeWithin_of_ends (link_pointer hno hi htag)] at hdescribe
    exact (category_pointer_iff hdescribe).mpr hcharacters
  | behind hi halias _ ih =>
    obtain ⟨_, inner, hinner, hcategory⟩ := exists_behind hno hi halias hdescribe
    exact hcategory.trans (ih hinner)

theorem category_of_isVoid (h : t.tree.IsVoid reference) (hdescribe : t.describeWithin fuel reference = .ok type) :
    type.category = .void := by
  induction h generalizing fuel type with
  | absent =>
    have hlink : t.link none = .ends (.ok .void) := rfl
    rw [describeWithin_of_ends hlink] at hdescribe
    rw [← Except.ok.inj hdescribe]
    rfl
  | behind hi halias _ ih =>
    obtain ⟨_, inner, hinner, hcategory⟩ := exists_behind hno hi halias hdescribe
    exact hcategory.trans (ih hinner)

end Links

/-- What a description says of the reference that it is for. -/
structure Sound (t : TypeTable) (reference : Option Nat) (type : NativeType) : Prop where
  builtin : ∀ name, type.category ≠ .custom name
  text : type.category = .string → t.tree.IsText reference
  void : type.category = .void → t.tree.IsVoid reference
  passable : type.isPassable = true → t.tree.Marshallable reference

theorem sound_unsupported (t : TypeTable) (reference : Option Nat) : t.Sound reference .unsupported where
  builtin _ h := by cases h
  text h := by cases h
  void h := by cases h
  passable h := by cases h

theorem Sound.behind (h : t.Sound (t.tree.typeReference? i) inner) (hi : t.tree.lookup offset = some i)
    (halias : t.tree.isAlias i = true) (hcategory : type.category = inner.category) : t.Sound (some offset) type where
  builtin name := hcategory ▸ h.builtin name
  text htext := .behind hi halias (h.text (hcategory ▸ htext))
  void hvoid := .behind hi halias (h.void (hcategory ▸ hvoid))
  passable hpassable := by
    refine .behind hi halias (h.passable ?_)
    rwa [NativeType.isPassable, NativeType.isSupported, ← hcategory]

theorem sound_fundamental (hi : t.tree.lookup offset = some i) (hk : t.kind i = .fundamental) :
    t.Sound (some offset) (fundamental (t.tree.qualifiedName? i)) := by
  cases hname : t.tree.qualifiedName? i with
  | none => exact sound_unsupported t _
  | some name =>
    have htag : t.tree.hasTag "base_type" i = true := hasTag_of_tag? (by rw [hk]; rfl)
    have hmade (hlisted : name = "bool" ∨ name ∈ integerTypes ∨ name ∈ floatTypes) {category : Category}
        (hcategory : category.isScalar = true) : t.Sound (some offset) ⟨some name, category, none⟩ := by
      refine ⟨?_, ?_, ?_, fun _ => .fundamental hi htag hname hlisted⟩
      · rintro other rfl
        cases hcategory
      · rintro rfl
        cases hcategory
      · rintro rfl
        cases hcategory
    rw [fundamental]
    split_ifs with hbool hinteger hfloat
    · exact hmade (.inl hbool) rfl
    · exact hmade (.inr (.inl (by simpa [isIntegerType] using hinteger))) rfl
    · exact hmade (.inr (.inr (by simpa [isFloatType] using hfloat))) rfl
    · exact sound_unsupported t _

theorem sound_pointer (hi : t.tree.lookup offset = some i) (hk : t.kind i = .pointer) (h : t.pointer i = .ok type) :
    t.Sound (some offset) type := by
  have htag : t.tree.hasTag "pointer_type" i = true := hasTag_of_tag? (by rw [hk]; rfl)
  rcases category_pointer h with hstring | hunsupported
  · have hcharacters := (category_pointer_iff h).mp hstring
    refine ⟨by simp [hstring], fun _ => .pointer hi htag hcharacters, by simp [hstring], ?_⟩
    exact fun _ => .pointer hi htag hcharacters
  · refine ⟨by simp [hunsupported], by simp [hunsupported], by simp [hunsupported], ?_⟩
    simp [NativeType.isPassable, NativeType.isSupported, hunsupported]

theorem sound_enumeration (hi : t.tree.lookup offset = some i) (hk : t.kind i = .enumeration)
    (h : t.enumeration i = .ok type) : t.Sound (some offset) type := by
  have htag : t.tree.hasTag "enumeration_type" i = true := hasTag_enumeration hk
  have hcategory := category_enumeration h
  exact ⟨by simp [hcategory], by simp [hcategory], by simp [hcategory], fun _ => .enumeration hi htag⟩

theorem isScalar_of_isPassable (hbuiltin : ∀ name, type.category ≠ .custom name) (htext : type.category ≠ .string)
    (hpassable : type.isPassable = true) : type.category.isScalar = true := by
  rw [NativeType.isPassable, NativeType.isSupported] at hpassable
  cases hcategory : type.category with
  | bool | int | float | enum => rfl
  | string => exact absurd hcategory htext
  | void | unsupported => simp [hcategory] at hpassable
  | custom name => exact absurd hcategory (hbuiltin name)

theorem isPassable_of_isScalar (h : type.category.isScalar = true) : type.isPassable = true := by
  rw [NativeType.isPassable, NativeType.isSupported]
  cases hcategory : type.category with
  | bool | int | float | enum => rfl
  | void | string | unsupported | custom name => simp [hcategory, Category.isScalar] at h

section Describe

variable (hno : t.handlers = [])
include hno

theorem sound_constReference {target : Nat} (hi : t.tree.lookup offset = some i)
    (hreference : t.tree.isReference i = true)
    (htarget : (t.tree.typeReference? i).bind t.tree.lookup = some target)
    (hconst : t.tree.hasTag "const_type" target = true)
    (hinner : t.describeWithin fuel (t.tree.typeReference? target) = .ok inner)
    (h : t.Sound (t.tree.typeReference? target) inner) :
    t.Sound (some offset) (Layer.constReference.apply inner) := by
  rw [Layer.apply]
  split_ifs with hscalar
  · refine ⟨h.builtin, ?_, ?_, ?_⟩
    · intro htext
      simp [htext, Category.isScalar] at hscalar
    · intro hvoid
      simp [hvoid, Category.isScalar] at hscalar
    · intro hpassable
      refine .constReference hi hreference htarget hconst (h.passable hpassable) ?_
      intro htext
      simp [category_of_isText hno htext hinner, Category.isScalar] at hscalar
  · exact sound_unsupported t _

theorem sound_of_ends (h : t.Ends reference type) : t.Sound reference type := by
  cases h with
  | void => exact ⟨by simp [NativeType.void], by simp [NativeType.void], fun _ => .absent, fun h => by cases h⟩
  | unsupported => exact sound_unsupported t _
  | handled _ _ hhandler =>
    rw [hasHandler, hno] at hhandler
    cases hhandler
  | fundamental hi _ hk => exact sound_fundamental hi hk
  | pointer hi _ hk hpointer => exact sound_pointer hi hk hpointer
  | enumeration hi _ hk henumeration => exact sound_enumeration hi hk henumeration

theorem sound_of_continues (h : t.Continues reference layer next) (hinner : t.describeWithin fuel next = .ok inner)
    (hsound : t.Sound next inner) : t.Sound reference (layer.apply inner) := by
  cases h with
  | typedef hi _ halias => exact hsound.behind hi halias (category_typedef _ _ inner)
  | qualifier hi _ halias => exact hsound.behind hi halias rfl
  | constReference hi _ hreference htarget hconst =>
    exact sound_constReference hno hi hreference htarget hconst hinner hsound

theorem sound_of_describeWithin (h : t.describeWithin fuel reference = .ok type) : t.Sound reference type :=
  describeWithin_induction (sound_of_ends hno) (sound_of_continues hno) h

theorem isPassable_of_marshallable (h : t.tree.Marshallable reference)
    (hdescribe : t.describeWithin fuel reference = .ok type) : type.isPassable = true := by
  induction h generalizing fuel type with
  | @fundamental offset i name hi htag hname hlisted =>
    have hlink : t.link (some offset) = .ends (.ok (fundamental (t.tree.qualifiedName? i))) := by
      have hk : t.kind i = .fundamental := kind_of_hasTag htag
      simp only [link, hi, linkOf, unhandled hno, hk]
    rw [describeWithin_of_ends hlink, hname] at hdescribe
    rw [← Except.ok.inj hdescribe, fundamental]
    split_ifs with hbool hinteger hfloat
    · rfl
    · rfl
    · rfl
    · rcases hlisted with rfl | hlisted | hlisted
      · exact absurd rfl hbool
      · exact absurd (List.contains_iff_mem.mpr hlisted) hinteger
      · exact absurd (List.contains_iff_mem.mpr hlisted) hfloat
  | @enumeration offset i hi htag =>
    have hlink : t.link (some offset) = .ends (t.enumeration i) := by
      have hk : t.kind i = .enumeration := kind_of_hasTag htag
      simp only [link, hi, linkOf, unhandled hno, hk]
    rw [describeWithin_of_ends hlink] at hdescribe
    exact isPassable_of_isScalar (by rw [category_enumeration hdescribe]; rfl)
  | behind hi halias _ ih =>
    obtain ⟨_, inner, hinner, hcategory⟩ := exists_behind hno hi halias hdescribe
    rw [NativeType.isPassable, NativeType.isSupported, hcategory]
    exact ih hinner
  | @constReference offset i target hi hreference htarget htag _ htext ih =>
    have hlink : t.link (some offset) = .through .constReference (t.tree.typeReference? target) := by
      have hk : t.kind i = .reference := kind_of_isReference hreference
      have hconst : t.kind target = .constant := kind_of_hasTag htag
      have hfind : (t.find (t.tree.typeReference? i)).filter (t.kind · = .constant) = some target := by
        simp [find, htarget, hconst]
      simp only [link, hi, linkOf, unhandled hno, hk, hfind]
    obtain ⟨_, inner, -, hinner, rfl⟩ := exists_of_through hlink hdescribe
    -- What can be passed and is not text is a scalar, the only thing that a constant reference leaves as it is.
    have hsound := sound_of_describeWithin hno hinner
    have hscalar := isScalar_of_isPassable hsound.builtin (fun htext' => htext (hsound.text htext')) (ih hinner)
    rw [Layer.apply, if_pos hscalar]
    exact ih hinner
  | pointer hi htag hcharacters =>
    have hstring := category_of_isText hno (.pointer hi htag hcharacters) hdescribe
    simp [NativeType.isPassable, NativeType.isSupported, hstring]

theorem isPassable_iff (h : t.describe reference = .ok type) :
    type.isPassable = true ↔ t.tree.Marshallable reference :=
  ⟨(sound_of_describeWithin hno h).passable, fun hmarshallable => isPassable_of_marshallable hno hmarshallable h⟩

theorem isSupported_iff (h : t.describe reference = .ok type) :
    type.isSupported = true ↔ t.tree.Marshallable reference ∨ t.tree.IsVoid reference := by
  have hvoid : type.category = .void ↔ t.tree.IsVoid reference :=
    ⟨(sound_of_describeWithin hno h).void, fun hvoid => category_of_isVoid hno hvoid h⟩
  rw [← isPassable_iff hno h, ← hvoid, NativeType.isPassable]
  by_cases hcategory : type.category = .void
  · simp [hcategory, NativeType.isSupported]
  · simp [hcategory]

end Describe

theorem spelling_fundamental (name : Option String) : (fundamental name).spelling ≠ none := by
  cases name with
  | none => simp [fundamental, NativeType.unsupported]
  | some name =>
    rw [fundamental]
    split_ifs <;> simp [NativeType.unsupported]

theorem spelling_of_ends (h : t.Ends reference type) : type.spelling ≠ none := by
  cases h with
  | void | unsupported | handled => simp [NativeType.void, NativeType.unsupported]
  | fundamental => exact spelling_fundamental _
  | pointer _ _ _ hpointer =>
    obtain ⟨found, -, rfl⟩ := Except.map_eq_ok_iff.mp hpointer
    dsimp only
    split <;> simp [NativeType.unsupported]
  | enumeration _ _ _ henumeration =>
    obtain ⟨values, -, henumeration⟩ := Except.bind_eq_ok_iff.mp henumeration
    obtain rfl := Except.ok.inj henumeration
    simp

section Spelling

variable (hnamed : t.tree.NamesTypedefs)
include hnamed

theorem qualified_of_link {qualified bare : Option String}
    (h : t.link reference = .through (.typedef qualified bare) next) : qualified ≠ none := by
  cases reference with
  | none => cases h
  | some offset =>
    cases hi : t.tree.lookup offset with
    | none => simp [link, hi] at h
    | some i =>
      simp only [link, hi, linkOf] at h
      split at h
      · cases h
      · cases hk : t.kind i with
        | typedef =>
          simp only [hk, Link.through.injEq, Layer.typedef.injEq] at h
          have hname := hnamed i (hasTag_of_tag? (by rw [hk]; rfl))
          obtain ⟨name, hname⟩ := Option.ne_none_iff_exists'.mp hname
          obtain ⟨n, hn, hname⟩ := Option.bind_eq_some_iff.mp hname
          rw [← h.1.1, Tree.qualifiedName?, hn]
          simp [hname]
        | constant | volatile | fundamental | pointer | enumeration | other => simp [hk] at h
        | reference =>
          simp only [hk] at h
          split at h <;> cases h

theorem spelling_of_describeWithin (h : t.describeWithin fuel reference = .ok type) : type.spelling ≠ none := by
  fun_induction t.describeWithin fuel reference generalizing type with
  | case1 fuel reference description hlink => exact spelling_of_ends (ends_of_link (h ▸ hlink))
  | case2 reference layer next fuel hlink ih =>
    obtain ⟨inner, hinner, rfl⟩ := Except.map_eq_ok_iff.mp h
    have hspelling := ih hinner
    cases layer with
    | typedef qualified bare =>
      rw [Layer.apply]
      split_ifs
      · exact qualified_of_link hnamed hlink
      · exact hspelling
    | qualifier => exact hspelling
    | constReference =>
      rw [Layer.apply]
      split_ifs
      · exact hspelling
      · simp [NativeType.unsupported]
  | case3 => cases h

end Spelling

end TypeTable

end ScriptBinding
