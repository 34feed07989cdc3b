import Mathlib.Data.List.Nodup
import Mathlib.Data.List.Perm.Subperm
import Mathlib.Tactic.SplitIfs
import ScriptBinding.Proofs.Dump.Renaming

/-!
The class that is chosen among those of a name: one with the most children, and the first of these. If no
other has as many, it is chosen in whatever order the nodes stand.
-/

namespace ScriptBinding.Dump.Tree

variable {t : Tree} {name : String} {i : Nat} {l : List Nat}

/-- The first of the largest: those before it have fewer children, and those behind it have no more. -/
def FirstLargest (t : Tree) (l : List Nat) (i : Nat) : Prop :=
  ∃ before after, l = before ++ i :: after ∧ (∀ j ∈ before, (t.children j).length < (t.children i).length) ∧
    ∀ j ∈ after, (t.children j).length ≤ (t.children i).length

theorem FirstLargest.mem (h : t.FirstLargest l i) : i ∈ l := by
  obtain ⟨before, after, rfl, -, -⟩ := h
  simp

theorem FirstLargest.le (h : t.FirstLargest l i) : ∀ j ∈ l, (t.children j).length ≤ (t.children i).length := by
  obtain ⟨before, after, rfl, hbefore, hafter⟩ := h
  intro j hj
  rcases List.mem_append.mp hj with hj | hj
  · exact Nat.le_of_lt (hbefore j hj)
  · rcases List.mem_cons.mp hj with rfl | hj
    · exact Nat.le_refl _
    · exact hafter j hj

theorem exists_foldl_better (b : Nat) (l : List Nat) :
    ∃ i, l.foldl t.better (some b) = some i ∧ t.FirstLargest (b :: l) i := by
  induction l generalizing b with
  | nil => exact ⟨b, rfl, [], [], rfl, by simp, by simp⟩
  | cons j l ih =>
    rw [List.foldl_cons, better]
    split_ifs with hlt
    · obtain ⟨i, hi, hfirst⟩ := ih j
      have hj := hfirst.le j List.mem_cons_self
      obtain ⟨before, after, hl, hbefore, hafter⟩ := hfirst
      refine ⟨i, hi, b :: before, after, by rw [hl]; rfl, ?_, hafter⟩
      exact List.forall_mem_cons.mpr ⟨Nat.lt_of_lt_of_le hlt hj, hbefore⟩
    · obtain ⟨i, hi, before, after, hl, hbefore, hafter⟩ := ih b
      cases before with
      | nil =>
        obtain ⟨rfl, rfl⟩ := List.cons.inj hl
        refine ⟨b, hi, [], j :: l, rfl, by simp, ?_⟩
        exact List.forall_mem_cons.mpr ⟨Nat.not_lt.mp hlt, hafter⟩
      | cons b' before =>
        obtain ⟨rfl, rfl⟩ := List.cons.inj hl
        obtain ⟨hb, hbefore⟩ := List.forall_mem_cons.mp hbefore
        refine ⟨i, hi, b :: j :: before, after, rfl, ?_, hafter⟩
        have hj := Nat.lt_of_le_of_lt (Nat.not_lt.mp hlt) hb
        exact List.forall_mem_cons.mpr ⟨hb, List.forall_mem_cons.mpr ⟨hj, hbefore⟩⟩

/-- The classes that have the name. -/
def namedClasses (t : Tree) (name : String) : List Nat := (t.tagged "class_type").filter fun i => t.name? i = some name

theorem findClass_of_empty (h : t.namedClasses name = []) : t.findClass name = .error (.classNotFound name) := by
  rw [findClass, ← namedClasses, h]
  rfl

theorem exists_findClass (h : t.namedClasses name ≠ []) :
    ∃ i, t.findClass name = .ok i ∧ t.FirstLargest (t.namedClasses name) i := by
  rw [findClass, ← namedClasses]
  cases hl : t.namedClasses name with
  | nil => exact absurd hl h
  | cons b l =>
    obtain ⟨i, hi, hfirst⟩ := t.exists_foldl_better b l
    refine ⟨i, ?_, hfirst⟩
    rw [List.foldl_cons, better]
    simp only [hi]

theorem firstLargest_of_findClass (h : t.findClass name = .ok i) : t.FirstLargest (t.namedClasses name) i := by
  by_cases hnone : t.namedClasses name = []
  · rw [findClass_of_empty hnone] at h
    cases h
  · obtain ⟨j, hj, hfirst⟩ := exists_findClass hnone
    obtain rfl := Except.ok.inj (h.symm.trans hj)
    exact hfirst

theorem name_of_findClass (h : t.findClass name = .ok i) : t.name? i = some name := by
  have hmem := (firstLargest_of_findClass h).mem
  simpa using (List.mem_filter.mp hmem).2

theorem classNotFound_of_findClass {fault : Fault} (h : t.findClass name = .error fault) :
    fault = .classNotFound name := by
  by_cases hnone : t.namedClasses name = []
  · exact Except.error.inj (h.symm.trans (findClass_of_empty hnone))
  · obtain ⟨i, hi, -⟩ := exists_findClass hnone
    rw [h] at hi
    cases hi

/-- A class of this name, wherever in the tree it lies. -/
def IsClass (t : Tree) (name : String) (i : Nat) : Prop :=
  ∃ n, t.nodes[i]? = some n ∧ n.tag = "class_type" ∧ n.name? = some name

/-- The class of this name that is defined and not only declared: no other one has more children, and those
before it in the document have fewer. -/
structure IsDefinition (t : Tree) (name : String) (i : Nat) : Prop where
  isClass : t.IsClass name i
  largest : ∀ j, t.IsClass name j → (t.children j).length ≤ (t.children i).length
  first : ∀ j < i, t.IsClass name j → (t.children j).length < (t.children i).length

theorem mem_namedClasses : i ∈ t.namedClasses name ↔ t.IsClass name i := by
  rw [namedClasses, tagged, List.mem_filter, List.mem_filter, places, List.mem_range, hasTag, Tree.name?, IsClass]
  constructor
  · rintro ⟨⟨-, htag⟩, hname⟩
    obtain ⟨n, hn, htag⟩ := (Option.any_eq_true _ _).mp htag
    rw [decide_eq_true_eq] at htag hname
    rw [hn] at hname
    exact ⟨n, hn, htag, hname⟩
  · rintro ⟨n, hn, htag, hname⟩
    have hi : i < t.size := (Array.getElem?_eq_some_iff.mp hn).1
    refine ⟨⟨hi, ?_⟩, ?_⟩
    · simp [hn, htag]
    · simpa [hn] using hname

theorem pairwise_namedClasses (t : Tree) (name : String) : (t.namedClasses name).Pairwise (· < ·) :=
  (List.pairwise_lt_range.filter _).filter _

theorem FirstLargest.isDefinition (h : t.FirstLargest (t.namedClasses name) i) : t.IsDefinition name i where
  isClass := mem_namedClasses.mp h.mem
  largest j hj := h.le j (mem_namedClasses.mpr hj)
  first j hji hj := by
    have hsorted := t.pairwise_namedClasses name
    have hmem := mem_namedClasses.mpr hj
    obtain ⟨before, after, hsplit, hbefore, -⟩ := h
    rw [hsplit] at hsorted hmem
    rcases List.mem_append.mp hmem with hmem | hmem
    · exact hbefore j hmem
    · -- The places behind `i` are greater.
      have hle : i ≤ j := by
        rcases List.mem_cons.mp hmem with rfl | hmem
        · exact Nat.le_refl _
        · exact Nat.le_of_lt (List.rel_of_pairwise_cons (List.pairwise_append.mp hsorted).2.1 hmem)
      omega

theorem IsDefinition.unique {j : Nat} (hi : t.IsDefinition name i) (hj : t.IsDefinition name j) : i = j := by
  rcases Nat.lt_trichotomy i j with hlt | heq | hlt
  · have hfewer := hj.first i hlt hi.isClass
    have hmost := hi.largest j hj.isClass
    omega
  · exact heq
  · have hfewer := hi.first j hlt hj.isClass
    have hmost := hj.largest i hi.isClass
    omega

theorem findClass_eq_ok_iff : t.findClass name = .ok i ↔ t.IsDefinition name i := by
  constructor
  · intro h
    exact (firstLargest_of_findClass h).isDefinition
  · intro h
    obtain ⟨j, hj, hfirst⟩ := exists_findClass (List.ne_nil_of_mem (mem_namedClasses.mpr h.isClass))
    rw [hj, h.unique hfirst.isDefinition]

theorem findClass_eq_error_iff {fault : Fault} :
    t.findClass name = .error fault ↔ fault = .classNotFound name ∧ ∀ i, ¬ t.IsClass name i := by
  constructor
  · intro h
    refine ⟨classNotFound_of_findClass h, ?_⟩
    intro i hi
    obtain ⟨j, hj, -⟩ := exists_findClass (List.ne_nil_of_mem (mem_namedClasses.mpr hi))
    rw [h] at hj
    cases hj
  · rintro ⟨rfl, hnone⟩
    apply findClass_of_empty
    apply List.eq_nil_iff_forall_not_mem.mpr
    intro i hi
    exact hnone i (mem_namedClasses.mp hi)

/-- A class is found unless no class has the name, and it is the first of those with the most children. -/
theorem findClass_first_largest (t : Tree) (name : String) :
    (∀ fault, t.findClass name = .error fault ↔ fault = .classNotFound name ∧ ∀ i, ¬ t.IsClass name i) ∧
      ((∃ i, t.findClass name = .ok i) ↔ ∃ i, t.IsClass name i) ∧
      ∀ i, t.findClass name = .ok i ↔ t.IsDefinition name i := by
  refine ⟨fun _ => findClass_eq_error_iff, ?_, fun _ => findClass_eq_ok_iff⟩
  constructor
  · rintro ⟨i, hi⟩
    exact ⟨i, (findClass_eq_ok_iff.mp hi).isClass⟩
  · rintro ⟨i, hi⟩
    obtain ⟨j, hj, -⟩ := exists_findClass (List.ne_nil_of_mem (mem_namedClasses.mpr hi))
    exact ⟨j, hj⟩

/-- A declaration, and two definitions of the same size, one in a namespace and one outside. -/
example : (ofEntries [⟨"class_type", 0x1, 0, [("name", "Led")]⟩, ⟨"namespace", 0x2, 0, []⟩,
    ⟨"class_type", 0x3, 1, [("name", "Led")]⟩, ⟨"member", 0x4, 2, []⟩,
    ⟨"class_type", 0x5, 0, [("name", "Led")]⟩, ⟨"member", 0x6, 1, []⟩]).findClass "Led" = .ok 2 := by
  decide +kernel

/-- No two of the sizes are the largest. -/
def OneLargest (sizes : List Nat) : Prop := ∀ n ∈ sizes, (∀ m ∈ sizes, m ≤ n) → sizes.count n = 1

instance : DecidablePred OneLargest := fun sizes =>
  inferInstanceAs (Decidable (∀ n ∈ sizes, (∀ m ∈ sizes, m ≤ n) → sizes.count n = 1))

/-- How many children the classes of this name have. -/
def classSizes (t : Tree) (name : String) : List Nat := (t.namedClasses name).map fun i => (t.children i).length

theorem FirstLargest.lt_of_oneLargest (h : t.FirstLargest l i)
    (hone : OneLargest (l.map fun j => (t.children j).length)) :
    ∀ j ∈ l, j ≠ i → (t.children j).length < (t.children i).length := by
  have hcount := hone _ (List.mem_map_of_mem h.mem) (List.forall_mem_map.mpr h.le)
  obtain ⟨before, after, rfl, hbefore, hafter⟩ := h
  intro j hj hne
  rcases List.mem_append.mp hj with hj | hj
  · exact hbefore j hj
  · have hj := (List.mem_cons.mp hj).resolve_left hne
    apply Nat.lt_of_le_of_ne (hafter j hj)
    intro hsame
    -- Otherwise the largest size would be counted for both classes.
    have hpos : 0 < (after.map fun k => (t.children k).length).count (t.children i).length :=
      List.count_pos_iff.mpr (hsame ▸ List.mem_map_of_mem (f := fun k => (t.children k).length) hj)
    rw [List.map_append, List.map_cons, List.count_append, List.count_cons_self] at hcount
    omega

theorem findClass_of_forall_lt (hi : i ∈ t.namedClasses name)
    (h : ∀ j ∈ t.namedClasses name, j ≠ i → (t.children j).length < (t.children i).length) :
    t.findClass name = .ok i := by
  obtain ⟨j, hj, hfirst⟩ := exists_findClass (List.ne_nil_of_mem hi)
  by_cases hji : j = i
  · exact hji ▸ hj
  · have hlt := h j hfirst.mem hji
    have hle := hfirst.le i hi
    omega

namespace Renamed

variable {place offset : Nat → Nat} {t u : Tree} (h : t.Renamed place offset u)
include h

theorem perm_places : u.places.Perm (t.places.map place) := by
  have hnodup : (t.places.map place).Nodup := List.Nodup.map h.injective List.nodup_range
  have hsubset : t.places.map place ⊆ u.places := by
    intro j hj
    obtain ⟨i, hi, rfl⟩ := List.mem_map.mp hj
    have hlt : i < t.nodes.size := List.mem_range.mp hi
    rcases h.node_cases i with ⟨ht, -⟩ | ⟨n, n', -, hu, -⟩
    · rw [Array.getElem?_eq_getElem hlt] at ht
      cases ht
    · exact List.mem_range.mpr (Array.getElem?_eq_some_iff.mp hu).1
  apply List.Perm.symm
  apply (hnodup.subperm hsubset).perm_of_length_le
  simp [places, h.size]

theorem perm_namedClasses (name : String) : (u.namedClasses name).Perm ((t.namedClasses name).map place) := by
  have htagged : (u.tagged "class_type").Perm ((t.tagged "class_type").map place) := by
    rw [tagged, tagged, ← filter_map_of_comp (h.hasTag "class_type")]
    exact h.perm_places.filter _
  have hname (i : Nat) : decide (u.name? (place i) = some name) = decide (t.name? i = some name) := by
    rw [h.name?]
  rw [namedClasses, namedClasses, ← filter_map_of_comp (p := fun i => decide (u.name? i = some name)) hname]
  exact htagged.filter _

theorem findClass (hone : OneLargest (t.classSizes name)) :
    u.findClass name = (t.findClass name).map place := by
  have hperm := h.perm_namedClasses name
  cases hfound : t.findClass name with
  | error fault =>
    have hnone : t.namedClasses name = [] := by
      by_contra hsome
      obtain ⟨i, hi, -⟩ := exists_findClass hsome
      rw [hfound] at hi
      cases hi
    rw [hnone, List.map_nil, List.perm_nil] at hperm
    rw [findClass_of_empty hperm, classNotFound_of_findClass hfound]
    rfl
  | ok i =>
    have hfirst := firstLargest_of_findClass hfound
    have hlt := hfirst.lt_of_oneLargest hone
    apply findClass_of_forall_lt
    · exact hperm.mem_iff.mpr (List.mem_map_of_mem hfirst.mem)
    · intro k hk hne
      obtain ⟨j, hj, rfl⟩ := List.mem_map.mp (hperm.mem_iff.mp hk)
      rw [h.children, h.children, List.length_map, List.length_map]
      exact hlt j hj fun hji => hne (congrArg place hji)

end Renamed

end ScriptBinding.Dump.Tree
