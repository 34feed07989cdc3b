import Mathlib.Data.List.Sort
import ScriptBinding.Dump.Tree

/-!
Forests as nested data, and the forest that the lists of children of a tree unfold into. The lists of a tree
that grows by one node at a time agree with the parents of its nodes, and if these parents are those of a
forest numbered in preorder, the tree unfolds into that forest.
-/

namespace ScriptBinding.Dump

/-- An ordered forest: its first tree, by the root and the forest below it, and the trees after it. -/
inductive Forest (α : Type) where
  | nil
  | cons (root : α) (below rest : Forest α)
deriving DecidableEq

namespace Forest

variable {α β : Type}

def preorder : Forest α → List α
  | nil => []
  | cons root below rest => root :: (below.preorder ++ rest.preorder)

def map (f : α → β) : Forest α → Forest β
  | nil => nil
  | cons root below rest => cons (f root) (below.map f) (rest.map f)

def roots : Forest α → List α
  | nil => []
  | cons root _ rest => root :: rest.roots

def size : Forest α → Nat
  | nil => 0
  | cons _ below rest => 1 + below.size + rest.size

def height : Forest α → Nat
  | nil => 0
  | cons _ below rest => max (below.height + 1) rest.height

def places (start : Nat) : Forest α → Forest Nat
  | nil => nil
  | cons _ below rest => cons start (below.places (start + 1)) (rest.places (start + 1 + below.size))

theorem preorder_places (f : Forest α) (start : Nat) :
    (f.places start).preorder = List.range' start f.size := by
  induction f generalizing start with
  | nil => rfl
  | cons root below rest ihb ihr =>
    have h : List.range' start (1 + below.size + rest.size) =
        start :: (List.range' (start + 1) below.size ++
          List.range' (start + 1 + below.size) rest.size) := by
      rw [Nat.add_assoc, Nat.add_comm 1, List.range'_succ, ← List.range'_append_1]
    simp only [places, preorder, size, ihb, ihr, h]

end Forest

/-- The nodes at some places, with their children and all further nodes below them, form a forest of
places. -/
inductive Tree.Unfolds (t : Tree) : List Nat → Forest Nat → Prop
  | nil : Unfolds t [] .nil
  | cons {i : Nat} {rest : List Nat} {below after : Forest Nat} :
    Unfolds t (t.children i) below → Unfolds t rest after → Unfolds t (i :: rest) (.cons i below after)

namespace Tree

variable {t : Tree}

theorem mem_places {i : Nat} : i ∈ t.places ↔ i < t.size := List.mem_range

theorem lt_size_of_parent {i p : Nat} (h : t.parent? i = some p) : i < t.size := by
  by_contra hi
  have hn : t.nodes[i]? = none := Array.getElem?_eq_none (Nat.not_lt.mp hi)
  simp [parent?, hn] at h

/-- Every node is where its parent says: once in the list of its children, or among the roots. -/
structure Linked (t : Tree) : Prop where
  size_below : t.below.size = t.size
  children_eq : ∀ i, t.children i = t.places.filter fun j => t.parent? j = some i
  roots_eq : t.roots = t.places.filter fun j => t.parent? j = none

section Add

variable (t : Tree) (e : Entry) {around : List Nat}

theorem parent?_add (j : Nat) :
    (t.add e around).parent? j = if j = t.size then around.head? else t.parent? j := by
  rw [parent?, add, Array.getElem?_push, ← size]
  by_cases hj : j = t.size
  · rw [if_pos hj, if_pos hj]
    rfl
  · rw [if_neg hj, if_neg hj]
    rfl

theorem filter_places_add (parent : Option Nat) :
    ((t.add e around).places.filter fun j => (t.add e around).parent? j = parent) =
      (t.places.filter fun j => t.parent? j = parent) ++ if around.head? = parent then [t.size] else [] := by
  have hplaces : (t.add e around).places = t.places ++ [t.size] := by
    rw [places, size, add, Array.size_push, List.range_succ]
    rfl
  have hold : (t.places.filter fun j => (t.add e around).parent? j = parent) =
      t.places.filter fun j => t.parent? j = parent := by
    apply List.filter_congr
    intro j hj
    rw [parent?_add, if_neg (Nat.ne_of_lt (mem_places.mp hj))]
  rw [hplaces, List.filter_append, hold, List.filter_singleton, parent?_add, if_pos rfl]
  simp

theorem children_add (hb : t.below.size = t.size) (ha : ∀ p ∈ around, p < t.size) (i : Nat) :
    (t.add e around).children i = t.children i ++ if around.head? = some i then [t.size] else [] := by
  have hpush (below : Array (List Nat)) : (below.push [])[i]?.getD [] = below[i]?.getD [] := by
    rw [Array.getElem?_push]
    split_ifs with hi
    · simp [hi]
    · rfl
  rw [children, children, add, hpush]
  cases around with
  | nil => simp
  | cons p around =>
    have hp : p < t.below.size := hb ▸ ha p (by simp)
    simp only [List.head?_cons, Option.elim_some, Array.getElem?_modify, Option.some.injEq]
    by_cases hi : p = i
    · subst hi
      rw [if_pos rfl, if_pos rfl, Array.getElem?_eq_getElem hp]
      rfl
    · rw [if_neg hi, if_neg hi, List.append_nil]

end Add

theorem Linked.add {t : Tree} (h : t.Linked) (e : Entry) {around : List Nat}
    (ha : ∀ p ∈ around, p < t.size) : (t.add e around).Linked where
  size_below := by
    rw [Tree.add, size, Array.size_push, Array.size_push, ← size, ← h.size_below]
    cases around.head? <;> simp
  children_eq i := by
    rw [children_add t e h.size_below ha, filter_places_add, h.children_eq]
  roots_eq := by
    rw [filter_places_add, ← h.roots_eq]
    cases around <;> simp [Tree.add, size]

section

variable {t : Tree} (h : t.Linked)
include h

theorem Linked.mem_children {i p : Nat} : i ∈ t.children p ↔ t.parent? i = some p := by
  simp only [h.children_eq, List.mem_filter, mem_places, decide_eq_true_eq]
  exact ⟨fun h => h.2, fun h => ⟨lt_size_of_parent h, h⟩⟩

theorem Linked.mem_roots {i : Nat} : i ∈ t.roots ↔ i < t.size ∧ t.parent? i = none := by
  simp [h.roots_eq, mem_places]

theorem Linked.pairwise_children (i : Nat) : (t.children i).Pairwise (· < ·) := by
  rw [h.children_eq]
  exact List.Pairwise.filter _ List.pairwise_lt_range

theorem Linked.pairwise_roots : t.roots.Pairwise (· < ·) := by
  rw [h.roots_eq]
  exact List.Pairwise.filter _ List.pairwise_lt_range

end

/-- The tree of nodes that know their parents. -/
def ofNodes (nodes : Array Node) : Tree :=
  let childrenOf (parent : Option Nat) : List Nat :=
    (List.range nodes.size).filter fun j => nodes[j]?.bind (·.parent?) = parent
  ⟨nodes, (Array.range nodes.size).map fun i => childrenOf (some i), childrenOf none⟩

theorem Linked.eq_ofNodes {t : Tree} (h : t.Linked) : t = .ofNodes t.nodes := by
  obtain ⟨nodes, below, roots⟩ := t
  have hroots := h.roots_eq
  have hbelow : below = (ofNodes nodes).below := by
    have hsize : below.size = nodes.size := h.size_below
    apply Array.ext
    · simp [ofNodes, hsize]
    · intro i hi _
      have hchildren := h.children_eq i
      rw [children, Array.getElem?_eq_getElem hi, Option.getD_some] at hchildren
      simp only [hchildren, ofNodes, Array.getElem_map, Array.getElem_range]
      rfl
  rw [hbelow]
  exact congrArg (Tree.mk nodes _) hroots

/-- The nodes from `start` on have the parents that they have in a forest numbered in preorder, the roots
having the parent `p`. -/
def Nested {α : Type} (t : Tree) (p : Option Nat) (start : Nat) : Forest α → Prop
  | .nil => True
  | .cons _ below rest =>
    t.parent? start = p ∧ t.Nested (some start) (start + 1) below ∧
      t.Nested p (start + 1 + below.size) rest

variable {α : Type} {p : Option Nat} {start : Nat} {f : Forest α}

theorem Nested.parent (h : t.Nested p start f) {i : Nat} (hs : start ≤ i) (he : i < start + f.size) :
    t.parent? i = p ∨ ∃ q, t.parent? i = some q ∧ start ≤ q ∧ q < i := by
  induction f generalizing p start with
  | nil => simp only [Forest.size] at he; omega
  | cons root below rest ihb ihr =>
    simp only [Forest.size] at he
    obtain ⟨hp, hb, hr⟩ := h
    by_cases hi : i = start
    · exact .inl (hi ▸ hp)
    by_cases hib : i < start + 1 + below.size
    · right
      rcases ihb hb (by omega) hib with h | ⟨q, h, hq, hqi⟩
      · exact ⟨start, h, by omega, by omega⟩
      · exact ⟨q, h, by omega, hqi⟩
    · rcases ihr hr (by omega) (by omega) with h | ⟨q, h, hq, hqi⟩
      · exact .inl h
      · exact .inr ⟨q, h, by omega, hqi⟩

theorem Nested.mem_roots (h : t.Nested p start f) (hp : ∀ q, p = some q → q < start) {i : Nat} :
    i ∈ (f.places start).roots ↔ start ≤ i ∧ i < start + f.size ∧ t.parent? i = p := by
  induction f generalizing p start with
  | nil =>
    simp only [Forest.places, Forest.roots, List.not_mem_nil, false_iff, Forest.size]
    rintro ⟨h₁, h₂, -⟩
    omega
  | cons root below rest ihb ihr =>
    obtain ⟨hs, hb, hr⟩ := h
    simp only [Forest.places, Forest.roots, Forest.size, List.mem_cons]
    rw [ihr hr (fun q hq => by have := hp q hq; omega)]
    constructor
    · rintro (rfl | ⟨h₁, h₂, h₃⟩)
      · exact ⟨Nat.le_refl _, by omega, hs⟩
      · exact ⟨by omega, by omega, h₃⟩
    · rintro ⟨h₁, h₂, h₃⟩
      by_cases hi : i = start
      · exact .inl hi
      by_cases hib : i < start + 1 + below.size
      · -- A node below the first root has a parent in the forest.
        obtain ⟨q, hq, hsq⟩ : ∃ q, t.parent? i = some q ∧ start ≤ q := by
          rcases hb.parent (by omega) hib with h | ⟨q, h, hq, -⟩
          · exact ⟨start, h, Nat.le_refl _⟩
          · exact ⟨q, h, by omega⟩
        have := hp q (h₃.symm.trans hq)
        omega
      · exact .inr ⟨by omega, by omega, h₃⟩

theorem pairwise_roots_places (f : Forest α) (start : Nat) :
    (f.places start).roots.Pairwise (· < ·) ∧ ∀ i ∈ (f.places start).roots, start ≤ i := by
  induction f generalizing start with
  | nil => simp [Forest.places, Forest.roots]
  | cons root below rest _ ihr =>
    obtain ⟨hw, hl⟩ := ihr (start + 1 + below.size)
    simp only [Forest.places, Forest.roots, List.pairwise_cons, List.mem_cons, forall_eq_or_imp]
    exact ⟨⟨fun i hi => by have := hl i hi; omega, hw⟩, Nat.le_refl _,
      fun i hi => by have := hl i hi; omega⟩

/-- A tree unfolds into the forest that its parents describe, if no other node has a parent in it. -/
theorem Nested.unfolds (ht : t.Linked) (h : t.Nested p start f) (hp : ∀ q, p = some q → q < start)
    (hout : ∀ i q, t.parent? i = some q → start ≤ q → q < start + f.size →
      start ≤ i ∧ i < start + f.size) :
    t.Unfolds (f.places start).roots (f.places start) := by
  induction f generalizing p start with
  | nil => exact .nil
  | cons root below rest ihb ihr =>
    obtain ⟨hs, hb, hr⟩ := h
    simp only [Forest.size] at hout
    have hrest : ∀ q, p = some q → q < start + 1 + below.size :=
      fun q hq => by have := hp q hq; omega
    -- Between the parts, a parent below the first root belongs to a node below it.
    have hbelow : ∀ i q, t.parent? i = some q → start ≤ q → q < start + 1 + below.size →
        start + 1 ≤ i ∧ i < start + 1 + below.size := by
      intro i q hi hq hq'
      obtain ⟨h₁, h₂⟩ := hout i q hi hq (by omega)
      constructor
      · by_contra hlt
        obtain rfl : i = start := by omega
        have := hp q (hs.symm.trans hi)
        omega
      · by_contra hge
        rcases hr.parent (i := i) (by omega) (by omega) with h | ⟨q', h, hq'', -⟩
        · have := hp q (h.symm.trans hi)
          omega
        · obtain rfl : q' = q := Option.some.inj (h.symm.trans hi)
          omega
    have hchildren : t.children start = (below.places (start + 1)).roots := by
      apply (ht.pairwise_children start).eq_of_mem_iff (pairwise_roots_places below _).1
      intro i
      rw [ht.mem_children, hb.mem_roots (fun q hq => by obtain rfl := Option.some.inj hq; omega)]
      constructor
      · intro hi
        obtain ⟨h₁, h₂⟩ := hbelow i start hi (Nat.le_refl _) (by omega)
        exact ⟨h₁, h₂, hi⟩
      · exact fun h => h.2.2
    refine .cons (hchildren ▸ ihb hb ?_ ?_) (ihr hr hrest ?_)
    · intro q hq
      obtain rfl := Option.some.inj hq
      omega
    · exact fun i q hi hq hq' => hbelow i q hi (by omega) hq'
    · intro i q hi hq hq'
      obtain ⟨h₁, h₂⟩ := hout i q hi (by omega) (by omega)
      refine ⟨?_, by omega⟩
      by_contra hlt
      rcases Nat.lt_or_ge start i with hgt | hle
      · rcases hb.parent (i := i) (by omega) (by omega) with h | ⟨q', h, -, hq''⟩
        · have := Option.some.inj (h.symm.trans hi)
          omega
        · obtain rfl : q' = q := Option.some.inj (h.symm.trans hi)
          omega
      · obtain rfl : i = start := by omega
        have := hp q (hs.symm.trans hi)
        omega

theorem Nested.unfolds_roots (ht : t.Linked) (h : t.Nested none 0 f) (hs : f.size = t.size) :
    t.Unfolds t.roots (f.places 0) := by
  have hroots : t.roots = (f.places 0).roots := by
    apply ht.pairwise_roots.eq_of_mem_iff (pairwise_roots_places f 0).1
    intro i
    rw [ht.mem_roots, h.mem_roots (by simp), hs]
    simp
  rw [hroots]
  refine h.unfolds ht (by simp) fun i q hi _ _ => ⟨Nat.zero_le _, ?_⟩
  have := lt_size_of_parent hi
  omega

end Tree

end ScriptBinding.Dump
