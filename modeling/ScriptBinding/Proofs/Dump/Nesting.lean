import ScriptBinding.Proofs.Dump.Forest

/-!
The forest that the depths of a sequence of entries describe. The parent of a node is the nearest node
before it of a smaller depth: a node that is no longer open lies behind an open one of no greater depth,
so it is never the nearest for an entry to come. Parents of this kind never cross, which makes the nodes
below each node a contiguous part of the document.
-/

namespace ScriptBinding.Dump

def depthAt (nodes : Array Node) (i : Nat) : Nat := (nodes[i]?.map (·.depth)).getD 0

namespace Tree

variable (t : Tree)

def depth (i : Nat) : Nat := depthAt t.nodes i

/-- Node `p` is the nearest one before node `i` whose depth is smaller. -/
def Encloses (p i : Nat) : Prop :=
  p < i ∧ t.depth p < t.depth i ∧ ∀ j, p < j → j < i → t.depth i ≤ t.depth j

/-- The nodes in document order, the lists of children and the parents describe the same forest. -/
structure IsForest : Prop where
  parent_iff : ∀ i < t.size, ∀ p, t.parent? i = some p ↔ t.Encloses p i
  mem_roots_iff : ∀ i, i ∈ t.roots ↔ i < t.size ∧ ∀ j < i, t.depth i ≤ t.depth j
  count_children : ∀ i p, (t.children p).count i = if t.parent? i = some p then 1 else 0
  children_ascend : ∀ p, (t.children p).Pairwise (· < ·)
  roots_ascend : t.roots.Pairwise (· < ·)
  preorder_roots : ∃ f, t.Unfolds t.roots f ∧ f.preorder = List.range t.size

end Tree

def nearest? (nodes : Array Node) (depth : Nat) : Nat → Option Nat
  | 0 => none
  | i + 1 => if nodes[i]?.any (·.depth < depth) then some i else nearest? nodes depth i

section Nearest

variable {nodes : Array Node} {depth : Nat}

theorem nearest?_eq_some {i p : Nat} (hi : i ≤ nodes.size) :
    nearest? nodes depth i = some p ↔ p < i ∧ depthAt nodes p < depth ∧
      ∀ j, p < j → j < i → depth ≤ depthAt nodes j := by
  induction i with
  | zero => simp [nearest?]
  | succ i ih =>
    obtain ⟨n, hn⟩ : ∃ n, nodes[i]? = some n := ⟨nodes[i], Array.getElem?_eq_getElem (by omega)⟩
    have hd : depthAt nodes i = n.depth := by simp [depthAt, hn]
    simp only [nearest?, hn, Option.any_some, decide_eq_true_eq]
    split_ifs with h
    · constructor
      · rintro ⟨rfl⟩
        exact ⟨Nat.lt_succ_self p, by omega, fun j hj hj' => by omega⟩
      · rintro ⟨hp, hpd, hj⟩
        by_contra hne
        have hpi : p ≠ i := fun h => hne (congrArg some h.symm)
        have := hj i (by omega) (Nat.lt_succ_self i)
        omega
    · rw [ih (by omega)]
      constructor
      · rintro ⟨hp, hpd, hj⟩
        refine ⟨by omega, hpd, fun j hpj hji => ?_⟩
        rcases Nat.lt_succ_iff_lt_or_eq.mp hji with hlt | rfl
        · exact hj j hpj hlt
        · omega
      · rintro ⟨hp, hpd, hj⟩
        have hpi : p ≠ i := by rintro rfl; omega
        exact ⟨by omega, hpd, fun j hpj hji => hj j hpj (by omega)⟩

theorem nearest?_eq_none {i : Nat} (hi : i ≤ nodes.size) :
    nearest? nodes depth i = none ↔ ∀ j < i, depth ≤ depthAt nodes j := by
  induction i with
  | zero => simp [nearest?]
  | succ i ih =>
    obtain ⟨n, hn⟩ : ∃ n, nodes[i]? = some n := ⟨nodes[i], Array.getElem?_eq_getElem (by omega)⟩
    have hd : depthAt nodes i = n.depth := by simp [depthAt, hn]
    simp only [nearest?, hn, Option.any_some, decide_eq_true_eq]
    split_ifs with h
    · simp only [false_iff, not_forall]
      exact ⟨i, Nat.lt_succ_self i, by omega⟩
    · rw [ih (by omega)]
      constructor
      · intro hj j hji
        rcases Nat.lt_succ_iff_lt_or_eq.mp hji with hlt | rfl
        · exact hj j hlt
        · omega
      · exact fun hj j hji => hj j (by omega)

theorem nearest?_push (n : Node) {i : Nat} (hi : i ≤ nodes.size) :
    nearest? (nodes.push n) depth i = nearest? nodes depth i := by
  induction i with
  | zero => rfl
  | succ i ih =>
    have hn : (nodes.push n)[i]? = nodes[i]? := by
      rw [Array.getElem?_push, if_neg (by omega)]
    simp only [nearest?, hn, ih (by omega)]

end Nearest

theorem dropWhile_dropWhile {α : Type} {p q : α → Bool} (h : ∀ a, p a = true → q a = true)
    (l : List α) : (l.dropWhile p).dropWhile q = l.dropWhile q := by
  induction l with
  | nil => rfl
  | cons a l ih =>
    cases hp : p a with
    | true => rw [List.dropWhile_cons_of_pos hp, List.dropWhile_cons_of_pos (h a hp), ih]
    | false => rw [List.dropWhile_cons_of_neg (by simp [hp])]

theorem dropWhile_congr {α : Type} {p q : α → Bool} {l : List α} (h : ∀ a ∈ l, p a = q a) :
    l.dropWhile p = l.dropWhile q := by
  induction l with
  | nil => rfl
  | cons a l ih =>
    have ha := h a (by simp)
    have hl := ih fun b hb => h b (by simp [hb])
    simp only [List.dropWhile_cons, ha, hl]

namespace Linking

def around (l : Linking) (depth : Nat) : List Nat :=
  l.opened.dropWhile fun i => l.nodes[i]?.all (depth ≤ ·.depth)

theorem nodes_next (l : Linking) (e : Entry) :
    (l.next e).nodes = l.nodes.push { e with ancestors := l.around e.depth } := rfl

theorem getElem?_next_of_lt {l : Linking} (e : Entry) {i : Nat} (hi : i < l.nodes.size) :
    (l.next e).nodes[i]? = l.nodes[i]? := by
  rw [nodes_next, Array.getElem?_push, if_neg (by omega)]

theorem getElem?_next_size (l : Linking) (e : Entry) :
    (l.next e).nodes[l.nodes.size]? = some { e with ancestors := l.around e.depth } := by
  rw [nodes_next, Array.getElem?_push, if_pos rfl]

theorem around_next_of_lt (l : Linking) {e : Entry} {depth : Nat} (h : e.depth < depth) :
    (l.next e).around depth = l.nodes.size :: l.around e.depth := by
  have hopened : (l.next e).opened = l.nodes.size :: l.around e.depth := rfl
  rw [Linking.around, hopened, List.dropWhile_cons_of_neg (by simp [getElem?_next_size, h])]

/-- What an entry closes is not around an entry of a depth that is not greater either. -/
theorem around_next_of_le {l : Linking} (hl : ∀ i ∈ l.opened, i < l.nodes.size) {e : Entry} {depth : Nat}
    (h : depth ≤ e.depth) : (l.next e).around depth = l.around depth := by
  have hopened : (l.next e).opened = l.nodes.size :: l.around e.depth := rfl
  have hsub : ∀ i ∈ l.around e.depth, i < l.nodes.size :=
    fun i hi => hl i ((List.dropWhile_sublist _).subset hi)
  have hclosed : ∀ i : Nat, l.nodes[i]?.all (e.depth ≤ ·.depth) = true →
      l.nodes[i]?.all (depth ≤ ·.depth) = true := by
    intro i hi
    cases hn : l.nodes[i]? with
    | none => rfl
    | some n =>
      simp only [hn, Option.all_some, decide_eq_true_eq] at hi ⊢
      omega
  rw [Linking.around, hopened, List.dropWhile_cons_of_pos (by simp [getElem?_next_size, h]),
    dropWhile_congr (fun i hi => by rw [getElem?_next_of_lt e (hsub i hi)]), Linking.around,
    dropWhile_dropWhile hclosed, Linking.around]

/-- The nearest node of a smaller depth is always open. -/
structure Sound (l : Linking) : Prop where
  opened_lt : ∀ i ∈ l.opened, i < l.nodes.size
  linked : l.Linked
  head_around : ∀ depth, (l.around depth).head? = nearest? l.nodes depth l.nodes.size
  parent : ∀ i n, l.nodes[i]? = some n → n.parent? = nearest? l.nodes n.depth i

theorem sound_empty : Sound {} where
  opened_lt := by simp
  linked := ⟨rfl, fun i => by simp [Tree.children, Tree.places, Tree.size], rfl⟩
  head_around := by simp [around, nearest?]
  parent := by simp

theorem Sound.next {l : Linking} (h : l.Sound) (e : Entry) : (l.next e).Sound := by
  have hsize : (l.next e).nodes.size = l.nodes.size + 1 := by rw [nodes_next, Array.size_push]
  have haround : ∀ i ∈ l.around e.depth, i < l.nodes.size :=
    fun i hi => h.opened_lt i ((List.dropWhile_sublist _).subset hi)
  refine ⟨?_, h.linked.add e haround, ?_, ?_⟩
  · intro i hi
    rcases List.mem_cons.mp hi with rfl | hi
    · omega
    · have := haround i hi
      omega
  · intro depth
    rw [hsize, nearest?, getElem?_next_size]
    simp only [Option.any_some, decide_eq_true_eq]
    split_ifs with hd
    · rw [around_next_of_lt l hd]
      rfl
    · rw [around_next_of_le h.opened_lt (by omega), nodes_next, nearest?_push _ (Nat.le_refl _)]
      exact h.head_around depth
  · intro i n hi
    have hlt : i < l.nodes.size + 1 := hsize ▸ (Array.getElem?_eq_some_iff.mp hi).1
    rcases Nat.lt_succ_iff_lt_or_eq.mp hlt with hlt | rfl
    · rw [getElem?_next_of_lt e hlt] at hi
      rw [nodes_next, nearest?_push _ (by omega)]
      exact h.parent i n hi
    · obtain rfl := Option.some.inj ((getElem?_next_size l e).symm.trans hi)
      rw [nodes_next, nearest?_push _ (Nat.le_refl _)]
      exact h.head_around e.depth

theorem Sound.foldl {l : Linking} (h : l.Sound) (entries : List Entry) :
    (entries.foldl Linking.next l).Sound := by
  induction entries generalizing l with
  | nil => exact h
  | cons e entries ih => exact ih (h.next e)

end Linking

namespace Tree

def ParentsNearest (t : Tree) : Prop :=
  ∀ i < t.size, t.parent? i = nearest? t.nodes (t.depth i) i

theorem parentsNearest_ofEntries (entries : List Entry) : (ofEntries entries).ParentsNearest := by
  intro i hi
  have hn : (ofEntries entries).nodes[i]? = some (ofEntries entries).nodes[i] :=
    Array.getElem?_eq_getElem hi
  have h := (Linking.sound_empty.foldl entries).parent i _ hn
  simp only [parent?, depth, depthAt, hn, Option.bind_some, Option.map_some, Option.getD_some]
  exact h

theorem linked_ofEntries (entries : List Entry) : (ofEntries entries).Linked :=
  (Linking.sound_empty.foldl entries).linked

theorem exists_first (P : Nat → Prop) {n : Nat} (hn : 0 < n) :
    ∃ m < n, (∀ k < m, ¬ P k) ∧ (m + 1 < n → P m) := by
  classical
  have hex : ∃ m, n ≤ m + 1 ∨ P m := ⟨n, .inl (by omega)⟩
  refine ⟨Nat.find hex, ?_, fun k hk hp => Nat.find_min hex hk (.inr hp), fun hlt => ?_⟩
  · have := Nat.find_min' hex (m := n - 1) (.inl (by omega))
    omega
  · exact (Nat.find_spec hex).resolve_left (by omega)

section Nesting

variable {t : Tree} (h : t.ParentsNearest)
include h

theorem ParentsNearest.encloses_iff {i : Nat} (hi : i < t.size) (p : Nat) :
    t.parent? i = some p ↔ t.Encloses p i := by
  have hsize : i ≤ t.nodes.size := Nat.le_of_lt hi
  rw [h i hi, nearest?_eq_some hsize]
  rfl

theorem ParentsNearest.eq_none_iff {i : Nat} (hi : i < t.size) :
    t.parent? i = none ↔ ∀ j < i, t.depth i ≤ t.depth j := by
  have hsize : i ≤ t.nodes.size := Nat.le_of_lt hi
  rw [h i hi, nearest?_eq_none hsize]
  rfl

theorem ParentsNearest.parent_lt {i p : Nat} (hp : t.parent? i = some p) : p < i :=
  ((h.encloses_iff (lt_size_of_parent hp) p).mp hp).1

theorem ParentsNearest.le_parent {i j p : Nat} (hp : t.parent? i = some p) (hj : p < j) (hji : j < i) :
    ∃ q, t.parent? j = some q ∧ p ≤ q := by
  have hi := lt_size_of_parent hp
  have hjs : j < t.size := by omega
  obtain ⟨-, hd, hb⟩ := (h.encloses_iff hi p).mp hp
  have hij := hb j hj hji
  cases hq : t.parent? j with
  | none =>
    have := (h.eq_none_iff hjs).mp hq p hj
    omega
  | some q =>
    refine ⟨q, rfl, ?_⟩
    obtain ⟨-, -, hb'⟩ := (h.encloses_iff hjs q).mp hq
    by_contra hlt
    have := hb' p (by omega) hj
    omega

/-- A part of the document in which every parent is `p` or in the part itself is a numbered forest. -/
theorem ParentsNearest.exists_nested (n : Nat) (p : Option Nat) (start : Nat)
    (hpart : ∀ i, start ≤ i → i < start + n →
      t.parent? i = p ∨ ∃ q, t.parent? i = some q ∧ start ≤ q) :
    ∃ f : Forest Nat, t.Nested p start f ∧ f.size = n := by
  induction n using Nat.strong_induction_on generalizing p start with
  | _ n ih =>
    rcases Nat.eq_zero_or_pos n with rfl | hn
    · exact ⟨.nil, trivial, rfl⟩
    have hs : t.parent? start = p := by
      rcases hpart start (Nat.le_refl _) (by omega) with hs | ⟨q, hq, hsq⟩
      · exact hs
      · have := h.parent_lt hq
        omega
    -- The nodes below the first one end at the next one with the same parent.
    obtain ⟨m, hm, hinner, hnext⟩ := exists_first (fun k => t.parent? (start + 1 + k) = p) hn
    obtain ⟨below, hbelow, rfl⟩ := ih m (by omega) (some start) (start + 1) (by
      intro i hi hi'
      rcases hpart i (by omega) (by omega) with hp | ⟨q, hq, hsq⟩
      · exact absurd (by rwa [show start + 1 + (i - (start + 1)) = i by omega])
          (hinner (i - (start + 1)) (by omega))
      · rcases Nat.eq_or_lt_of_le hsq with rfl | hlt
        · exact .inl hq
        · exact .inr ⟨q, hq, hlt⟩)
    obtain ⟨rest, hrest, hsize⟩ := ih (n - (1 + below.size)) (by omega) p
      (start + 1 + below.size) (by
        intro i hi hi'
        have he := hnext (by omega)
        rcases hpart i (by omega) (by omega) with hp | ⟨q, hq, hsq⟩
        · exact .inl hp
        · refine .inr ⟨q, hq, ?_⟩
          by_contra hlt
          -- Otherwise the parent would lie before the next node, whose own parent is `p`.
          obtain ⟨r, hr, hqr⟩ : ∃ r, t.parent? (start + 1 + below.size) = some r ∧ q ≤ r := by
            rcases Nat.eq_or_lt_of_le hi with rfl | hlt'
            · exact ⟨q, hq, Nat.le_refl _⟩
            · exact h.le_parent hq (by omega) hlt'
          have := h.parent_lt (hs.trans (he.symm.trans hr))
          omega)
    exact ⟨.cons start below rest, ⟨hs, hbelow, hrest⟩, by simp only [Forest.size]; omega⟩

theorem ParentsNearest.exists_unfolds (hl : t.Linked) : ∃ f, t.Unfolds t.roots f ∧ f.preorder = List.range t.size := by
  obtain ⟨f, hf, hsize⟩ := h.exists_nested t.size none 0 (by
    intro i _ _
    cases hp : t.parent? i with
    | none => exact .inl rfl
    | some q => exact .inr ⟨q, rfl, Nat.zero_le _⟩)
  exact ⟨f.places 0, hf.unfolds_roots hl hsize, by
    rw [Forest.preorder_places, hsize, List.range_eq_range']⟩

theorem ParentsNearest.isForest (hl : t.Linked) : t.IsForest where
  parent_iff i hi p := h.encloses_iff hi p
  mem_roots_iff i := by
    rw [hl.mem_roots]
    exact and_congr_right fun hi => h.eq_none_iff hi
  count_children i p := by
    have hnodup : (t.children p).Nodup := (hl.pairwise_children p).imp Nat.ne_of_lt
    rw [hnodup.count]
    simp only [hl.mem_children]
  children_ascend := hl.pairwise_children
  roots_ascend := hl.pairwise_roots
  preorder_roots := h.exists_unfolds hl

end Nesting

end Tree

end ScriptBinding.Dump
