import Mathlib.Data.List.Find
import Mathlib.Data.List.TakeWhile
import ScriptBinding.Proofs.Dump.Nesting
import ScriptBinding.Proofs.Dump.Renaming

/-!
Trees side by side. An outermost entry closes whatever is open, so the nodes from it on lie beside those
before it, and neither know of the other. Without a common offset the two may change places.
-/

namespace ScriptBinding.Dump

/-- The node with `k` nodes before those it was among. -/
def Node.shift (k : Nat) (n : Node) : Node := { n with ancestors := n.ancestors.map (k + ·) }

/-- Every node lies in nodes before it. -/
def InOrder (nodes : Array Node) : Prop :=
  ∀ (i : Nat) (n : Node), nodes[i]? = some n → ∀ p ∈ n.ancestors, p < i

namespace InOrder

theorem push {nodes : Array Node} (h : InOrder nodes) {n : Node} (hn : ∀ p ∈ n.ancestors, p < nodes.size) :
    InOrder (nodes.push n) := by
  intro i m hm
  rw [Array.getElem?_push] at hm
  split_ifs at hm with hi
  · obtain rfl := Option.some.inj hm
    exact hi ▸ hn
  · exact h i m hm

theorem append {before nodes : Array Node} (hb : InOrder before) (h : InOrder nodes) :
    InOrder (before ++ nodes.map (·.shift before.size)) := by
  intro i n hn
  rcases Nat.lt_or_ge i before.size with hi | hi
  · rw [Array.getElem?_append_left hi] at hn
    exact hb i n hn
  · obtain ⟨j, rfl⟩ := Nat.exists_eq_add_of_le hi
    rw [Array.getElem?_append_right hi, Nat.add_sub_cancel_left, Array.getElem?_map, Option.map_eq_some_iff] at hn
    obtain ⟨m, hm, rfl⟩ := hn
    intro p hp
    obtain ⟨q, hq, rfl⟩ := List.mem_map.mp hp
    exact Nat.add_lt_add_left (h j m hm q hq) before.size

end InOrder

namespace Linking

theorem inOrder_foldl {l : Linking} (hl : l.Sound) (h : InOrder l.nodes) (entries : List Entry) :
    InOrder (entries.foldl next l).nodes := by
  induction entries generalizing l with
  | nil => exact h
  | cons e entries ih =>
    apply ih (hl.next e)
    rw [nodes_next]
    apply h.push
    intro p hp
    exact hl.opened_lt p ((List.dropWhile_sublist _).subset hp)

/-- Linking `l` with the nodes of `t` before its own. -/
structure Follows (t : Tree) (l l' : Linking) : Prop where
  nodes : l'.nodes = t.nodes ++ l.nodes.map (·.shift t.size)
  opened : l'.opened = l.opened.map (t.size + ·)

variable {t : Tree} {l l' : Linking}

theorem getElem?_append_shift (nodes : Array Node) (i : Nat) :
    (t.nodes ++ nodes.map (·.shift t.size))[t.size + i]? = nodes[i]?.map (·.shift t.size) := by
  have hle : t.nodes.size ≤ t.size + i := Nat.le_add_right t.size i
  have hsub : t.size + i - t.nodes.size = i := Nat.add_sub_cancel_left t.size i
  rw [Array.getElem?_append_right hle, hsub, Array.getElem?_map]

theorem Follows.around (h : Follows t l l') (depth : Nat) : l'.around depth = (l.around depth).map (t.size + ·) := by
  rw [Linking.around, Linking.around, h.opened, h.nodes, List.dropWhile_map]
  apply congrArg
  apply dropWhile_congr
  intro i _
  rw [Function.comp_apply, getElem?_append_shift, Option.all_map]
  rfl

theorem Follows.of_around {e : Entry} (hnodes : l'.nodes = t.nodes ++ l.nodes.map (·.shift t.size))
    (h : l'.around e.depth = (l.around e.depth).map (t.size + ·)) : Follows t (l.next e) (l'.next e) where
  nodes := by
    rw [nodes_next, nodes_next, hnodes, h, Array.map_push, Array.append_push]
    rfl
  opened := by
    have hsize : l'.nodes.size = t.size + l.nodes.size := by
      rw [hnodes, Array.size_append, Array.size_map]
      rfl
    change l'.nodes.size :: l'.around e.depth = (l.nodes.size :: l.around e.depth).map (t.size + ·)
    rw [hsize, h, List.map_cons]

theorem Follows.foldl (h : Follows t l l') (entries : List Entry) :
    Follows t (entries.foldl next l) (entries.foldl next l') := by
  induction entries generalizing l l' with
  | nil => exact h
  | cons e entries ih => exact ih (.of_around h.nodes (h.around e.depth))

theorem around_zero (l : Linking) : l.around 0 = [] := by
  rw [around, List.dropWhile_eq_nil_iff]
  intro i _
  cases l.nodes[i]? <;> simp

end Linking

namespace Tree

structure Sealed (t : Tree) : Prop where
  linked : t.Linked
  inOrder : InOrder t.nodes

/-- The nodes of `t` and behind them those of `u`, with no link between the two. -/
def beside (t u : Tree) : Tree := .ofNodes (t.nodes ++ u.nodes.map (·.shift t.size))

theorem sealed_ofEntries (entries : List Entry) : (ofEntries entries).Sealed where
  linked := linked_ofEntries entries
  inOrder := Linking.inOrder_foldl Linking.sound_empty (by simp [InOrder]) entries

/-- Entries that begin with an outermost one are linked as if they stood alone. -/
theorem ofEntries_append (before : List Entry) {entries : List Entry} (h : ∀ e ∈ entries.head?, e.depth = 0) :
    ofEntries (before ++ entries) = (ofEntries before).beside (ofEntries entries) := by
  have hnodes : (ofEntries (before ++ entries)).nodes =
      (ofEntries before).nodes ++ (ofEntries entries).nodes.map (·.shift (ofEntries before).size) := by
    rw [ofEntries, List.foldl_append]
    cases entries with
    | nil => simp [ofEntries]
    | cons e entries =>
      have hzero : e.depth = 0 := h e rfl
      have hfirst : Linking.Follows (ofEntries before) (Linking.next {} e)
          ((before.foldl Linking.next {}).next e) := by
        apply Linking.Follows.of_around
        · simp [ofEntries]
        · rw [hzero, Linking.around_zero, Linking.around_zero]
          rfl
      exact (hfirst.foldl entries).nodes
  rw [(linked_ofEntries _).eq_ofNodes, hnodes, beside]

theorem parent_lt_of_inOrder {t : Tree} (h : InOrder t.nodes) {i p : Nat} (hp : t.parent? i = some p) : p < i := by
  obtain ⟨n, hn, hparent⟩ := Option.bind_eq_some_iff.mp hp
  exact h i n hn p (List.mem_of_head? hparent)

theorem sealed_ofNodes {nodes : Array Node} (h : InOrder nodes) : (ofNodes nodes).Sealed where
  inOrder := h
  linked := by
    refine ⟨by simp [ofNodes, size], ?_, rfl⟩
    intro i
    rcases Nat.lt_or_ge i nodes.size with hi | hi
    · simp only [children, ofNodes, Array.getElem?_map, Array.getElem?_range, if_pos hi, Option.map_some,
        Option.getD_some]
      rfl
    · -- A node with this parent would lie behind it, outside the tree.
      have hnone : (ofNodes nodes).children i = [] := by
        simp [children, ofNodes, Nat.not_lt.mpr hi]
      rw [hnone]
      apply Eq.symm
      apply List.filter_eq_nil_iff.mpr
      intro j hj
      have hsize : j < nodes.size := mem_places.mp hj
      simp only [decide_eq_true_eq]
      intro hparent
      have hlt := parent_lt_of_inOrder (t := ofNodes nodes) h hparent
      omega

section Beside

variable {t u : Tree}

theorem Sealed.ancestors_lt (h : t.Sealed) {i : Nat} {n : Node} (hn : t.nodes[i]? = some n) :
    ∀ p ∈ n.ancestors, p < t.size := by
  intro p hp
  have hpi := h.inOrder i n hn p hp
  have hi : i < t.size := (Array.getElem?_eq_some_iff.mp hn).1
  omega

theorem Linked.lt_size_of_mem_children (h : t.Linked) {i c : Nat} (hc : c ∈ t.children i) : c < t.size :=
  lt_size_of_parent (h.mem_children.mp hc)

theorem Sealed.children_of_size_le (h : t.Sealed) {i : Nat} (hi : t.size ≤ i) : t.children i = [] := by
  have hbelow : t.below.size ≤ i := h.linked.size_below ▸ hi
  rw [children, Array.getElem?_eq_none hbelow]
  rfl

theorem Sealed.beside (ht : t.Sealed) (hu : u.Sealed) : (t.beside u).Sealed :=
  sealed_ofNodes (ht.inOrder.append hu.inOrder)

theorem size_beside (t u : Tree) : (t.beside u).size = t.size + u.size := by
  rw [Tree.beside, size, ofNodes, Array.size_append, Array.size_map]
  rfl

theorem getElem?_beside_left (u : Tree) {i : Nat} (hi : i < t.size) : (t.beside u).nodes[i]? = t.nodes[i]? :=
  Array.getElem?_append_left hi

theorem getElem?_beside_right (t u : Tree) (i : Nat) :
    (t.beside u).nodes[t.size + i]? = u.nodes[i]?.map (·.shift t.size) :=
  Linking.getElem?_append_shift u.nodes i

theorem parent?_beside_left (u : Tree) {i : Nat} (hi : i < t.size) : (t.beside u).parent? i = t.parent? i := by
  rw [parent?, getElem?_beside_left u hi, parent?]

theorem parent?_beside_right (t u : Tree) (i : Nat) :
    (t.beside u).parent? (t.size + i) = (u.parent? i).map (t.size + ·) := by
  rw [parent?, getElem?_beside_right, parent?]
  cases u.nodes[i]? with
  | none => rfl
  | some n => exact List.head?_map

theorem places_beside (t u : Tree) : (t.beside u).places = t.places ++ u.places.map (t.size + ·) := by
  rw [places, size_beside, List.range_add]
  rfl

theorem filter_places_beside {p q r : Nat → Bool} (hq : ∀ i < t.size, p i = q i)
    (hr : ∀ i, p (t.size + i) = r i) :
    (t.beside u).places.filter p = t.places.filter q ++ (u.places.filter r).map (t.size + ·) := by
  rw [places_beside, List.filter_append, filter_map_of_comp hr]
  apply congrArg (· ++ _)
  apply List.filter_congr
  intro i hi
  exact hq i (mem_places.mp hi)

theorem Sealed.children_beside_left (ht : t.Sealed) (hu : u.Sealed) {i : Nat} (hi : i < t.size) :
    (t.beside u).children i = t.children i := by
  have hright : u.places.filter (fun _ => false) = [] := by simp
  rw [(ht.beside hu).linked.children_eq, ht.linked.children_eq,
    filter_places_beside (q := fun j => t.parent? j = some i) (r := fun _ => false), hright]
  · exact List.append_nil _
  · intro j hj
    rw [parent?_beside_left u hj]
  · intro j
    rw [parent?_beside_right, decide_eq_false_iff_not, Option.map_eq_some_iff]
    rintro ⟨p, -, hp⟩
    omega

theorem Sealed.children_beside_right (ht : t.Sealed) (hu : u.Sealed) (i : Nat) :
    (t.beside u).children (t.size + i) = (u.children i).map (t.size + ·) := by
  have hleft : t.places.filter (fun _ => false) = [] := by simp
  rw [(ht.beside hu).linked.children_eq, hu.linked.children_eq,
    filter_places_beside (q := fun _ => false) (r := fun j => u.parent? j = some i), hleft]
  · exact List.nil_append _
  · intro j hj
    rw [parent?_beside_left u hj, decide_eq_false_iff_not]
    intro hp
    have hlt := parent_lt_of_inOrder ht.inOrder hp
    omega
  · intro j
    have hiff : (u.parent? j).map (t.size + ·) = some (t.size + i) ↔ u.parent? j = some i := by
      simp [Option.map_eq_some_iff]
    rw [parent?_beside_right]
    exact decide_eq_decide.mpr hiff

theorem Sealed.roots_beside (ht : t.Sealed) (hu : u.Sealed) :
    (t.beside u).roots = t.roots ++ u.roots.map (t.size + ·) := by
  rw [(ht.beside hu).linked.roots_eq, ht.linked.roots_eq, hu.linked.roots_eq]
  apply filter_places_beside
  · intro i hi
    rw [parent?_beside_left u hi]
  · intro i
    rw [parent?_beside_right]
    exact decide_eq_decide.mpr Option.map_eq_none_iff

theorem tagged_beside (t u : Tree) (tag : String) :
    (t.beside u).tagged tag = t.tagged tag ++ (u.tagged tag).map (t.size + ·) := by
  apply filter_places_beside
  · intro i hi
    rw [hasTag, getElem?_beside_left u hi, hasTag]
  · intro i
    rw [hasTag, getElem?_beside_right, Option.any_map]
    rfl

theorem name?_beside_left (u : Tree) {i : Nat} (hi : i < t.size) : (t.beside u).name? i = t.name? i := by
  rw [name?, getElem?_beside_left u hi, name?]

theorem name?_beside_right (t u : Tree) (i : Nat) : (t.beside u).name? (t.size + i) = u.name? i := by
  rw [name?, getElem?_beside_right, Option.bind_map]
  rfl

theorem lookup_beside (t u : Tree) (offset : Nat) :
    (t.beside u).lookup offset = ((u.lookup offset).map (t.size + ·)).or (t.lookup offset) := by
  rw [lookup, places_beside, List.reverse_append, ← List.map_reverse, List.find?_append, List.find?_map]
  apply congrArg₂
  · apply congrArg
    apply List.find?_congr
    intro i _
    rw [Function.comp_apply, getElem?_beside_right, Option.any_map]
    rfl
  · apply List.find?_congr
    intro i hi
    rw [getElem?_beside_left u (mem_places.mp (List.mem_reverse.mp hi))]

/-- The two have no offset in common. -/
def Apart (t u : Tree) : Prop := ∀ n ∈ t.nodes, ∀ m ∈ u.nodes, n.offset ≠ m.offset

theorem exists_of_lookup {offset i : Nat} (h : t.lookup offset = some i) :
    i < t.size ∧ ∃ n ∈ t.nodes, n.offset = offset := by
  have hmem := List.mem_of_find?_eq_some h
  have hfound := List.find?_some h
  obtain ⟨n, hn, hoffset⟩ := (Option.any_eq_true _ _).mp hfound
  exact ⟨mem_places.mp (List.mem_reverse.mp hmem), n, Array.mem_of_getElem? hn, of_decide_eq_true hoffset⟩

theorem Apart.lookup_eq_none (h : t.Apart u) {offset i : Nat} (ht : t.lookup offset = some i) :
    u.lookup offset = none := by
  obtain ⟨-, n, hn, hoffset⟩ := exists_of_lookup ht
  cases hu : u.lookup offset with
  | none => rfl
  | some j =>
    obtain ⟨-, m, hm, hoffset'⟩ := exists_of_lookup hu
    exact absurd (hoffset.trans hoffset'.symm) (h n hn m hm)

end Beside

/-- Where the nodes go when the first `a` of them change places with the `b` behind. -/
def swapPlaces (a b i : Nat) : Nat := if i < a then b + i else if i < a + b then i - a else i

theorem swapPlaces_left {a i : Nat} (b : Nat) (hi : i < a) : swapPlaces a b i = b + i := if_pos hi

theorem swapPlaces_right (a : Nat) {b i : Nat} (hi : i < b) : swapPlaces a b (a + i) = i := by
  rw [swapPlaces, if_neg (by omega), if_pos (by omega), Nat.add_sub_cancel_left]

theorem swapPlaces_of_le {a b i : Nat} (hi : a + b ≤ i) : swapPlaces a b i = i := by
  rw [swapPlaces, if_neg (by omega), if_neg (by omega)]

theorem swapPlaces_injective (a b : Nat) : (swapPlaces a b).Injective := by
  intro i j h
  unfold swapPlaces at h
  split_ifs at h <;> omega

theorem place_cases (a b i : Nat) : i < a ∨ (∃ j < b, i = a + j) ∨ a + b ≤ i := by
  by_cases ha : i < a
  · exact .inl ha
  by_cases hb : i < a + b
  · exact .inr (.inl ⟨i - a, by omega, by omega⟩)
  · exact .inr (.inr (Nat.not_lt.mp hb))

section Swap

variable {t u : Tree}

theorem map_swap_left (u : Tree) {l : List Nat} (hl : ∀ i ∈ l, i < t.size) :
    l.map (swapPlaces t.size u.size) = l.map (u.size + ·) := by
  apply List.map_congr_left
  intro i hi
  exact swapPlaces_left _ (hl i hi)

theorem map_swap_right (t : Tree) {l : List Nat} (hl : ∀ i ∈ l, i < u.size) :
    (l.map (t.size + ·)).map (swapPlaces t.size u.size) = l := by
  rw [List.map_map]
  refine (List.map_congr_left ?_).trans (List.map_id l)
  intro i hi
  exact swapPlaces_right _ (hl i hi)

theorem lookup_swap (h : t.Apart u) (offset : Nat) : (u.beside t).lookup offset =
    ((t.beside u).lookup offset).map (swapPlaces t.size u.size) := by
  rw [lookup_beside, lookup_beside]
  cases hfound : t.lookup offset with
  | some i =>
    have hi := (exists_of_lookup hfound).1
    rw [h.lookup_eq_none hfound]
    exact congrArg some (swapPlaces_left _ hi).symm
  | none =>
    cases hfound' : u.lookup offset with
    | none => rfl
    | some j =>
      have hj := (exists_of_lookup hfound').1
      exact congrArg some (swapPlaces_right _ hj).symm

variable (ht : t.Sealed) (hu : u.Sealed)
include ht hu

theorem node_swap (i : Nat) : Option.Rel (Node.Renamed (swapPlaces t.size u.size) id)
    (t.beside u).nodes[i]? (u.beside t).nodes[swapPlaces t.size u.size i]? := by
  rcases place_cases t.size u.size i with hi | ⟨j, hj, rfl⟩ | hi
  · rw [swapPlaces_left _ hi, getElem?_beside_left u hi, getElem?_beside_right]
    cases hn : t.nodes[i]? with
    | none => exact .none
    | some n =>
      have hlt := ht.ancestors_lt hn
      exact .some ⟨.refl n.toEntry, (map_swap_left u hlt).symm⟩
  · rw [swapPlaces_right _ hj, getElem?_beside_left t hj, getElem?_beside_right]
    cases hn : u.nodes[j]? with
    | none => exact .none
    | some n =>
      have hlt := hu.ancestors_lt hn
      exact .some ⟨.refl n.toEntry, (map_swap_right t hlt).symm⟩
  · have hleft : (t.beside u).size ≤ i := by rwa [size_beside]
    have hright : (u.beside t).size ≤ i := by rwa [size_beside, Nat.add_comm]
    rw [swapPlaces_of_le hi, Array.getElem?_eq_none hleft, Array.getElem?_eq_none hright]
    exact .none

theorem children_swap (i : Nat) : (u.beside t).children (swapPlaces t.size u.size i) =
    ((t.beside u).children i).map (swapPlaces t.size u.size) := by
  rcases place_cases t.size u.size i with hi | ⟨j, hj, rfl⟩ | hi
  · rw [swapPlaces_left _ hi, ht.children_beside_left hu hi, hu.children_beside_right ht]
    exact (map_swap_left u fun _ hc => ht.linked.lt_size_of_mem_children hc).symm
  · rw [swapPlaces_right _ hj, hu.children_beside_left ht hj, ht.children_beside_right hu]
    exact (map_swap_right t fun _ hc => hu.linked.lt_size_of_mem_children hc).symm
  · have hleft : (t.beside u).size ≤ i := by rwa [size_beside]
    have hright : (u.beside t).size ≤ i := by rwa [size_beside, Nat.add_comm]
    rw [swapPlaces_of_le hi, (ht.beside hu).children_of_size_le hleft, (hu.beside ht).children_of_size_le hright]
    rfl

theorem renamed_beside (h : t.Apart u) :
    (t.beside u).Renamed (swapPlaces t.size u.size) id (u.beside t) where
  injective := swapPlaces_injective _ _
  size := by rw [size_beside, size_beside, Nat.add_comm]
  node := node_swap ht hu
  children := children_swap ht hu
  lookup := lookup_swap h

end Swap

end Tree

end ScriptBinding.Dump
