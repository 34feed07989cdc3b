import Mathlib.Logic.Function.Basic
import ScriptBinding.Methods.Selection

/-!
Trees that differ only in the places and the offsets of their nodes. Whatever is asked about a node without
naming its place or its offset has the same answer in both.
-/

namespace ScriptBinding.Dump

structure Entry.Renamed (offset : Nat → Nat) (e e' : Entry) : Prop where
  tag : e'.tag = e.tag
  name : e'.name? = e.name?
  access : e'.access? = e.access?
  artificial : e'.isArtificial = e.isArtificial
  constant : e'.constant? = e.constant?
  typeReference : e'.typeReference? = e.typeReference?.map offset

structure Node.Renamed (place offset : Nat → Nat) (n n' : Node) : Prop where
  entry : Entry.Renamed offset n.toEntry n'.toEntry
  ancestors : n'.ancestors = n.ancestors.map place

theorem Entry.Renamed.refl (e : Entry) : Entry.Renamed id e e where
  tag := rfl
  name := rfl
  access := rfl
  artificial := rfl
  constant := rfl
  typeReference := by rw [Option.map_id, id]

theorem Entry.Renamed.isScope {offset : Nat → Nat} {e e' : Entry} (h : Entry.Renamed offset e e') :
    e'.isScope = e.isScope := by
  rw [Entry.isScope, Entry.isScope, h.tag]

/-- Tree `u` has the nodes of `t`, moved by `place` and with their offsets renamed by `offset`. -/
structure Tree.Renamed (place offset : Nat → Nat) (t u : Tree) : Prop where
  injective : place.Injective
  size : u.size = t.size
  node : ∀ i, Option.Rel (Node.Renamed place offset) t.nodes[i]? u.nodes[place i]?
  children : ∀ i, u.children (place i) = (t.children i).map place
  lookup : ∀ o, u.lookup (offset o) = (t.lookup o).map place

theorem filter_map_of_comp {α β : Type} {f : α → β} {p : β → Bool} {q : α → Bool} (h : ∀ a, p (f a) = q a)
    (l : List α) : (l.map f).filter p = (l.filter q).map f := by
  rw [List.filter_map]
  exact congrArg (List.map f) (List.filter_congr fun a _ => h a)

namespace Tree.Renamed

variable {place offset : Nat → Nat} {t u : Tree} (h : t.Renamed place offset u)
include h

theorem node_cases (i : Nat) : (t.nodes[i]? = none ∧ u.nodes[place i]? = none) ∨
    ∃ n n', t.nodes[i]? = some n ∧ u.nodes[place i]? = some n' ∧ Node.Renamed place offset n n' := by
  have hnode := h.node i
  generalize t.nodes[i]? = found, u.nodes[place i]? = found' at hnode
  cases hnode with
  | none => exact .inl ⟨rfl, rfl⟩
  | some hn => exact .inr ⟨_, _, rfl, rfl, hn⟩

theorem any_node {p q : Node → Bool} (hpq : ∀ n n', Node.Renamed place offset n n' → p n' = q n) (i : Nat) :
    u.nodes[place i]?.any p = t.nodes[i]?.any q := by
  rcases h.node_cases i with ⟨ht, hu⟩ | ⟨n, n', ht, hu, hn⟩
  · rw [ht, hu]
    rfl
  · rw [ht, hu]
    exact hpq n n' hn

theorem bind_node {α : Type} {f g : Node → Option α} (hfg : ∀ n n', Node.Renamed place offset n n' → f n' = g n)
    (i : Nat) : u.nodes[place i]?.bind f = t.nodes[i]?.bind g := by
  rcases h.node_cases i with ⟨ht, hu⟩ | ⟨n, n', ht, hu, hn⟩
  · rw [ht, hu]
    rfl
  · rw [ht, hu]
    exact hfg n n' hn

theorem hasTag (tag : String) (i : Nat) : u.hasTag tag (place i) = t.hasTag tag i := by
  apply h.any_node
  intro n n' hn
  rw [hn.entry.tag]

theorem name? (i : Nat) : u.name? (place i) = t.name? i := by
  apply h.bind_node
  intro n n' hn
  exact hn.entry.name

theorem typeReference? (i : Nat) : u.typeReference? (place i) = (t.typeReference? i).map offset := by
  rcases h.node_cases i with ⟨ht, hu⟩ | ⟨n, n', ht, hu, hn⟩
  · simp [Tree.typeReference?, ht, hu]
  · simp [Tree.typeReference?, ht, hu, hn.entry.typeReference]

theorem childrenTagged (tag : String) (i : Nat) :
    u.childrenTagged tag (place i) = (t.childrenTagged tag i).map place := by
  rw [Tree.childrenTagged, Tree.childrenTagged, h.children]
  exact filter_map_of_comp (h.hasTag tag) _

theorem publicMethods (i : Nat) : u.publicMethods (place i) = (t.publicMethods i).map place := by
  rw [Tree.publicMethods, Tree.publicMethods, h.childrenTagged]
  apply filter_map_of_comp
  apply h.any_node
  intro n n' hn
  rw [hn.entry.access]

theorem filterMap_scopes {α : Type} {f g : Node → Option α}
    (hfg : ∀ n n', Node.Renamed place offset n n' → f n' = g n) (ancestors : List Nat) :
    ((((ancestors.map place).filterMap (u.nodes[·]?)).takeWhile (·.isScope)).filterMap f) =
      (((ancestors.filterMap (t.nodes[·]?)).takeWhile (·.isScope)).filterMap g) := by
  induction ancestors with
  | nil => rfl
  | cons i ancestors ih =>
    rw [List.map_cons, List.filterMap_cons, List.filterMap_cons]
    rcases h.node_cases i with ⟨ht, hu⟩ | ⟨n, n', ht, hu, hn⟩
    · rw [ht, hu]
      exact ih
    · rw [ht, hu, List.takeWhile_cons, List.takeWhile_cons, hn.entry.isScope]
      by_cases hscope : n.isScope = true
      · rw [if_pos hscope, if_pos hscope, List.filterMap_cons, List.filterMap_cons, hfg n n' hn, ih]
      · rw [if_neg hscope, if_neg hscope]
        rfl

theorem scopeNames {n n' : Node} (hn : Node.Renamed place offset n n') : u.scopeNames n' = t.scopeNames n := by
  rw [Tree.scopeNames, Tree.scopeNames, hn.ancestors, h.filterMap_scopes]
  intro s s' hs
  rw [hs.entry.name]

theorem qualifiedName? (i : Nat) : u.qualifiedName? (place i) = t.qualifiedName? i := by
  apply h.bind_node
  intro n n' hn
  rw [hn.entry.name, h.scopeNames hn]

end Tree.Renamed

end ScriptBinding.Dump
