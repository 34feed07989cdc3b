import ScriptBinding.Proofs.Code.OneLine
import ScriptBinding.Proofs.Dump.Reading

/-!
The names in a dump. A name is a part of one line, so none holds a newline.
-/

namespace ScriptBinding

open Code Text

namespace Dump

theorem sublist_of_readAttribute? {cs : List Char} {key value : String}
    (h : readAttribute? cs = some (key, value)) : value.toList.Sublist cs := by
  simp only [readAttribute?, Option.bind_eq_bind, Option.bind_eq_some_iff, Option.pure_def,
    Option.some.injEq, Prod.mk.injEq] at h
  obtain ⟨r₁, h₁, ⟨_, r₂⟩, h₂, r₃, h₃, ⟨_, r₄⟩, h₄, r₅, h₅, ⟨_, r₆⟩, h₆, r₇, h₇, -, rfl⟩ := h
  have hbracket : r₂.Sublist cs :=
    ((sublist_of_run? h₂).trans (sublist_of_after? h₁)).trans (trimStart_sublist cs)
  have hkey : r₅.Sublist cs :=
    (((sublist_of_after? h₅).trans (sublist_of_run? h₄)).trans (sublist_of_after? h₃)).trans hbracket
  have hcolon : r₇.Sublist cs :=
    (((sublist_of_after? h₇).trans (trimStart_sublist _)).trans (sublist_of_run? h₆)).trans hkey
  rw [String.toList_ofList]
  refine (trimEnd_sublist _).trans ?_
  cases h₈ : after? [' '] r₇ with
  | none => exact hcolon
  | some r₈ => exact (sublist_of_after? h₈).trans hcolon

theorem oneLine_of_read {cs : List Char} (hcs : Unbroken cs) {key value : String}
    (h : Line.read cs = .ok (.attribute key value)) : OneLine value := by
  have hattribute : readAttribute? cs = some (key, value) := by
    rw [Line.read] at h
    split at h
    · split at h <;> cases h
    · split at h
      · next hread =>
        cases h
        exact hread
      · cases h
  exact fun hm => newline_not_mem hcs ((sublist_of_readAttribute? hattribute).subset hm)

def Entry.Flat (e : Entry) : Prop := ∀ p ∈ e.attributes, OneLine p.2

def Line.Flat (line : Line) : Prop := ∀ key value, line = .attribute key value → OneLine value

structure Gathered.Flat (g : Gathered) : Prop where
  attributes : ∀ p ∈ g.attributes, OneLine p.2
  entries : ∀ e ∈ g.entries, e.Flat

theorem Gathered.Flat.gather {g : Gathered} (hg : g.Flat) {line : Line} (hl : line.Flat) :
    (gather line g).Flat := by
  match line with
  | .entry depth offset none => exact ⟨by simp [Dump.gather], hg.entries⟩
  | .entry depth offset (some tag) =>
    refine ⟨by simp [Dump.gather], ?_⟩
    intro e he
    rcases List.mem_cons.mp he with rfl | he
    · exact fun p hp => hg.attributes p (Keyed.mem_of_mem_ofPairs hp)
    · exact hg.entries e he
  | .attribute key value =>
    refine ⟨?_, hg.entries⟩
    intro p hp
    rcases List.mem_cons.mp hp with rfl | hp
    · exact hl key value rfl
    · exact hg.attributes p hp
  | .other => exact hg

theorem flat_foldr_gather {read : List Line} (h : ∀ line ∈ read, line.Flat) :
    (read.foldr gather {}).Flat := by
  induction read with
  | nil => exact ⟨by simp, by simp⟩
  | cons line read ih => exact (ih fun l hl => h l (by simp [hl])).gather (h line (by simp))

theorem Linking.toEntry_mem {l : Linking} {entries : List Entry} {n : Node}
    (h : n ∈ (entries.foldl Linking.next l).nodes) : n ∈ l.nodes ∨ n.toEntry ∈ entries := by
  induction entries generalizing l with
  | nil => exact .inl h
  | cons e entries ih =>
    rcases ih h with h | h
    · rw [nodes_next, Array.mem_push] at h
      rcases h with h | rfl
      · exact .inl h
      · exact .inr (by simp)
    · exact .inr (List.mem_cons_of_mem _ h)

namespace Tree

def Flat (t : Tree) : Prop := ∀ n ∈ t.nodes, n.toEntry.Flat

theorem flat_of_parse {text : String} {t : Tree} (h : parse text = .ok t) : t.Flat := by
  rw [parse, parseChars, Except.map_eq_ok_iff] at h
  obtain ⟨read, hread, rfl⟩ := h
  have hlines : ∀ line ∈ read, line.Flat := by
    intro line hline
    obtain ⟨cs, hcs, hr⟩ := exists_of_mem_mapM hread hline
    rintro key value rfl
    exact oneLine_of_read (unbroken_of_mem_lines hcs) hr
  intro n hn
  rcases Linking.toEntry_mem hn with hn | hn
  · simp at hn
  · exact (flat_foldr_gather hlines).entries _ hn

end Tree

theorem sublist_of_afterForms? {place : FormPlace} {cs rest : List Char}
    (h : afterForms? place cs = some rest) : rest.Sublist cs := by
  induction cs generalizing place with
  | nil => cases place <;> cases h
  | cons c cs ih =>
    cases place with
    | outside =>
      rw [afterForms?] at h
      split at h
      · exact (ih h).cons c
      · cases h
    | inside =>
      rw [afterForms?] at h
      split at h
      · exact (ih h).cons c
      · exact (ih h).cons c
    | behind =>
      rw [afterForms?] at h
      split at h
      · exact (ih h).cons c
      split at h
      · rw [← Option.some.inj h]
        exact (trimStart_sublist cs).cons c
      split at h
      · exact (ih h).cons c
      · cases h

theorem oneLine_withoutForms {value : String} (h : OneLine value) : OneLine (withoutForms value) := by
  have hrest : ((afterForms? .outside value.toList).getD value.toList).Sublist value.toList := by
    cases hf : afterForms? .outside value.toList with
    | none => exact List.Sublist.refl _
    | some rest => exact sublist_of_afterForms? hf
  rw [withoutForms, OneLine, String.toList_ofList]
  exact fun hm => h (((trim_sublist _).trans hrest).subset hm)

theorem Entry.Flat.name? {e : Entry} (he : e.Flat) {name : String} (h : e.name? = some name) :
    OneLine name := by
  obtain ⟨value, hvalue, rfl⟩ := Option.map_eq_some_iff.mp h
  obtain ⟨key, hkey⟩ := Keyed.exists_mem_of_get? hvalue
  exact oneLine_withoutForms (he _ hkey)

namespace Tree

variable {t : Tree}

theorem Flat.name? (ht : t.Flat) {i : Nat} {name : String} (h : t.name? i = some name) : OneLine name := by
  obtain ⟨n, hn, hname⟩ := Option.bind_eq_some_iff.mp h
  exact (ht n (Array.mem_of_getElem? hn)).name? hname

theorem Flat.scopeNames (ht : t.Flat) (n : Node) : ∀ name ∈ t.scopeNames n, OneLine name := by
  intro name h
  rw [Tree.scopeNames, List.mem_reverse, List.mem_filterMap] at h
  obtain ⟨s, hs, hname⟩ := h
  obtain ⟨i, -, hi⟩ := List.mem_filterMap.mp ((List.takeWhile_sublist _).subset hs)
  exact (ht s (Array.mem_of_getElem? hi)).name? (Option.filter_eq_some_iff.mp hname).1

theorem Flat.qualifiedName? (ht : t.Flat) {i : Nat} {name : String} (h : t.qualifiedName? i = some name) :
    OneLine name := by
  simp only [Tree.qualifiedName?, Option.bind_eq_bind, Option.bind_eq_some_iff, Option.pure_def,
    Option.some.injEq] at h
  obtain ⟨n, hn, bare, hbare, rfl⟩ := h
  apply oneLine_intercalate (by decide)
  intro s hs
  rcases List.mem_append.mp hs with hs | hs
  · exact ht.scopeNames n s hs
  · rw [List.mem_singleton.mp hs]
    exact (ht n (Array.mem_of_getElem? hn)).name? hbare

end Tree

end Dump

end ScriptBinding
