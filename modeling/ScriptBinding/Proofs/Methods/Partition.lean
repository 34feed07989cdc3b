import Mathlib.Data.List.Induction
import Mathlib.Data.List.ReduceOption
import ScriptBinding.Proofs.Code.OneLine
import ScriptBinding.Proofs.Methods.Grouping

/-!
The dispatchers as a partition of the bindings. They can be made in one pass, in which each binding joins the
dispatcher of its member or starts a new one; a constructor among them is set apart only behind the pass.
-/

namespace ScriptBinding

section FirstOccurrences

variable {β : Type} [DecidableEq β]

theorem firstOccurrences_concat (before l : List β) (a : β) :
    firstOccurrences before (l ++ [a]) = firstOccurrences before l ++ if a ∈ before ∨ a ∈ l then [] else [a] := by
  induction l generalizing before with
  | nil => by_cases ha : a ∈ before <;> simp [firstOccurrences, ha]
  | cons b l ih =>
    rw [List.cons_append, firstOccurrences, firstOccurrences]
    by_cases hb : b ∈ before
    · have hsame : a ∈ before ∨ a ∈ b :: l ↔ a ∈ before ∨ a ∈ l := by
        rw [List.mem_cons]
        constructor
        · rintro (h | rfl | h)
          · exact .inl h
          · exact .inl hb
          · exact .inr h
        · exact Or.imp_right .inr
      rw [if_pos (by simpa using hb), if_pos (by simpa using hb), ih]
      simp only [hsame]
    · have hsame : a ∈ before ∨ a ∈ b :: l ↔ a ∈ b :: before ∨ a ∈ l := by
        rw [List.mem_cons, List.mem_cons, or_left_comm, or_assoc]
      rw [if_neg (by simpa using hb), if_neg (by simpa using hb), ih]
      simp only [hsame, List.cons_append]

theorem pairwise_firstOccurrences (before l : List β) :
    (firstOccurrences before l).Pairwise fun a b => l.idxOf a < l.idxOf b := by
  induction l generalizing before with
  | nil => exact .nil
  | cons c l ih =>
    -- Of two elements that are not the first one, both come one place later.
    have hrest (before : List β) (hc : c ∈ before) :
        (firstOccurrences before l).Pairwise fun a b => (c :: l).idxOf a < (c :: l).idxOf b := by
      apply (ih before).imp_of_mem
      intro a b ha hb hlt
      have hne {a : β} (ha : a ∈ firstOccurrences before l) : c ≠ a := by
        rintro rfl
        exact (mem_firstOccurrences.mp ha).2 hc
      rw [List.idxOf_cons_ne _ (hne ha), List.idxOf_cons_ne _ (hne hb)]
      omega
    rw [firstOccurrences]
    by_cases hc : c ∈ before
    · rw [if_pos (by simpa using hc)]
      exact hrest before hc
    · rw [if_neg (by simpa using hc), List.pairwise_cons]
      refine ⟨?_, hrest _ List.mem_cons_self⟩
      intro b hb
      have hne : c ≠ b := by
        rintro rfl
        exact (mem_firstOccurrences.mp hb).2 List.mem_cons_self
      rw [List.idxOf_cons_self, List.idxOf_cons_ne _ hne]
      omega

end FirstOccurrences

namespace Naming

variable (n : Naming)

/-- A binding joins the dispatcher of its member. For the first one of a member there is a new dispatcher, behind the
others. -/
def enter (made : List Dispatcher) (b : Binding) : List Dispatcher :=
  if b.member ∈ made.map (·.member) then
    made.map fun d => if d.member = b.member then { d with overloads := d.overloads ++ [b] } else d
  else made ++ [⟨b.member, n.functionName b.member (made.map (·.functionName)), [b]⟩]

/-- The dispatchers made in one pass, which leaves out what could not be bound. -/
def collect (descriptors : List (Option Binding)) : List Dispatcher :=
  descriptors.foldl (fun made descriptor => descriptor.elim made (n.enter made)) []

theorem nameMembers_append (others : List String) (first last : List Member) :
    n.nameMembers others (first ++ last) = n.nameMembers others first ++
      n.nameMembers (others ++ (n.nameMembers others first).map (·.2)) last := by
  induction first generalizing others with
  | nil => simp [nameMembers]
  | cons member first ih =>
    rw [List.cons_append, nameMembers, ih, nameMembers, List.map_cons, List.append_assoc]
    rfl

theorem mem_map_member_dispatchers {bindings : List Binding} {member : Member} :
    member ∈ (n.dispatchers bindings).map (·.member) ↔ member ∈ bindings.map (·.member) := by
  rw [map_member_dispatchers, mem_firstOccurrences]
  simp

theorem map_functionName_dispatchers (bindings : List Binding) : (n.dispatchers bindings).map (·.functionName) =
    (n.nameMembers [] (firstOccurrences [] (bindings.map (·.member)))).map (·.2) := by
  rw [dispatchers, List.map_map]
  rfl

theorem dispatchers_concat (bindings : List Binding) (b : Binding) :
    n.dispatchers (bindings ++ [b]) = n.enter (n.dispatchers bindings) b := by
  rw [dispatchers, List.map_append, List.map_cons, List.map_nil, firstOccurrences_concat, nameMembers_append, enter]
  by_cases hb : b.member ∈ bindings.map (·.member)
  · rw [if_pos (.inr hb), if_pos (n.mem_map_member_dispatchers.mpr hb), nameMembers, List.append_nil, dispatchers,
      List.map_map]
    apply List.map_congr_left
    rintro ⟨member, name⟩ -
    by_cases hmember : member = b.member
    · simp [List.filter_append, hmember]
    · simp [List.filter_append, hmember, Ne.symm hmember]
  · -- The dispatchers so far are for other members, and the new one has this binding alone.
    have hnone : bindings.filter (·.member = b.member) = [] := by
      apply List.filter_eq_nil_iff.mpr
      intro b' hb' hsame
      exact hb (List.mem_map.mpr ⟨b', hb', of_decide_eq_true hsame⟩)
    rw [if_neg (by simpa using hb), if_neg (mt n.mem_map_member_dispatchers.mp hb), List.map_append]
    apply congrArg₂
    · apply List.map_congr_left
      rintro ⟨member, name⟩ hp
      have hmember : member ∈ firstOccurrences [] (bindings.map (·.member)) := by
        rw [← n.map_fst_nameMembers [] (firstOccurrences [] (bindings.map (·.member)))]
        exact List.mem_map_of_mem hp
      have hne : b.member ≠ member := by
        rintro rfl
        exact hb (mem_firstOccurrences.mp hmember).1
      simp [List.filter_append, hne]
    · rw [map_functionName_dispatchers]
      simp [nameMembers, List.filter_append, hnone]

theorem collect_eq (descriptors : List (Option Binding)) :
    n.collect descriptors = n.dispatchers descriptors.reduceOption := by
  induction descriptors using List.reverseRecOn with
  | nil => rfl
  | append_singleton descriptors descriptor ih =>
    rw [collect, List.foldl_append, ← collect, ih, List.reduceOption_append]
    cases descriptor with
    | none => simp
    | some b => exact (n.dispatchers_concat descriptors.reduceOption b).symm

theorem noConstructorWarning_ne (member : Member) (arity : Int) :
    n.noConstructorWarning ≠ n.ambiguityWarning member arity := by
  intro h
  have hlast : n.noConstructorWarning.toList.getLast? = some 'd' := Code.getLast?_append_of_getLast? (by decide)
  have hlast' : (n.ambiguityWarning member arity).toList.getLast? = some 's' :=
    Code.getLast?_append_of_getLast? (by decide)
  rw [← h, hlast] at hlast'
  exact absurd (Option.some.inj hlast') (by decide)

theorem noConstructorWarning_notMem (groups : List Dispatcher) :
    n.noConstructorWarning ∉ groups.flatMap n.ambiguityWarnings := by
  intro h
  obtain ⟨d, -, hd⟩ := List.mem_flatMap.mp h
  obtain ⟨arity, -, heq⟩ := List.mem_map.mp hd
  exact n.noConstructorWarning_ne d.member arity heq.symm

end Naming

namespace Dispatchers

def all (d : Dispatchers) : List Dispatcher := d.methods ++ [d.constructor]

/-- Every binding is in the group of its member, once and behind those that were before it; the groups of the
methods stand in the order of their first bindings. -/
structure Partitions (d : Dispatchers) (bindings : List Binding) : Prop where
  distinct : (d.methods.map (·.member)).Nodup
  inOrder : d.methods.Pairwise fun g h =>
    bindings.findIdx (·.member = g.member) < bindings.findIdx (·.member = h.member)
  method : ∀ g ∈ d.methods, g.member ≠ .constructor ∧ g.overloads ≠ [] ∧
    g.overloads = bindings.filter (·.member = g.member)
  constructor : d.constructor.member = .constructor ∧
    d.constructor.overloads = bindings.filter (·.member = .constructor)
  unique : ∀ b ∈ bindings, ∃! g, g ∈ d.all ∧ b ∈ g.overloads
  complete : (d.all.flatMap (·.overloads)).Perm bindings

end Dispatchers

namespace Naming

variable (n : Naming) (bindings : List Binding)

theorem nodup_map_member_all : ((n.dispatch bindings).all.map (·.member)).Nodup := n.nodup_members bindings

variable {n bindings}

theorem overloads_of_mem_all {d : Dispatcher} (h : d ∈ (n.dispatch bindings).all) :
    d.overloads = bindings.filter (·.member = d.member) := by
  rcases List.mem_append.mp h with h | h
  · exact overloads_of_mem_methods h
  · rw [List.mem_singleton.mp h, overloads_constructor, member_constructor]

theorem mem_overloads_iff {d : Dispatcher} (h : d ∈ (n.dispatch bindings).all) {b : Binding} :
    b ∈ d.overloads ↔ b ∈ bindings ∧ b.member = d.member := by
  rw [overloads_of_mem_all h, List.mem_filter, decide_eq_true_eq]

variable (n bindings)

theorem pairwise_methods : (n.dispatch bindings).methods.Pairwise fun g h =>
    bindings.findIdx (·.member = g.member) < bindings.findIdx (·.member = h.member) := by
  have hplace (member : Member) :
      bindings.findIdx (·.member = member) = (bindings.map (·.member)).idxOf member := by
    rw [List.idxOf, List.findIdx_map]
    apply congrArg (List.findIdx · bindings)
    funext b
    exact (beq_eq_decide b.member member).symm
  have hmembers : ((n.dispatch bindings).methods.map (·.member)).Pairwise fun a b =>
      (bindings.map (·.member)).idxOf a < (bindings.map (·.member)).idxOf b := by
    rw [map_member_methods]
    exact (pairwise_firstOccurrences [] _).filter _
  have hmethods := List.pairwise_map.mp hmembers
  simp only [hplace]
  exact hmethods

theorem overloads_ne_nil_of_mem_methods {d : Dispatcher} (h : d ∈ (n.dispatch bindings).methods) :
    d.overloads ≠ [] := by
  have hmember : d.member ∈ (n.dispatch bindings).methods.map (·.member) := List.mem_map_of_mem h
  rw [map_member_methods] at hmember
  obtain ⟨b, hb, hbd⟩ := List.mem_map.mp (mem_firstOccurrences.mp (List.mem_of_mem_filter hmember)).1
  apply List.ne_nil_of_mem
  exact (mem_overloads_iff (List.mem_append_left _ h)).mpr ⟨hb, hbd⟩

theorem perm_overloads : ((n.dispatch bindings).all.flatMap (·.overloads)).Perm bindings := by
  have hgroups : (n.dispatch bindings).all.flatMap (·.overloads) =
      ((n.dispatch bindings).all.map (·.member)).flatMap fun member => bindings.filter (·.member = member) := by
    rw [List.flatMap_map]
    apply List.flatMap_congr
    intro d hd
    exact overloads_of_mem_all hd
  have hall : bindings.filter (fun b => b.member ∈ (n.dispatch bindings).all.map (·.member)) = bindings := by
    apply List.filter_eq_self.mpr
    intro b hb
    exact decide_eq_true (n.mem_members bindings hb)
  have hperm := perm_flatMap_filter (f := Binding.member) (n.nodup_map_member_all bindings) bindings
  rwa [hall, ← hgroups] at hperm

theorem existsUnique_group {b : Binding} (hb : b ∈ bindings) :
    ∃! d, d ∈ (n.dispatch bindings).all ∧ b ∈ d.overloads := by
  obtain ⟨d, hd, hmember⟩ := List.mem_map.mp (n.mem_members bindings hb)
  refine ⟨d, ⟨hd, (mem_overloads_iff hd).mpr ⟨hb, hmember.symm⟩⟩, ?_⟩
  rintro d' ⟨hd', hb'⟩
  have hsame := ((mem_overloads_iff hd').mp hb').2
  exact List.inj_on_of_nodup_map (n.nodup_map_member_all bindings) hd' hd (hsame.symm.trans hmember.symm)

theorem partitions_dispatch : (n.dispatch bindings).Partitions bindings where
  distinct := (n.nodup_map_member_all bindings).sublist ((List.sublist_append_left _ _).map _)
  inOrder := n.pairwise_methods bindings
  method _ hg := ⟨member_ne_of_mem_methods hg, n.overloads_ne_nil_of_mem_methods bindings hg,
    overloads_of_mem_methods hg⟩
  constructor := ⟨n.member_constructor bindings, n.overloads_constructor bindings⟩
  unique _ hb := n.existsUnique_group bindings hb
  complete := n.perm_overloads bindings

theorem warnings_dispatch : (n.dispatch bindings).warnings =
    (if ∃ b ∈ bindings, b.member = .constructor then [] else [n.noConstructorWarning]) ++
      (n.dispatch bindings).all.flatMap n.ambiguityWarnings := by
  have hwarnings : (n.dispatch bindings).warnings =
      (if ((n.dispatchers bindings).find? (·.member = .constructor)).isNone then [n.noConstructorWarning] else []) ++
        (n.dispatch bindings).all.flatMap n.ambiguityWarnings := rfl
  have hmissing : ((n.dispatchers bindings).find? (·.member = .constructor)).isNone = true ↔
      ¬ ∃ b ∈ bindings, b.member = .constructor := by
    rw [← List.mem_map, ← n.mem_map_member_dispatchers, List.mem_map]
    simp
  rw [hwarnings]
  by_cases hsome : ∃ b ∈ bindings, b.member = .constructor
  · rw [if_pos hsome, if_neg fun hnone => hmissing.mp hnone hsome]
  · rw [if_neg hsome, if_pos (hmissing.mpr hsome)]

theorem count_noConstructorWarning : (n.dispatch bindings).warnings.count n.noConstructorWarning =
    if ∃ b ∈ bindings, b.member = .constructor then 0 else 1 := by
  rw [warnings_dispatch, List.count_append, List.count_eq_zero_of_not_mem (n.noConstructorWarning_notMem _),
    Nat.add_zero]
  split
  · exact List.count_nil
  · exact List.count_singleton_self

/-- Bindings are grouped by their members. The groups are those of one pass through what could be bound, with the
constructor taken out of them, and that there is no constructor is said once if there is none. -/
theorem dispatch_partitions (descriptors : List (Option Binding)) :
    let bindings := descriptors.reduceOption
    let found := n.dispatch bindings
    found.Partitions bindings ∧
      found.methods = (n.collect descriptors).filter (·.member ≠ .constructor) ∧
      found.constructor = ((n.collect descriptors).find? (·.member = .constructor)).getD
        ⟨.constructor, n.scriptClass.constructor, []⟩ ∧
      found.warnings.count n.noConstructorWarning =
        if ∃ b ∈ bindings, b.member = .constructor then 0 else 1 := by
  intro bindings found
  rw [n.collect_eq]
  exact ⟨n.partitions_dispatch bindings, rfl, rfl, n.count_noConstructorWarning bindings⟩

/-- The numbers of arguments in the groups of two methods and a constructor that come mixed. -/
example : (dispatch ⟨⟨"Led"⟩, []⟩ [⟨.method "on", 0, "", [], ""⟩, ⟨.constructor, 2, "", [], ""⟩,
    ⟨.method "off", 3, "", [], ""⟩, ⟨.method "on", 1, "", [], ""⟩]).all.map (·.overloads.map (·.arity)) =
      [[0, 1], [3], [2]] := by
  decide +kernel

end Naming

end ScriptBinding
