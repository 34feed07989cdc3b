import ScriptBinding.Proofs.Dump.Headings
import ScriptBinding.Proofs.Methods.Partition
import ScriptBinding.Proofs.Methods.Repeats
import ScriptBinding.Proofs.Module.Guards

/-!
Overloads that no call reaches, since one before them takes as many arguments. For each dispatcher and each number of
arguments that is said of it once, and of no other number.
-/

namespace ScriptBinding

open Code Text

namespace Dispatcher

variable (d : Dispatcher) (label : String)

/-- The dispatcher with another body for the overload at a place. -/
def withBody (i : Nat) (body : String) : Dispatcher :=
  { d with overloads := d.overloads.modify i fun b => { b with body } }

/-- What the overload at a place does makes no difference to any call. -/
def Hidden (i : Nat) : Prop :=
  ∀ body count, choose (Plan.dispatcherLines (d.withBody i body) label) count =
    choose (Plan.dispatcherLines d label) count

variable {d label} {i : Nat} {b : Binding} {arity : Int}

theorem overloads_withBody (hb : d.overloads[i]? = some b) (body : String) : (d.withBody i body).overloads =
    d.overloads.take i ++ { b with body } :: d.overloads.drop (i + 1) := by
  obtain ⟨hi, rfl⟩ := List.getElem?_eq_some_iff.mp hb
  exact List.modify_eq_take_cons_drop hi

theorem overloads_eq (hb : d.overloads[i]? = some b) :
    d.overloads = d.overloads.take i ++ b :: d.overloads.drop (i + 1) := by
  obtain ⟨hi, rfl⟩ := List.getElem?_eq_some_iff.mp hb
  rw [List.getElem_cons_drop, List.take_append_drop]

theorem hidden_of_mem_take {a : Binding} (hb : d.overloads[i]? = some b) (ha : a ∈ d.overloads.take i)
    (hsame : a.arity = b.arity) : d.Hidden label i := by
  intro body count
  rw [Plan.choose_dispatcherLines, Plan.choose_dispatcherLines, overloads_withBody hb, List.find?_append]
  conv_rhs => rw [overloads_eq hb, List.find?_append]
  cases hfound : (d.overloads.take i).find? (·.arity = count) with
  | some c => rfl
  | none =>
    have hne : b.arity ≠ count := by
      have hcount := List.find?_eq_none.mp hfound a ha
      rw [decide_eq_true_eq, hsame] at hcount
      exact hcount
    rw [List.find?_cons_of_neg (by simpa using hne), List.find?_cons_of_neg (by simpa using hne)]

/-- The first overload for a number of arguments is what a call with so many runs. -/
theorem exists_mem_take_of_hidden (hb : d.overloads[i]? = some b) (h : d.Hidden label i) :
    ∃ a ∈ d.overloads.take i, a.arity = b.arity := by
  by_contra hnone
  have hbefore : (d.overloads.take i).find? (·.arity = b.arity) = none := by
    apply List.find?_eq_none.mpr
    intro a ha hsame
    exact hnone ⟨a, ha, of_decide_eq_true hsame⟩
  have hruns := h (b.body ++ ";") b.arity
  rw [Plan.choose_dispatcherLines, Plan.choose_dispatcherLines, overloads_withBody hb, List.find?_append,
    hbefore, Option.none_or, List.find?_cons_of_pos (by simp)] at hruns
  rw [overloads_eq hb, List.find?_append, hbefore, Option.none_or, List.find?_cons_of_pos (by simp)] at hruns
  have hlength := congrArg String.length (Choice.taken.inj hruns)
  rw [String.length_append] at hlength
  exact absurd hlength (by simp)

theorem hidden_iff (hb : d.overloads[i]? = some b) :
    d.Hidden label i ↔ ∃ j < i, ∃ a, d.overloads[j]? = some a ∧ a.arity = b.arity := by
  constructor
  · intro h
    obtain ⟨a, ha, hsame⟩ := exists_mem_take_of_hidden hb h
    obtain ⟨j, hj⟩ := List.getElem?_of_mem ha
    rw [List.getElem?_take] at hj
    split at hj
    · next hlt => exact ⟨j, hlt, a, hj, hsame⟩
    · cases hj
  · rintro ⟨j, hlt, a, hj, hsame⟩
    apply hidden_of_mem_take hb _ hsame
    apply List.mem_of_getElem? (i := j)
    rw [List.getElem?_take_of_lt hlt, hj]

theorem mem_ambiguousArities_iff_hidden (label : String) : arity ∈ d.ambiguousArities ↔
    ∃ i b, d.overloads[i]? = some b ∧ b.arity = arity ∧ d.Hidden label i := by
  rw [mem_ambiguousArities]
  constructor
  · intro htwo
    obtain ⟨before, b, after, hsplit, hone, hb⟩ := Dump.exists_split_of_lt_countP htwo
    rw [decide_eq_true_eq] at hb
    have hplace : d.overloads[before.length]? = some b := by simp [hsplit]
    obtain ⟨a, ha, hsame⟩ := List.countP_pos_iff.mp (Nat.lt_of_lt_of_eq Nat.zero_lt_one hone.symm)
    refine ⟨before.length, b, hplace, hb, hidden_of_mem_take hplace ?_ ((of_decide_eq_true hsame).trans hb.symm)⟩
    rwa [hsplit, List.take_left]
  · rintro ⟨i, b, hb, rfl, hhidden⟩
    obtain ⟨a, ha, hsame⟩ := exists_mem_take_of_hidden hb hhidden
    have hbefore : 0 < (d.overloads.take i).countP (·.arity = b.arity) :=
      List.countP_pos_iff.mpr ⟨a, ha, decide_eq_true hsame⟩
    rw [overloads_eq hb, List.countP_append, List.countP_cons_of_pos (by simp)]
    omega

end Dispatcher

theorem eq_of_append_cons {c : Char} {before before' after after' : List Char} (hafter : c ∉ after)
    (hafter' : c ∉ after') (h : before ++ c :: after = before' ++ c :: after') : before = before' ∧ after = after' := by
  have hlength : after.length = after'.length := by
    have hplace := congrArg (fun cs => cs.reverse.idxOf c) h
    simpa [List.idxOf_append, hafter, hafter'] using hplace
  obtain ⟨hbefore, hcons⟩ := List.append_inj' h (by simp [hlength])
  exact ⟨hbefore, (List.cons.inj hcons).2⟩

theorem ScriptClass.label_injective (c : ScriptClass) : Function.Injective c.label := by
  intro member member' h
  have hlength (name : String) : c.name ≠ c.name ++ "#" ++ name := by
    intro heq
    have hlength := congrArg String.length heq
    rw [String.length_append, String.length_append] at hlength
    have hmark : "#".length = 1 := rfl
    omega
  cases member with
  | constructor =>
    cases member' with
    | constructor => rfl
    | method name => exact absurd h (hlength name)
  | method name =>
    cases member' with
    | constructor => exact absurd h.symm (hlength name)
    | method name' => exact congrArg Member.method ((String.append_right_inj _).mp h)

namespace Naming

variable (n : Naming)

theorem ambiguityWarning_inj {member member' : Member} {arity arity' : Int}
    (h : n.ambiguityWarning member arity = n.ambiguityWarning member' arity') : member = member' ∧ arity = arity' := by
  have hspace : " has several overloads taking ".toList = " has several overloads taking".toList ++ [' '] := by decide
  -- The number stands behind the last space in front of the fixed end.
  have hsplit (member : Member) (arity : Int) :
      ("  >> warning: " ++ n.scriptClass.label member ++ " has several overloads taking " ++ toString arity).toList =
        (("  >> warning: " ++ n.scriptClass.label member).toList ++ " has several overloads taking".toList) ++
          ' ' :: (toString arity).toList := by
    rw [String.toList_append, String.toList_append, hspace, ← List.append_assoc]
    exact (List.append_cons _ _ _).symm
  have hchars := congrArg String.toList ((String.append_left_inj _).mp h)
  rw [hsplit, hsplit] at hchars
  obtain ⟨hfront, harity⟩ := eq_of_append_cons (space_notMem_toString arity) (space_notMem_toString arity') hchars
  have hlabel := (String.append_right_inj _).mp (String.toList_inj.mp (List.append_cancel_right hfront))
  have hread := congrArg Guard.readInteger? harity
  rw [Guard.readInteger?_toString, Guard.readInteger?_toString] at hread
  exact ⟨n.scriptClass.label_injective hlabel, Option.some.inj hread⟩

variable (bindings : List Binding)

theorem nodup_warnings : (n.dispatch bindings).warnings.Nodup := by
  have hgroups : ((n.dispatch bindings).all.flatMap n.ambiguityWarnings).Nodup := by
    apply List.nodup_flatMap.mpr
    constructor
    · intro d _
      exact d.nodup_ambiguousArities.map fun _ _ heq => (n.ambiguityWarning_inj heq).2
    · apply (List.pairwise_map.mp (n.nodup_map_member_all bindings)).imp
      intro d d' hne line hline hline'
      obtain ⟨arity, -, rfl⟩ := List.mem_map.mp hline
      obtain ⟨arity', -, heq⟩ := List.mem_map.mp hline'
      exact hne (n.ambiguityWarning_inj heq).1.symm
  rw [warnings_dispatch]
  split
  · exact hgroups
  · exact List.nodup_cons.mpr ⟨n.noConstructorWarning_notMem _, hgroups⟩

variable {bindings}

theorem mem_warnings_iff {d : Dispatcher} (hd : d ∈ (n.dispatch bindings).all) {arity : Int} :
    n.ambiguityWarning d.member arity ∈ (n.dispatch bindings).warnings ↔ arity ∈ d.ambiguousArities := by
  rw [warnings_dispatch, List.mem_append]
  constructor
  · rintro (hline | hline)
    · split at hline
      · cases hline
      · exact absurd (List.mem_singleton.mp hline).symm (n.noConstructorWarning_ne _ _)
    · obtain ⟨d', hd', hline⟩ := List.mem_flatMap.mp hline
      obtain ⟨arity', harity', heq⟩ := List.mem_map.mp hline
      obtain ⟨hmember, rfl⟩ := n.ambiguityWarning_inj heq
      rwa [← List.inj_on_of_nodup_map (n.nodup_map_member_all bindings) hd' hd hmember]
  · intro harity
    exact .inr (List.mem_flatMap.mpr ⟨d, hd, List.mem_map_of_mem harity⟩)

end Naming

/-- The numbers of arguments that several overloads take, each once and in the order in which they come again. -/
structure Dispatcher.ListsRepeats (d : Dispatcher) (arities : List Int) : Prop where
  nodup : arities.Nodup
  repeated : ∀ arity, arity ∈ arities ↔ 2 ≤ d.overloads.countP (·.arity = arity)
  inOrder : ∃ places : List Nat, places.Pairwise (· < ·) ∧
    List.Forall₂ (IsSecond (d.overloads.map (·.arity))) arities places

/-- For each dispatcher and number of arguments one line if some overload for so many is hidden, and none if not: those
of the methods in the order of the dispatchers, and those of the constructor behind them. -/
structure Dispatchers.ReportsHidden (found : Dispatchers) (n : Naming) : Prop where
  once : found.warnings.Nodup
  inOrder : ∃ first, first.length ≤ 1 ∧ (∀ line ∈ first, line = n.noConstructorWarning) ∧
    found.warnings = first ++ found.all.flatMap fun d => d.ambiguousArities.map (n.ambiguityWarning d.member)
  hidden : ∀ d ∈ found.all, ∀ arity, n.ambiguityWarning d.member arity ∈ found.warnings ↔
    ∃ i b, d.overloads[i]? = some b ∧ b.arity = arity ∧ d.Hidden (n.scriptClass.label d.member) i
  earlier : ∀ d ∈ found.all, ∀ i b, d.overloads[i]? = some b → (d.Hidden (n.scriptClass.label d.member) i ↔
    ∃ j < i, ∃ a, d.overloads[j]? = some a ∧ a.arity = b.arity)

theorem Dispatcher.listsRepeats (d : Dispatcher) : d.ListsRepeats d.ambiguousArities where
  nodup := d.nodup_ambiguousArities
  repeated _ := d.mem_ambiguousArities
  inOrder := d.exists_places_ambiguousArities

theorem Naming.reportsHidden (n : Naming) (bindings : List Binding) : (n.dispatch bindings).ReportsHidden n where
  once := n.nodup_warnings bindings
  inOrder := by
    refine ⟨_, ?_, ?_, n.warnings_dispatch bindings⟩
    · split <;> simp
    · intro line hline
      split at hline
      · cases hline
      · exact List.mem_singleton.mp hline
  hidden d hd _ := (n.mem_warnings_iff hd).trans (d.mem_ambiguousArities_iff_hidden _)
  earlier _ _ _ _ hb := Dispatcher.hidden_iff hb

/-- Every number of arguments with an overload that no call reaches is reported, once and in order. -/
theorem hidden_reported (n : Naming) : (∀ d : Dispatcher, d.ListsRepeats d.ambiguousArities) ∧
    ∀ descriptors : List (Option Binding), (n.dispatch descriptors.reduceOption).ReportsHidden n :=
  ⟨Dispatcher.listsRepeats, fun descriptors => n.reportsHidden descriptors.reduceOption⟩

/-- Of the numbers 2, 1, 1, 2 and 1 the second one comes again before the first one does. -/
example : (Naming.dispatch ⟨⟨"Led"⟩, []⟩ [⟨.method "on", 2, "", [], ""⟩, ⟨.constructor, 0, "", [], ""⟩,
    ⟨.method "on", 1, "", [], ""⟩, ⟨.method "on", 1, "", [], ""⟩, ⟨.method "on", 2, "", [], ""⟩,
    ⟨.method "on", 1, "", [], ""⟩, ⟨.constructor, 0, "", [], ""⟩]).warnings =
      ["  >> warning: Led#on has several overloads taking 1 argument(s), the first one wins",
        "  >> warning: Led#on has several overloads taking 2 argument(s), the first one wins",
        "  >> warning: Led has several overloads taking 0 argument(s), the first one wins"] := by
  decide +kernel

end ScriptBinding
