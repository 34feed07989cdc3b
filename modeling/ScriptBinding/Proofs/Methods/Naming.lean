import Mathlib.Data.List.Perm.Subperm
import Mathlib.Data.List.ReduceOption
import ScriptBinding.Proofs.Code.Identifiers
import ScriptBinding.Proofs.Methods.Grouping

/-!
The names of the functions generated for a class. A dispatcher takes the first name that is free, so no
name is given twice, whatever the methods are called.
-/

namespace ScriptBinding

open Code

def withSuffixes (name : String) : Nat → String
  | 0 => name
  | times + 1 => withSuffixes name times ++ "_method"

/-- The name with the fewest suffixes among those that are not used. -/
def FirstFree (used : List String) (base name : String) : Prop :=
  name ∉ used ∧ ∃ times, name = withSuffixes base times ∧ ∀ fewer < times, withSuffixes base fewer ∈ used

theorem withSuffixes_suffix (name : String) (times : Nat) :
    withSuffixes (name ++ "_method") times = withSuffixes name (times + 1) := by
  induction times with
  | zero => rfl
  | succ times ih => rw [withSuffixes, ih, ← withSuffixes]

theorem length_withSuffixes (name : String) (times : Nat) :
    (withSuffixes name times).length = name.length + 7 * times := by
  induction times with
  | zero => rfl
  | succ times ih =>
    have hsuffix : "_method".length = 7 := rfl
    rw [withSuffixes, String.length_append, ih, hsuffix]
    omega

theorem withSuffixes_injective (name : String) : Function.Injective (withSuffixes name) := by
  intro i j h
  have hlength := congrArg String.length h
  rw [length_withSuffixes, length_withSuffixes] at hlength
  omega

theorem isName_withSuffixes {name : String} (h : IsName name) (times : Nat) :
    IsName (withSuffixes name times) := by
  induction times with
  | zero => exact h
  | succ times ih => exact ih.append (by decide)

theorem exists_avoidWithin (used : List String) (fuel : Nat) (name : String) :
    ∃ times ≤ fuel, avoidWithin used fuel name = withSuffixes name times ∧
      (times < fuel → withSuffixes name times ∉ used) ∧ ∀ fewer < times, withSuffixes name fewer ∈ used := by
  induction fuel generalizing name with
  | zero => exact ⟨0, le_refl 0, rfl, by simp, by simp⟩
  | succ fuel ih =>
    rw [avoidWithin]
    by_cases hused : name ∈ used
    · obtain ⟨times, hle, hname, hfree, hfewer⟩ := ih (name ++ "_method")
      simp only [withSuffixes_suffix] at hname hfree hfewer
      rw [if_pos (by simpa using hused)]
      refine ⟨times + 1, by omega, hname, fun hlt => hfree (by omega), ?_⟩
      intro fewer hlt
      cases fewer with
      | zero => exact hused
      | succ fewer => exact hfewer fewer (by omega)
    · rw [if_neg (by simpa using hused)]
      exact ⟨0, by omega, rfl, fun _ => hused, by simp⟩

/-- As many suffixes as there are used names lead to a free one. -/
theorem firstFree_avoid (used : List String) (name : String) : FirstFree used name (avoid used name) := by
  obtain ⟨times, hle, hname, hfree, hfewer⟩ := exists_avoidWithin used used.length name
  refine ⟨?_, times, hname, hfewer⟩
  rw [avoid, hname]
  intro hused
  have htimes : times = used.length := by
    by_contra hne
    exact hfree (by omega) hused
  have hsubset : (List.range (used.length + 1)).map (withSuffixes name) ⊆ used := by
    intro s hs
    obtain ⟨fewer, hfewer', rfl⟩ := List.mem_map.mp hs
    rw [List.mem_range] at hfewer'
    by_cases hlast : fewer = times
    · exact hlast ▸ hused
    · exact hfewer fewer (by omega)
  have hnodup : ((List.range (used.length + 1)).map (withSuffixes name)).Nodup :=
    List.nodup_range.map (withSuffixes_injective name)
  have hlength := (hnodup.subperm hsubset).length_le
  rw [List.length_map, List.length_range] at hlength
  omega

theorem FirstFree.congr {used other : List String} {base name : String} (h : FirstFree used base name)
    (hsame : ∀ s, s ∈ used ↔ s ∈ other) : FirstFree other base name := by
  obtain ⟨hfree, times, hname, hfewer⟩ := h
  refine ⟨mt (hsame name).mpr hfree, times, hname, ?_⟩
  intro fewer hlt
  exact (hsame _).mp (hfewer fewer hlt)

theorem FirstFree.isName {used : List String} {base name : String} (h : FirstFree used base name)
    (hbase : IsName base) : IsName name := by
  obtain ⟨-, times, rfl, -⟩ := h
  exact isName_withSuffixes hbase times

namespace ScriptClass

variable (c : ScriptClass)

/-- The names besides those of the methods' dispatchers. -/
def fixedNames : List String := [c.constructor, c.init, c.destructor, c.nativeInfo, c.wrapNative]

theorem nodup_fixedNames : c.fixedNames.Nodup := by
  have hinfo : c.nativeInfo.length = c.ident.length + 12 := String.length_append _ _
  have hwrap : c.wrapNative.length = c.ident.length + 12 := String.length_append _ _
  have hconstructor : c.constructor.length = 10 + c.ident.length := String.length_append _ _
  have hdestructor : c.destructor.length = 9 + c.ident.length := String.length_append _ _
  have hinit : c.init.length = 4 + c.ident.length := String.length_append _ _
  have hlast : c.nativeInfo ≠ c.wrapNative := by
    intro h
    have hsuffix := (String.append_right_inj _).mp h
    revert hsuffix
    decide
  have hne {s t : String} (h : s.length ≠ t.length) : s ≠ t := ne_of_apply_ne String.length h
  simp only [fixedNames, List.nodup_cons, List.mem_cons, List.not_mem_nil, or_false, not_or]
  refine ⟨⟨?_, ?_, ?_, ?_⟩, ⟨?_, ?_, ?_⟩, ⟨?_, ?_⟩, hlast, not_false, List.nodup_nil⟩
  all_goals
    apply hne
    omega

theorem isName_fixedNames : ∀ name ∈ c.fixedNames, IsName name := by
  have hident : IsPart c.ident := isPart_identifierOf c.name
  have hfront : c.ident = "" ∨ IsName c.ident := isName_identifierOf c.name
  unfold fixedNames constructor init destructor nativeInfo wrapNative
  simp only [List.forall_mem_cons, List.not_mem_nil, false_implies, implies_true, and_true]
  refine ⟨IsName.append (by decide) hident, IsName.append (by decide) hident,
    IsName.append (by decide) hident, isName_append hfront (by decide), isName_append hfront (by decide)⟩

theorem isName_base {name : String} (h : IsPart name) : IsName (c.ident ++ "_" ++ name) := by
  apply IsName.append _ h
  exact isName_append (isName_identifierOf c.name) (by decide)

end ScriptClass

namespace Naming

variable (n : Naming)

def isMethod (p : Member × String) : Bool := p.1 ≠ .constructor

theorem functionName_eq_avoid {member : Member} (h : member ≠ .constructor) (others : List String) :
    n.functionName member others = avoid (n.taken ++ others) (n.scriptClass.ident ++ "_" ++ member.text) := by
  cases member with
  | constructor => exact absurd rfl h
  | method name => rfl

theorem functionName_of_nameMembers {others : List String} {members : List Member}
    {before after : List (Member × String)} {p : Member × String}
    (h : n.nameMembers others members = before ++ p :: after) :
    p.2 = n.functionName p.1 (others ++ before.map (·.2)) := by
  induction members generalizing others before with
  | nil => simp [nameMembers] at h
  | cons member members ih =>
    rw [nameMembers] at h
    cases before with
    | nil =>
      obtain ⟨rfl, -⟩ := List.cons_eq_cons.mp h
      simp
    | cons q before =>
      obtain ⟨rfl, htail⟩ := List.cons.inj h
      rw [ih htail, List.map_cons, List.append_assoc]
      rfl

theorem constructor_of_mem_nameMembers {others : List String} {members : List Member} {p : Member × String}
    (h : p ∈ n.nameMembers others members) (hp : p.1 = .constructor) : p.2 = n.scriptClass.constructor := by
  obtain ⟨before, after, hsplit⟩ := List.append_of_mem h
  rw [n.functionName_of_nameMembers hsplit, hp]
  rfl

/-- The names of methods differ from each other, from the names before them and from those taken. -/
theorem nodup_nameMembers (others : List String) (members : List Member) :
    (((n.nameMembers others members).filter isMethod).map (·.2)).Nodup ∧
      ∀ name ∈ ((n.nameMembers others members).filter isMethod).map (·.2), name ∉ n.taken ++ others := by
  induction members generalizing others with
  | nil => simp [nameMembers]
  | cons member members ih =>
    obtain ⟨hnodup, hfree⟩ := ih (others ++ [n.functionName member others])
    have hrest : ∀ name ∈ ((n.nameMembers (others ++ [n.functionName member others]) members).filter
        isMethod).map (·.2), name ∉ n.taken ++ others := by
      intro name hname hused
      apply hfree name hname
      rw [← List.append_assoc]
      exact List.mem_append_left _ hused
    rw [nameMembers]
    by_cases hmember : member = .constructor
    · rw [List.filter_cons_of_neg (by simp [isMethod, hmember])]
      exact ⟨hnodup, hrest⟩
    · rw [List.filter_cons_of_pos (by simpa [isMethod] using hmember), List.map_cons, List.nodup_cons,
        List.forall_mem_cons]
      have hfirst : n.functionName member others ∉ n.taken ++ others := by
        rw [n.functionName_eq_avoid hmember]
        exact (firstFree_avoid _ _).1
      refine ⟨⟨?_, hnodup⟩, hfirst, hrest⟩
      intro hmem
      exact hfree _ hmem (by simp)

variable (bindings : List Binding)

theorem map_functionName_methods : (n.dispatch bindings).methods.map (·.functionName) =
    ((n.nameMembers [] (firstOccurrences [] (bindings.map (·.member)))).filter isMethod).map (·.2) := by
  have hmethods : (n.dispatch bindings).methods =
      (n.dispatchers bindings).filter (·.member ≠ .constructor) := rfl
  rw [hmethods, dispatchers, List.filter_map, List.map_map]
  rfl

theorem functionName_constructor :
    (n.dispatch bindings).constructor.functionName = n.scriptClass.constructor := by
  rcases n.constructor_cases bindings with ⟨hmem, hmember⟩ | ⟨h, -⟩
  · obtain ⟨p, hp, hd⟩ := List.mem_map.mp hmem
    rw [← hd] at hmember ⊢
    exact n.constructor_of_mem_nameMembers hp hmember
  · rw [h]

variable {n bindings}

theorem firstFree_of_methods {before after : List Dispatcher} {d : Dispatcher}
    (h : (n.dispatch bindings).methods = before ++ d :: after) :
    FirstFree (n.taken ++ before.map (·.functionName)) (n.scriptClass.ident ++ "_" ++ d.member.text)
      d.functionName := by
  have hmem : d ∈ (n.dispatch bindings).methods := by
    rw [h]
    exact List.mem_append_right _ List.mem_cons_self
  have hd := member_ne_of_mem_methods hmem
  -- The dispatchers before it in the order of creation are those before it here and the constructor's.
  obtain ⟨front, back, hall, hfront, hback⟩ := List.filter_eq_append_iff.mp h
  obtain ⟨skipped, rest, rfl, hskipped, -, -⟩ := List.filter_eq_cons_iff.mp hback
  rw [← List.append_assoc, dispatchers] at hall
  obtain ⟨first, last, hnames, hfirst, hlast⟩ := List.map_eq_append_iff.mp hall
  obtain ⟨p, later, rfl, rfl, -⟩ := List.map_eq_cons_iff.mp hlast
  have hname := n.functionName_of_nameMembers hnames
  rw [n.functionName_eq_avoid hd] at hname
  have hfree := firstFree_avoid (n.taken ++ ([] ++ first.map (·.2))) (n.scriptClass.ident ++ "_" ++ p.1.text)
  rw [← hname] at hfree
  apply hfree.congr
  have hbefore : before.map (·.functionName) = (first.filter isMethod).map (·.2) := by
    have hskip : skipped.filter (·.member ≠ .constructor) = [] := List.filter_eq_nil_iff.mpr hskipped
    have hsame := congrArg (List.filter (·.member ≠ .constructor)) hfirst
    rw [List.filter_append, hfront, hskip, List.append_nil, List.filter_map] at hsame
    rw [← hsame, List.map_map]
    rfl
  intro s
  rw [hbefore, List.nil_append, List.mem_append, List.mem_append, List.mem_map, List.mem_map]
  constructor
  · rintro (hs | ⟨q, hq, rfl⟩)
    · exact .inl hs
    · by_cases hmethod : q.1 = .constructor
      · left
        have hmem : q ∈ n.nameMembers [] (firstOccurrences [] (bindings.map (·.member))) := by
          rw [hnames]
          exact List.mem_append_left _ hq
        rw [n.constructor_of_mem_nameMembers hmem hmethod]
        exact List.mem_cons_self
      · exact .inr ⟨q, List.mem_filter.mpr ⟨hq, by simpa [isMethod] using hmethod⟩, rfl⟩
  · rintro (hs | ⟨q, hq, rfl⟩)
    · exact .inl hs
    · exact .inr ⟨q, (List.mem_filter.mp hq).1, rfl⟩

theorem exists_name_of_mem_methods {d : Dispatcher} (h : d ∈ (n.dispatch bindings).methods) :
    ∃ b ∈ bindings, ∃ name, d.member = .method name ∧ b.member = .method name := by
  have hmember := member_ne_of_mem_methods h
  have hmem : d.member ∈ (n.dispatch bindings).methods.map (·.member) := List.mem_map_of_mem h
  rw [map_member_methods] at hmem
  obtain ⟨b, hb, hbd⟩ := List.mem_map.mp (mem_firstOccurrences.mp (List.mem_filter.mp hmem).1).1
  cases hd : d.member with
  | constructor => exact absurd hd hmember
  | method name => exact ⟨b, hb, name, rfl, hbd.trans hd⟩

section Helpers

variable (c : ScriptClass) (bindings : List Binding)

theorem firstFree_of_helpers {before after : List Dispatcher} {d : Dispatcher}
    (h : (dispatch ⟨c, c.helpers⟩ bindings).methods = before ++ d :: after) :
    ∃ name, d.member = .method name ∧
      FirstFree (c.fixedNames ++ before.map (·.functionName)) (c.ident ++ "_" ++ name) d.functionName := by
  have hfirst := firstFree_of_methods h
  have hmem : d ∈ (dispatch ⟨c, c.helpers⟩ bindings).methods := by
    rw [h]
    exact List.mem_append_right _ List.mem_cons_self
  obtain ⟨-, -, name, hname, -⟩ := exists_name_of_mem_methods hmem
  rw [hname] at hfirst
  exact ⟨name, hname, hfirst⟩

theorem nodup_functionNames :
    ((dispatch ⟨c, c.helpers⟩ bindings).methods.map (·.functionName) ++ c.fixedNames).Nodup := by
  obtain ⟨hnodup, htaken⟩ :=
    (⟨c, c.helpers⟩ : Naming).nodup_nameMembers [] (firstOccurrences [] (bindings.map (·.member)))
  rw [map_functionName_methods]
  apply List.nodup_append.mpr
  refine ⟨hnodup, c.nodup_fixedNames, ?_⟩
  rintro name hname other hother rfl
  apply htaken name hname
  rw [List.append_nil]
  exact hother

variable {bindings}

theorem isName_functionName (hnames : ∀ b ∈ bindings, ∀ name, b.member = .method name → IsName name) :
    ∀ d ∈ (dispatch ⟨c, c.helpers⟩ bindings).methods, IsName d.functionName := by
  intro d hd
  obtain ⟨b, hb, called, hcalled, hb'⟩ := exists_name_of_mem_methods hd
  obtain ⟨before, after, hsplit⟩ := List.append_of_mem hd
  obtain ⟨name, hmember, hfirst⟩ := firstFree_of_helpers c bindings hsplit
  rw [hcalled] at hmember
  obtain rfl := Member.method.inj hmember
  exact hfirst.isName (c.isName_base (hnames b hb called hb').2.2)

end Helpers

/-- The functions of a class have names of their own, each method's with as few suffixes as possible. -/
theorem dispatch_names_unique (c : ScriptClass) (descriptors : List (Option Binding)) :
    let bindings := descriptors.reduceOption
    let found := dispatch ⟨c, c.helpers⟩ bindings
    found.constructor.functionName = c.constructor ∧
      (∀ b ∈ bindings, b.member ≠ .constructor → b.member ∈ found.methods.map (·.member)) ∧
      (found.methods.map (·.functionName) ++ c.fixedNames).Nodup ∧
      (∀ before d after, found.methods = before ++ d :: after → ∃ name, d.member = .method name ∧
        FirstFree (c.fixedNames ++ before.map (·.functionName)) (c.ident ++ "_" ++ name) d.functionName) ∧
      ((∀ b ∈ bindings, ∀ name, b.member = .method name → IsName name) →
        ∀ name ∈ found.methods.map (·.functionName) ++ c.fixedNames, IsName name) := by
  intro bindings found
  refine ⟨functionName_constructor _ bindings, ?_, nodup_functionNames c bindings, ?_, ?_⟩
  · intro b hb hmember
    rw [map_member_methods, List.mem_filter, mem_firstOccurrences]
    exact ⟨⟨List.mem_map_of_mem hb, by simp⟩, by simpa using hmember⟩
  · intro before d after hsplit
    exact firstFree_of_helpers c bindings hsplit
  · intro hnames name hname
    rcases List.mem_append.mp hname with hname | hname
    · obtain ⟨d, hd, rfl⟩ := List.mem_map.mp hname
      exact isName_functionName c hnames d hd
    · exact c.isName_fixedNames name hname

/-- A method called like a renamed one, before it and with a constructor between them. -/
def renamedBindings : List (Option Binding) := [
  some ⟨.method "wrap_native_method", 0, "", [], ""⟩, none, some ⟨.constructor, 0, "", [], ""⟩,
  some ⟨.method "wrap_native", 1, "", [], ""⟩, some ⟨.constructor, 2, "", [], ""⟩]

theorem dispatch_names_unique_renamed :
    let found := dispatch ⟨⟨"3<x>"⟩, ScriptClass.helpers ⟨"3<x>"⟩⟩ renamedBindings.reduceOption
    found.methods.map (·.functionName) =
        ["_3_x_wrap_native_method", "_3_x_wrap_native_method_method"] ∧
      (found.methods.map (·.functionName) ++ ScriptClass.fixedNames ⟨"3<x>"⟩).Nodup ∧
      ∀ name ∈ found.methods.map (·.functionName) ++ ScriptClass.fixedNames ⟨"3<x>"⟩, IsName name := by
  have hnames : ∀ b ∈ renamedBindings.reduceOption, ∀ name, b.member = .method name → IsName name := by
    have hall : ∀ b ∈ renamedBindings.reduceOption, b.member = .constructor ∨ IsName b.member.text := by
      decide
    intro b hb name hmember
    simpa [hmember, Member.text] using hall b hb
  obtain ⟨-, -, hnodup, -, hisName⟩ := dispatch_names_unique ⟨"3<x>"⟩ renamedBindings
  exact ⟨by decide +kernel, hnodup, hisName hnames⟩

end Naming

end ScriptBinding
