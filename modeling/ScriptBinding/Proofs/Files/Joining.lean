import ScriptBinding.Proofs.Files.Making

/-!
Where a path leads that is joined from two: from the place of the first along the second.
-/

namespace ScriptBinding.Files

theorem start_of_isAbsolute (s : FileStore) {path path' : String} (h : isAbsolute path = isAbsolute path') :
    s.start path = s.start path' := by
  rw [FileStore.start, FileStore.start, h]

theorem placeOf_eq_goal_steps (s : FileStore) (path : String) :
    s.placeOf path = goal (s.start path) (steps path.toList) := by
  rw [FileStore.placeOf, steps, goal_filter, components]

theorem join_ne_empty {path : String} (h : path ≠ "") (base : String) : join base path ≠ "" := by
  rw [join]
  split_ifs
  · exact h
  · simp [h]
  · simp

/-- A relative path behind another one, from which one slash divides it. -/
theorem toList_join (base : String) {path : String} (h : isAbsolute path = false) :
    base = "" ∧ join base path = path ∨
      ∃ front, (join base path).toList = front ++ '/' :: path.toList ∧
        (base.toList = front ∧ front ≠ [] ∨ base.toList = front ++ ['/']) := by
  by_cases hbase : base = ""
  · refine .inl ⟨hbase, ?_⟩
    simp [join, h, hbase]
  · refine .inr ?_
    by_cases hslash : base.toList.getLast? = some '/'
    · obtain ⟨front, hfront⟩ := List.getLast?_eq_some_iff.mp hslash
      exact ⟨front, by simp [join, h, hfront], .inr hfront⟩
    · exact ⟨base.toList, by simp [join, h, hbase, hslash], .inl ⟨rfl, by simpa using hbase⟩⟩

example : join "out/" "m/lib" = "out/m/lib" ∧ join "out" "m/lib" = "out/m/lib" := by decide

theorem placeOf_join (s : FileStore) {base path : String} (h : isAbsolute path = false) :
    s.placeOf (join base path) = goal (s.placeOf base) (steps path.toList) := by
  rcases toList_join base h with ⟨rfl, hjoin⟩ | ⟨front, hjoin, hbase⟩
  · have hstart : s.start path = s.start "" := start_of_isAbsolute s h
    rw [hjoin, placeOf_eq_goal_steps, placeOf_eq_goal_steps s "", hstart]
    rfl
  · have hstart : s.start (join base path) = s.start base := by
      apply start_of_isAbsolute
      rcases hbase with ⟨hbase, hne⟩ | hbase
      · cases front with
        | nil => exact absurd rfl hne
        | cons c front => simp [isAbsolute, hjoin, hbase]
      · cases front with
        | nil => simp [isAbsolute, hjoin, hbase]
        | cons c front => simp [isAbsolute, hjoin, hbase]
    have hsteps : steps base.toList = steps front := by
      rcases hbase with ⟨hbase, -⟩ | hbase
      · rw [hbase]
      · rw [hbase, steps_append_slash, steps_nil, List.append_nil]
    rw [placeOf_eq_goal_steps, placeOf_eq_goal_steps s base, hstart, hjoin, hsteps, steps_append_slash, goal_append]

theorem splitLast_slash {name : List Char} (h : '/' ∉ name) (front : List Char) :
    (splitLast (front ++ '/' :: name)).2 = name := by
  have hall : ∀ c ∈ name.reverse, decide (c ≠ '/') = true := by
    intro c hc
    rw [decide_eq_true_eq]
    rintro rfl
    exact h (List.mem_reverse.mp hc)
  simp only [splitLast]
  rw [List.reverse_append, List.reverse_cons, List.append_assoc, List.takeWhile_append_of_pos hall]
  simp

theorem parentAndName_join {base name : String} (hslash : '/' ∉ name.toList) (hname : name ≠ "") (hbase : base ≠ "") :
    (parentAndName (join base name).toList).2 = name.toList := by
  have habsolute : isAbsolute name = false := by
    rw [isAbsolute, decide_eq_false_iff_not]
    intro hhead
    exact hslash (List.mem_of_mem_head? hhead)
  rcases toList_join base habsolute with ⟨hempty, -⟩ | ⟨front, hjoin, -⟩
  · exact absurd hempty hbase
  · rw [hjoin]
    have hlast := splitLast_slash hslash front
    have hne : (splitLast (front ++ '/' :: name.toList)).2.isEmpty = false := by
      rw [hlast]
      simpa using hname
    simp only [parentAndName, hne]
    exact hlast

/-- A component that is the name of something. -/
def IsPlainName (name : List Char) : Prop := name ≠ [] ∧ name ≠ ['.'] ∧ name ≠ ['.', '.']

instance : DecidablePred IsPlainName := fun name =>
  inferInstanceAs (Decidable (name ≠ [] ∧ name ≠ ['.'] ∧ name ≠ ['.', '.']))

theorem advance_of_isPlainName {name : List Char} (h : IsPlainName name) (place : Place) :
    FileStore.advance place name = place ++ [name] := by
  simp [FileStore.advance, h.1, h.2.1, h.2.2]

theorem goal_of_isPlainName {names : List (List Char)} (h : ∀ name ∈ names, IsPlainName name) (place : Place) :
    goal place names = place ++ names := by
  induction names generalizing place with
  | nil => simp [goal]
  | cons name names ih =>
    obtain ⟨hname, hnames⟩ := List.forall_mem_cons.mp h
    rw [goal, List.foldl_cons, advance_of_isPlainName hname, ← goal, ih hnames, List.append_assoc]
    rfl

end ScriptBinding.Files
