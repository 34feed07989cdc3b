import Mathlib.Data.List.TakeWhile
import ScriptBinding.Files.Store
import ScriptBinding.Proofs.Text.Ends

/-!
The places that a path leads through. Empty components do not matter, and the directory that a path lies in is
on its route.
-/

namespace ScriptBinding.Files

/-- The components of a path that are not empty. -/
def steps (path : List Char) : List (List Char) := (path.splitOn '/').filter (· ≠ [])

@[simp] theorem steps_nil : steps [] = [] := by simp [steps]

theorem steps_append_slash (a b : List Char) : steps (a ++ '/' :: b) = steps a ++ steps b := by
  rw [steps, List.splitOn_append_cons_self, List.filter_append]
  rfl

theorem steps_of_notMem {name : List Char} (h : '/' ∉ name) (hne : name ≠ []) : steps name = [name] := by
  simp [steps, List.splitOn_eq_singleton h, hne]

theorem steps_of_slashes {cs : List Char} (h : ∀ c ∈ cs, c = '/') : steps cs = [] := by
  induction cs with
  | nil => exact steps_nil
  | cons c cs ih =>
    obtain rfl := h c (by simp)
    have hcons := steps_append_slash [] cs
    rw [List.nil_append, steps_nil, List.nil_append] at hcons
    rw [hcons]
    exact ih fun d hd => h d (by simp [hd])

section Parent

theorem prefix_splitLast (path : List Char) : (splitLast path).1 <+: path := by
  have hfront : (path.reverse.dropWhile (· ≠ '/')).reverse <+: path := by
    rw [← List.reverse_suffix, List.reverse_reverse]
    exact List.dropWhile_suffix _
  simp only [splitLast]
  split_ifs
  · exact hfront
  · refine List.IsPrefix.trans ?_ hfront
    rw [List.reverse_prefix]
    exact List.dropWhile_suffix _

theorem steps_prefix_splitLast (path : List Char) : steps (splitLast path).1 <+: steps path := by
  have hpath : path = (path.reverse.dropWhile (· ≠ '/')).reverse ++ (path.reverse.takeWhile (· ≠ '/')).reverse := by
    rw [← List.reverse_append, List.takeWhile_append_dropWhile, List.reverse_reverse]
  have hslash : ∀ c ∈ (path.reverse.dropWhile (· ≠ '/')).head?, c = '/' := by
    intro c hc
    simpa using Text.head?_dropWhile c hc
  simp only [splitLast]
  generalize (path.reverse.takeWhile (· ≠ '/')).reverse = last at hpath
  generalize path.reverse.dropWhile (· ≠ '/') = front at hpath hslash
  split_ifs with hbare
  · have hslashes : ∀ c ∈ front, c = '/' := by simpa [List.dropWhile_eq_nil_iff] using hbare
    rw [steps_of_slashes (by simpa using hslashes)]
    exact List.nil_prefix
  · -- Behind the bare front, a slash comes first.
    have hsplit : front.takeWhile (· = '/') ++ front.dropWhile (· = '/') = front := List.takeWhile_append_dropWhile
    have hall : ∀ c ∈ (front.takeWhile (· = '/')).reverse, c = '/' := by
      intro c hc
      simpa using List.mem_takeWhile_imp (List.mem_reverse.mp hc)
    have hcut : path = (front.dropWhile (· = '/')).reverse ++ ((front.takeWhile (· = '/')).reverse ++ last) := by
      rw [hpath, ← List.append_assoc, ← List.reverse_append, hsplit]
    cases hslashes : (front.takeWhile (· = '/')).reverse with
    | nil =>
      cases front with
      | nil => simp at hbare
      | cons c front => simp [hslash c rfl] at hslashes
    | cons c slashes =>
      obtain rfl := hall c (by simp [hslashes])
      rw [hslashes, List.cons_append] at hcut
      rw [hcut, steps_append_slash]
      exact List.prefix_append _ _

theorem prefix_parentAndName (path : List Char) : (parentAndName path).1 <+: path := by
  simp only [parentAndName]
  split_ifs
  · exact (prefix_splitLast _).trans (prefix_splitLast path)
  · exact prefix_splitLast path

theorem steps_prefix_parentAndName (path : List Char) : steps (parentAndName path).1 <+: steps path := by
  simp only [parentAndName]
  split_ifs
  · exact (steps_prefix_splitLast _).trans (steps_prefix_splitLast path)
  · exact steps_prefix_splitLast path

end Parent

section Route

/-- The places that components lead through, from the first to the last. -/
def route (place : Place) : List (List Char) → List Place
  | [] => [place]
  | name :: rest => place :: route (FileStore.advance place name) rest

def goal (place : Place) (names : List (List Char)) : Place := names.foldl FileStore.advance place

variable (place : Place) (names : List (List Char))

theorem route_append (more : List (List Char)) :
    route place (names ++ more) = (route place names).dropLast ++ route (goal place names) more := by
  induction names generalizing place with
  | nil => rfl
  | cons name names ih =>
    have hne : route (FileStore.advance place name) names ≠ [] := by cases names <;> simp [route]
    rw [List.cons_append, route, ih, route, List.dropLast_cons_of_ne_nil hne]
    rfl

theorem route_eq : route place names = (route place names).dropLast ++ [goal place names] := by
  have happend := route_append place names []
  rwa [List.append_nil] at happend

theorem goal_mem_route : goal place names ∈ route place names := by
  rw [route_eq]
  simp

theorem goal_append (more : List (List Char)) : goal place (names ++ more) = goal (goal place names) more :=
  List.foldl_append

theorem route_subset_append (more : List (List Char)) : route place names ⊆ route place (names ++ more) := by
  intro p hp
  rw [route_append]
  rw [route_eq, List.mem_append, List.mem_singleton] at hp
  rcases hp with hp | rfl
  · exact List.mem_append_left _ hp
  · apply List.mem_append_right
    cases more <;> simp [route]

theorem goal_filter : goal place (names.filter (· ≠ [])) = goal place names := by
  induction names generalizing place with
  | nil => rfl
  | cons name names ih =>
    by_cases hname : name = []
    · subst hname
      exact ih place
    · rw [List.filter_cons_of_pos (by simpa using hname)]
      exact ih (FileStore.advance place name)

theorem mem_route_filter {p : Place} : p ∈ route place (names.filter (· ≠ [])) ↔ p ∈ route place names := by
  induction names generalizing place with
  | nil => rfl
  | cons name names ih =>
    by_cases hname : name = []
    · subst hname
      have hhead : place ∈ route place (names.filter (· ≠ [])) := by cases names.filter (· ≠ []) <;> simp [route]
      rw [List.filter_cons_of_neg (by simp), route, List.mem_cons]
      constructor
      · exact fun hp => .inr ((ih place).mp hp)
      · rintro (rfl | hp)
        · exact hhead
        · exact (ih place).mpr hp
    · rw [List.filter_cons_of_pos (by simpa using hname), route, route, List.mem_cons, List.mem_cons, ih]

end Route

end ScriptBinding.Files
