/-!
Reading a text from its front: a fixed beginning, a run of characters, the first place where something
can be read, and the replacement of a fixed part.
-/

namespace ScriptBinding.Text

/-- What follows `start` in a text that begins with it. -/
def after? : List Char → List Char → Option (List Char)
  | [], cs => some cs
  | _ :: _, [] => none
  | s :: start, c :: cs => if s = c then after? start cs else none

/-- The longest run of characters of a class at the front, at least one, and what follows it. -/
def run? (p : Char → Bool) (cs : List Char) : Option (List Char × List Char) :=
  match cs.takeWhile p with
  | [] => none
  | run => some (run, cs.dropWhile p)

def firstRead? {α : Type} (read : List Char → Option α) : List Char → Option α
  | [] => read []
  | c :: cs => (read (c :: cs)).orElse fun _ => firstRead? read cs

/-- Copies a text with `new` for each `old`, from left to right, after skipping `skipped` characters. -/
def replaceFrom (old new : List Char) : Nat → List Char → List Char
  | _, [] => []
  | skipped + 1, _ :: cs => replaceFrom old new skipped cs
  | 0, c :: cs =>
    if old.isPrefixOf (c :: cs) then new ++ replaceFrom old new (old.length - 1) cs
    else c :: replaceFrom old new 0 cs

def replace (old new s : String) : String :=
  String.ofList (replaceFrom old.toList new.toList 0 s.toList)

theorem after?_append (start cs : List Char) : after? start (start ++ cs) = some cs := by
  induction start with
  | nil => rfl
  | cons s start ih => simp [after?, ih]

theorem eq_append_of_after? {start cs rest : List Char} (h : after? start cs = some rest) :
    cs = start ++ rest := by
  induction start generalizing cs with
  | nil => simpa [after?] using h
  | cons s start ih =>
    cases cs with
    | nil => simp [after?] at h
    | cons c cs =>
      simp only [after?] at h
      split at h
      · next hsc => rw [hsc, ih h]; rfl
      · simp at h

theorem sublist_of_after? {start cs rest : List Char} (h : after? start cs = some rest) :
    rest.Sublist cs := by
  rw [eq_append_of_after? h]
  exact List.sublist_append_right _ _

theorem run?_eq_some {p : Char → Bool} {cs run rest : List Char} (h : run? p cs = some (run, rest)) :
    run ≠ [] ∧ (∀ c ∈ run, p c = true) ∧ rest = cs.dropWhile p := by
  unfold run? at h
  split at h
  · simp at h
  · next hne =>
    obtain ⟨rfl, rfl⟩ := Prod.mk.inj (Option.some.inj h)
    exact ⟨fun he => hne he, List.all_eq_true.mp List.all_takeWhile, rfl⟩

theorem eq_append_of_run? {p : Char → Bool} {cs run rest : List Char} (h : run? p cs = some (run, rest)) :
    cs = run ++ rest := by
  unfold run? at h
  split at h
  · cases h
  · obtain ⟨rfl, rfl⟩ := Prod.mk.inj (Option.some.inj h)
    exact (List.takeWhile_append_dropWhile).symm

theorem run?_append {p : Char → Bool} {run rest : List Char} (hne : run ≠ [])
    (hrun : ∀ c ∈ run, p c = true) (hrest : ∀ c ∈ rest.head?, p c = false) :
    run? p (run ++ rest) = some (run, rest) := by
  have htake : (run ++ rest).takeWhile p = run := by
    rw [List.takeWhile_append_of_pos hrun]
    cases rest with
    | nil => simp
    | cons c rest => simp [hrest c rfl]
  have hdrop : (run ++ rest).dropWhile p = rest := by
    rw [List.dropWhile_append_of_pos hrun]
    cases rest with
    | nil => rfl
    | cons c rest => simp [hrest c rfl]
  unfold run?
  split
  · next h => exact absurd (htake.symm.trans h) hne
  · rw [htake, hdrop]

theorem sublist_of_run? {p : Char → Bool} {cs run rest : List Char} (h : run? p cs = some (run, rest)) :
    rest.Sublist cs := by
  rw [(run?_eq_some h).2.2]
  exact List.dropWhile_sublist _

end ScriptBinding.Text
