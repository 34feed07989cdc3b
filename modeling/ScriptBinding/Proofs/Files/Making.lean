import ScriptBinding.Proofs.Files.Routes
import ScriptBinding.Proofs.Traversal

/-!
Directories that are made: only on the way to the path that is asked for, and all of it if nothing fails. A path
whose directories exist is left as it is.
-/

namespace ScriptBinding.Files.FileStore

variable {s t u : FileStore} {place q : Place} {names : List (List Char)} {path : String} {item : Item}

def IsDirectory (s : FileStore) (place : Place) : Prop := s.item? place = some .directory

/-- Where a path leads, if all on the way to it are directories. -/
def placeOf (s : FileStore) (path : String) : Place := goal (s.start path) (components path)

def placesOn (s : FileStore) (path : String) : List Place := route (s.start path) (components path)

theorem follow_eq_ok_iff :
    s.follow place names = .ok q ↔ (∀ p ∈ (route place names).dropLast, s.IsDirectory p) ∧ q = goal place names := by
  induction names generalizing place with
  | nil => simp [follow, route, goal, eq_comm]
  | cons name names ih =>
    have hne : route (advance place name) names ≠ [] := by cases names <;> simp [route]
    rw [route, List.dropLast_cons_of_ne_nil hne, List.forall_mem_cons, follow]
    cases hitem : s.item? place with
    | none => simp [IsDirectory, hitem]
    | some item =>
      cases item with
      | file bytes => simp [IsDirectory, hitem]
      | directory =>
        simp only [ih, IsDirectory, hitem, true_and]
        rfl

/-- What a path needs to be followed. -/
structure Open (s : FileStore) (path : String) (names : List (List Char)) : Prop where
  plain : '\x00' ∉ path.toList
  nonempty : path ≠ ""
  directories : ∀ p ∈ (route (s.start path) names).dropLast, s.IsDirectory p

theorem locateNames_eq_ok_iff :
    s.locateNames path names = .ok q ↔ s.Open path names ∧ q = goal (s.start path) names := by
  rw [locateNames]
  split_ifs with hnull hempty
  · have hnull : '\x00' ∈ path.toList := by simpa using hnull
    exact iff_of_false (by simp) fun h => h.1.plain hnull
  · have hempty : path = "" := by simpa using hempty
    exact iff_of_false (by simp) fun h => h.1.nonempty hempty
  · have hfollow : s.follow (s.start path) names = .ok q ↔ _ := follow_eq_ok_iff
    have hplain : '\x00' ∉ path.toList := by simpa using hnull
    have hnonempty : path ≠ "" := by simpa using hempty
    constructor
    · intro h
      split at h
      · next place hplace =>
        obtain rfl := Except.ok.inj h
        obtain ⟨hdirectories, hq⟩ := hfollow.mp hplace
        exact ⟨⟨hplain, hnonempty, hdirectories⟩, hq⟩
      · cases h
    · rintro ⟨hopen, hq⟩
      rw [hfollow.mpr ⟨hopen.directories, hq⟩]

theorem locateNames_bind_eq_ok_iff {α : Type} {f : Place → Except FileFault α} {a : α} :
    (s.locateNames path names).bind f = .ok a ↔ s.Open path names ∧ f (goal (s.start path) names) = .ok a := by
  rw [Except.bind_eq_ok_iff]
  simp only [locateNames_eq_ok_iff, and_assoc, exists_and_left, exists_eq_left]

theorem locate_eq_ok_iff : s.locate path = .ok q ↔ s.Open path (components path) ∧ q = s.placeOf path :=
  locateNames_eq_ok_iff

theorem isDirectory_of_placesOn (h : ∀ p ∈ s.placesOn path, s.IsDirectory p) : s.IsDirectory (s.placeOf path) :=
  h _ (goal_mem_route _ _)

theorem find?_directory_iff : s.find? path = some .directory ↔
    '\x00' ∉ path.toList ∧ path ≠ "" ∧ ∀ p ∈ s.placesOn path, s.IsDirectory p := by
  rw [find?]
  constructor
  · intro h
    split at h
    · next place hplace =>
      obtain ⟨hopen, rfl⟩ := locate_eq_ok_iff.mp hplace
      refine ⟨hopen.plain, hopen.nonempty, ?_⟩
      intro p hp
      rw [placesOn, route_eq, List.mem_append, List.mem_singleton] at hp
      rcases hp with hp | rfl
      · exact hopen.directories p hp
      · exact h
    · cases h
  · rintro ⟨hplain, hnonempty, hdirectories⟩
    have hopen : s.Open path (components path) :=
      ⟨hplain, hnonempty, fun p hp => hdirectories p (List.dropLast_subset _ hp)⟩
    rw [locate_eq_ok_iff.mpr ⟨hopen, rfl⟩]
    exact isDirectory_of_placesOn hdirectories

theorem isDirectory_root (s : FileStore) : s.IsDirectory [] := rfl

theorem item?_put (hplace : place ≠ []) (item : Item) (p : Place) :
    FileStore.item? { s with items := s.items.put place item } p = if p = place then some item else s.item? p := by
  rw [item?, item?, Keyed.get?_put]
  by_cases hp : p = []
  · subst hp
    simp [Ne.symm hplace]
  · simp [hp]

section Frames

/-- A store with nothing else than what was there before and directories at some of the places. -/
structure Grown (places : List Place) (s t : FileStore) : Prop where
  current : t.current = s.current
  item : ∀ p, t.item? p = s.item? p ∨ p ∈ places ∧ s.item? p = none ∧ t.IsDirectory p

variable {places more : List Place}

theorem Grown.refl (places : List Place) (s : FileStore) : Grown places s s := ⟨rfl, fun _ => .inl rfl⟩

theorem Grown.mono (h : Grown places s t) (hsub : places ⊆ more) : Grown more s t where
  current := h.current
  item p := (h.item p).imp_right fun ⟨hp, hrest⟩ => ⟨hsub hp, hrest⟩

theorem Grown.trans (hst : Grown places s t) (htu : Grown places t u) : Grown places s u where
  current := htu.current.trans hst.current
  item p := by
    rcases hst.item p with hsame | ⟨hp, hnone, hmade⟩
    · rcases htu.item p with hsame' | ⟨hp, hnone, hmade⟩
      · exact .inl (hsame'.trans hsame)
      · exact .inr ⟨hp, hsame ▸ hnone, hmade⟩
    · rcases htu.item p with hsame' | ⟨-, hnone', -⟩
      · exact .inr ⟨hp, hnone, hsame'.trans hmade⟩
      · rw [hmade] at hnone'
        cases hnone'

theorem Grown.isDirectory (h : Grown places s t) {p : Place} (hp : s.IsDirectory p) : t.IsDirectory p := by
  rcases h.item p with hsame | ⟨-, -, hmade⟩
  · exact hsame.trans hp
  · exact hmade

end Frames

theorem start_of_current (h : t.current = s.current) (path : String) : t.start path = s.start path := by
  rw [start, start, h]

theorem placeOf_of_current (h : t.current = s.current) (path : String) : t.placeOf path = s.placeOf path := by
  rw [placeOf, placeOf, start_of_current h]

theorem placesOn_of_current (h : t.current = s.current) (path : String) : t.placesOn path = s.placesOn path := by
  rw [placesOn, placesOn, start_of_current h]

/-- The components of a path without the empty ones at its end. -/
def trimmed (path : String) : List (List Char) := ((components path).reverse.dropWhile List.isEmpty).reverse

theorem filter_trimmed (path : String) : (trimmed path).filter (· ≠ []) = (components path).filter (· ≠ []) := by
  have hempty : ((components path).reverse.takeWhile List.isEmpty).reverse.filter (· ≠ []) = [] := by
    apply List.filter_eq_nil_iff.mpr
    intro name hname
    simpa using List.mem_takeWhile_imp (List.mem_reverse.mp hname)
  have hsplit : components path = trimmed path ++ ((components path).reverse.takeWhile List.isEmpty).reverse := by
    rw [trimmed, ← List.reverse_append, List.takeWhile_append_dropWhile, List.reverse_reverse]
  conv => rhs; rw [hsplit, List.filter_append, hempty, List.append_nil]

theorem goal_trimmed (s : FileStore) (path : String) : goal (s.start path) (trimmed path) = s.placeOf path := by
  rw [← goal_filter, filter_trimmed, goal_filter, placeOf]

theorem mem_route_trimmed {p : Place} : p ∈ route (s.start path) (trimmed path) ↔ p ∈ s.placesOn path := by
  rw [← mem_route_filter, filter_trimmed, mem_route_filter, placesOn]

theorem makeDirectory_eq_ok_iff : s.makeDirectory path = .ok t ↔ s.Open path (trimmed path) ∧
    s.item? (s.placeOf path) = none ∧ t = { s with items := s.items.put (s.placeOf path) .directory } := by
  change (s.locateNames path (trimmed path)).bind _ = _ ↔ _
  rw [locateNames_bind_eq_ok_iff, goal_trimmed]
  apply and_congr_right
  rintro -
  split
  · next hitem => simp [hitem, throw, throwThe, MonadExceptOf.throw]
  · next hitem => simp [hitem, pure, Except.pure, eq_comm]

section Made

variable (h : s.makeDirectory path = .ok t)
include h

theorem item?_makeDirectory (p : Place) : t.item? p = if p = s.placeOf path then some .directory else s.item? p := by
  obtain ⟨-, hnone, rfl⟩ := makeDirectory_eq_ok_iff.mp h
  apply item?_put
  intro hroot
  rw [hroot, show s.item? [] = _ from s.isDirectory_root] at hnone
  cases hnone

theorem grown_makeDirectory : Grown (s.placesOn path) s t := by
  have hitem := item?_makeDirectory h
  obtain ⟨-, hnone, rfl⟩ := makeDirectory_eq_ok_iff.mp h
  refine ⟨rfl, ?_⟩
  intro p
  rw [IsDirectory, hitem]
  split_ifs with hp
  · subst hp
    exact .inr ⟨goal_mem_route _ _, hnone, rfl⟩
  · exact .inl rfl

theorem find?_makeDirectory : t.find? path = some .directory := by
  have hopen := (makeDirectory_eq_ok_iff.mp h).1
  have hgrown := grown_makeDirectory h
  refine find?_directory_iff.mpr ⟨hopen.plain, hopen.nonempty, ?_⟩
  intro p hp
  rw [placesOn_of_current hgrown.current, ← mem_route_trimmed, route_eq, goal_trimmed, List.mem_append,
    List.mem_singleton] at hp
  rcases hp with hp | rfl
  · exact hgrown.isDirectory (hopen.directories p hp)
  · rw [IsDirectory, item?_makeDirectory h, if_pos rfl]

end Made

theorem placesOn_parent_subset {path : List Char} (hfront : (parentAndName path).1 ≠ []) :
    s.placesOn (String.ofList (parentAndName path).1) ⊆ s.placesOn (String.ofList path) := by
  have hstart : s.start (String.ofList (parentAndName path).1) = s.start (String.ofList path) := by
    obtain ⟨rest, hrest⟩ := prefix_parentAndName path
    cases hp : (parentAndName path).1 with
    | nil => exact absurd hp hfront
    | cons c front =>
      rw [hp] at hrest
      simp [start, isAbsolute, ← hrest]
  intro p hp
  rw [placesOn, hstart, ← mem_route_filter, components, String.toList_ofList] at hp
  rw [placesOn, ← mem_route_filter, components, String.toList_ofList]
  obtain ⟨more, hmore⟩ := steps_prefix_parentAndName path
  rw [steps, steps] at hmore
  rw [← hmore]
  exact route_subset_append _ _ more hp

/-- The last step of making directories: one that is there already is no fault. -/
def makeLast (s : FileStore) (path : String) : FileStore × Option FileFault :=
  match s.makeDirectory path with
  | .ok s => (s, none)
  | .error fault => if s.find? path = some .directory then (s, none) else (s, some fault)

theorem grown_makeLast (s : FileStore) (path : String) : Grown (s.placesOn path) s (s.makeLast path).1 := by
  rw [makeLast]
  split
  · next t ht => exact grown_makeDirectory ht
  · split_ifs
    · exact .refl _ s
    · exact .refl _ s

theorem find?_makeLast (h : (s.makeLast path).2 = none) : (s.makeLast path).1.find? path = some .directory := by
  rw [makeLast] at h ⊢
  split at h
  · next t ht => exact find?_makeDirectory ht
  · split_ifs at h ⊢ with hfind
    exact hfind

/-- First the directories around, if the one that the path lies in is not there, then the last step; it is left
out behind a fault and for a dot. -/
theorem makeDirectoriesWithin_succ (fuel : Nat) (s : FileStore) (path : List Char) :
    ∃ u, (u = s ∨ (parentAndName path).1 ≠ [] ∧ u = (makeDirectoriesWithin fuel s (parentAndName path).1).1) ∧
      (makeDirectoriesWithin (fuel + 1) s path = u.makeLast (String.ofList path) ∨
        (makeDirectoriesWithin (fuel + 1) s path).1 = u ∧
          ((makeDirectoriesWithin (fuel + 1) s path).2 = none → (parentAndName path).2 = ['.'])) := by
  rw [makeDirectoriesWithin]
  obtain ⟨front, last⟩ := parentAndName path
  by_cases hneeds : !front.isEmpty && !last.isEmpty && (s.find? (String.ofList front)).isNone
  · have hfront : front ≠ [] := by
      rintro rfl
      simp at hneeds
    refine ⟨(makeDirectoriesWithin fuel s front).1, .inr ⟨hfront, rfl⟩, ?_⟩
    simp only [hneeds, if_true, Bool.true_and]
    by_cases hdot : last = ['.']
    · simp only [decide_eq_true hdot, if_true]
      exact .inr (by split <;> exact ⟨rfl, fun _ => hdot⟩)
    · simp only [decide_eq_false hdot]
      split
      · exact .inl rfl
      · exact .inl rfl
      · exact .inr ⟨rfl, fun h => by cases h⟩
  · refine ⟨s, .inl rfl, .inl ?_⟩
    simp only [hneeds]
    rfl

theorem grown_makeDirectoriesWithin (fuel : Nat) (s : FileStore) (path : List Char) :
    Grown (s.placesOn (String.ofList path)) s (makeDirectoriesWithin fuel s path).1 := by
  induction fuel generalizing s path with
  | zero => exact .refl _ s
  | succ fuel ih =>
    obtain ⟨u, hu, hresult⟩ := makeDirectoriesWithin_succ fuel s path
    have hgrown : Grown (s.placesOn (String.ofList path)) s u := by
      rcases hu with rfl | ⟨hfront, rfl⟩
      · exact .refl _ _
      · exact (ih s (parentAndName path).1).mono (placesOn_parent_subset hfront)
    rcases hresult with hlast | ⟨hsame, -⟩
    · rw [hlast]
      apply hgrown.trans
      rw [← placesOn_of_current hgrown.current]
      exact grown_makeLast u _
    · rwa [hsame]

theorem find?_makeDirectoriesWithin {fuel : Nat} {path : List Char} (hname : (parentAndName path).2 ≠ ['.'])
    (h : (makeDirectoriesWithin (fuel + 1) s path).2 = none) :
    (makeDirectoriesWithin (fuel + 1) s path).1.find? (String.ofList path) = some .directory := by
  obtain ⟨u, -, hlast | ⟨-, hdot⟩⟩ := makeDirectoriesWithin_succ fuel s path
  · rw [hlast] at h ⊢
    exact find?_makeLast h
  · exact absurd (hdot h) hname

theorem makeDirectories_of_directories (h : s.find? path = some .directory) : s.makeDirectories path = (s, none) := by
  obtain ⟨hplain, hnonempty, hdirectories⟩ := find?_directory_iff.mp h
  have hlast : s.makeLast path = (s, none) := by
    rw [makeLast]
    split
    · next t ht =>
      have hnone := (makeDirectory_eq_ok_iff.mp ht).2.1
      rw [isDirectory_of_placesOn hdirectories] at hnone
      cases hnone
    · rw [if_pos h]
  -- The parent is a directory already, so nothing is made in front of the last name.
  have hfront (hne : (parentAndName path.toList).1 ≠ []) :
      s.find? (String.ofList (parentAndName path.toList).1) = some .directory := by
    refine find?_directory_iff.mpr ⟨?_, ?_, ?_⟩
    · intro hnull
      rw [String.toList_ofList] at hnull
      exact hplain ((prefix_parentAndName path.toList).subset hnull)
    · intro hempty
      apply hne
      simpa using congrArg String.toList hempty
    · intro p hp
      have hsub := placesOn_parent_subset (s := s) hne hp
      rw [String.ofList_toList] at hsub
      exact hdirectories p hsub
  rw [makeDirectories, makeDirectoriesWithin]
  rcases hparent : parentAndName path.toList with ⟨front, last⟩
  rw [hparent] at hfront
  have hneeds : (!front.isEmpty && !last.isEmpty && (s.find? (String.ofList front)).isNone) = false := by
    by_cases hne : front = []
    · simp [hne]
    · rw [hfront hne]
      simp
  simp only [hneeds, String.ofList_toList]
  exact hlast

end ScriptBinding.Files.FileStore
