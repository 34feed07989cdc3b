import ScriptBinding.Proofs.Files.Making

/-!
Files that are written: each holds what has been written to it, and nothing else changes. Writing the same files
again changes nothing.
-/

namespace ScriptBinding.Files.FileStore

variable {s t : FileStore} {path : String} {bytes : List UInt8} {files : List (String × String)}

theorem read_eq_ok_iff : s.read path = .ok bytes ↔
    s.Open path (components path) ∧ s.item? (s.placeOf path) = some (.file bytes) := by
  change (s.locateNames path (components path)).bind _ = _ ↔ _
  rw [locateNames_bind_eq_ok_iff, ← placeOf]
  apply and_congr_right
  rintro -
  split
  · next hitem => simp [hitem, throw, throwThe, MonadExceptOf.throw]
  · next hitem => simp [hitem, throw, throwThe, MonadExceptOf.throw]
  · next hitem => simp [hitem, pure, Except.pure]

theorem write_eq_ok_iff : s.write path bytes = .ok t ↔ s.Open path (components path) ∧
    ¬ s.IsDirectory (s.placeOf path) ∧ t = { s with items := s.items.put (s.placeOf path) (.file bytes) } := by
  change (s.locateNames path (components path)).bind _ = _ ↔ _
  rw [locateNames_bind_eq_ok_iff, ← placeOf, IsDirectory]
  apply and_congr_right
  rintro -
  split
  · next hitem => simp [hitem, throw, throwThe, MonadExceptOf.throw]
  · next hitem => exact ⟨fun h => ⟨hitem, (Except.ok.inj h).symm⟩, fun h => congrArg Except.ok h.2.symm⟩

theorem Open.of_isDirectory {names : List (List Char)} (h : s.Open path names) (hcurrent : t.current = s.current)
    (hdirectory : ∀ p, s.IsDirectory p → t.IsDirectory p) : t.Open path names where
  plain := h.plain
  nonempty := h.nonempty
  directories p hp := hdirectory p (h.directories p (start_of_current hcurrent path ▸ hp))

section Written

variable (h : s.write path bytes = .ok t)
include h

theorem item?_write (p : Place) : t.item? p = if p = s.placeOf path then some (.file bytes) else s.item? p := by
  obtain ⟨-, hitem, rfl⟩ := write_eq_ok_iff.mp h
  apply item?_put
  intro hroot
  exact hitem (hroot ▸ s.isDirectory_root)

theorem current_write : t.current = s.current := by
  obtain ⟨-, -, rfl⟩ := write_eq_ok_iff.mp h
  rfl

theorem isDirectory_write {p : Place} (hp : s.IsDirectory p) : t.IsDirectory p := by
  have hne : p ≠ s.placeOf path := by
    rintro rfl
    exact (write_eq_ok_iff.mp h).2.1 hp
  rw [IsDirectory, item?_write h, if_neg hne]
  exact hp

theorem open_write : t.Open path (components path) :=
  (write_eq_ok_iff.mp h).1.of_isDirectory (current_write h) fun _ => isDirectory_write h

end Written

theorem read_of_kept (h : s.read path = .ok bytes) (hcurrent : t.current = s.current)
    (hdirectory : ∀ p, s.IsDirectory p → t.IsDirectory p)
    (hplace : t.item? (s.placeOf path) = s.item? (s.placeOf path)) : t.read path = .ok bytes := by
  obtain ⟨hopen, hitem⟩ := read_eq_ok_iff.mp h
  refine read_eq_ok_iff.mpr ⟨hopen.of_isDirectory hcurrent hdirectory, ?_⟩
  rw [placeOf_of_current hcurrent, hplace, hitem]

/-- A store in which files have been written. -/
structure Filled (files : List (String × String)) (s t : FileStore) : Prop where
  current : t.current = s.current
  frame : ∀ p, (∀ f ∈ files, p ≠ s.placeOf f.1) → t.item? p = s.item? p
  isDirectory : ∀ p, s.IsDirectory p → t.IsDirectory p
  held : (files.map fun f => s.placeOf f.1).Nodup → ∀ f ∈ files, t.read f.1 = .ok (Text.encodeUtf8 f.2)

theorem filled_writeAll (h : s.writeAll files = (t, none)) : Filled files s t := by
  induction files generalizing s with
  | nil =>
    obtain rfl : s = t := congrArg Prod.fst h
    exact ⟨rfl, fun _ _ => rfl, fun _ => id, by simp⟩
  | cons f files ih =>
    rw [writeAll] at h
    split at h
    · next u hu =>
      have hplace : u.placeOf = s.placeOf := funext (placeOf_of_current (current_write hu))
      obtain ⟨hcurrent, hframe, hdirectory, hheld⟩ := ih h
      rw [hplace] at hframe hheld
      refine ⟨hcurrent.trans (current_write hu), ?_, ?_, ?_⟩
      · intro p hp
        obtain ⟨hf, hfiles⟩ := List.forall_mem_cons.mp hp
        rw [hframe p hfiles, item?_write hu, if_neg hf]
      · intro p hp
        exact hdirectory p (isDirectory_write hu hp)
      · intro hnodup
        obtain ⟨hf, hfiles⟩ := List.nodup_cons.mp hnodup
        refine List.forall_mem_cons.mpr ⟨?_, hheld hfiles⟩
        -- The later writes leave the place of the first one alone, so what it wrote is still there.
        have hother : ∀ g ∈ files, s.placeOf f.1 ≠ s.placeOf g.1 := by
          intro g hg hsame
          exact hf (List.mem_map.mpr ⟨g, hg, hsame.symm⟩)
        have hread : u.read f.1 = .ok (Text.encodeUtf8 f.2) := by
          refine read_eq_ok_iff.mpr ⟨open_write hu, ?_⟩
          rw [hplace, item?_write hu, if_pos rfl]
        apply read_of_kept hread hcurrent hdirectory
        rw [hplace]
        exact hframe _ hother
    · cases congrArg Prod.snd h

theorem write_of_read (h : s.read path = .ok bytes) : s.write path bytes = .ok s := by
  obtain ⟨hopen, hitem⟩ := read_eq_ok_iff.mp h
  have hne : s.placeOf path ≠ [] := by
    intro hroot
    rw [hroot, show s.item? [] = _ from s.isDirectory_root] at hitem
    cases hitem
  have hget : s.items.get? (s.placeOf path) = some (.file bytes) := by
    rw [item?, if_neg (by simpa using hne)] at hitem
    exact hitem
  refine write_eq_ok_iff.mpr ⟨hopen, ?_, ?_⟩
  · rw [IsDirectory, hitem]
    simp
  · rw [Keyed.put_of_get? hget]

theorem writeAll_of_read (h : ∀ f ∈ files, s.read f.1 = .ok (Text.encodeUtf8 f.2)) :
    s.writeAll files = (s, none) := by
  induction files with
  | nil => rfl
  | cons f files ih =>
    obtain ⟨hf, hfiles⟩ := List.forall_mem_cons.mp h
    rw [writeAll, write_of_read hf]
    exact ih hfiles

end ScriptBinding.Files.FileStore
