/-!
Maps that remember the order in which their keys first came.
-/

namespace ScriptBinding

abbrev Keyed (κ α : Type) := List (κ × α)

namespace Keyed

variable {κ α : Type} [BEq κ]

/-- Gives `key` a value: at its old place if it has one, otherwise at the end. -/
def put (key : κ) (value : α) : Keyed κ α → Keyed κ α
  | [] => [(key, value)]
  | (k, v) :: rest => if k == key then (key, value) :: rest else (k, v) :: put key value rest

def get? : Keyed κ α → κ → Option α
  | [], _ => none
  | (k, v) :: rest, key => if k == key then some v else get? rest key

def has (m : Keyed κ α) (key : κ) : Bool := (m.get? key).isSome

def keys (m : Keyed κ α) : List κ := m.map (·.1)

/-- The map of a list of pairs, later values of a key replacing earlier ones. -/
def ofPairs (pairs : List (κ × α)) : Keyed κ α := pairs.foldl (fun m p => put p.1 p.2 m) []

theorem get?_put [LawfulBEq κ] (m : Keyed κ α) (key other : κ) (value : α) :
    (put key value m).get? other = if other == key then some value else m.get? other := by
  induction m with
  | nil => grind [put, get?]
  | cons p rest ih => grind [put, get?]

theorem put_of_get? [LawfulBEq κ] {m : Keyed κ α} {key : κ} {value : α} (h : m.get? key = some value) :
    put key value m = m := by
  induction m with
  | nil => cases h
  | cons p rest ih => grind [put, get?]

theorem put_of_notMem [LawfulBEq κ] {m : Keyed κ α} {key : κ} (value : α) (h : key ∉ m.keys) :
    put key value m = m ++ [(key, value)] := by
  induction m with
  | nil => rfl
  | cons p rest ih => grind [put, keys]

theorem ofPairs_of_nodup [LawfulBEq κ] {pairs : List (κ × α)} (h : (keys pairs).Nodup) :
    ofPairs pairs = pairs := by
  have hfold (m : Keyed κ α) (hm : (keys (m ++ pairs)).Nodup) :
      pairs.foldl (fun m p => put p.1 p.2 m) m = m ++ pairs := by
    clear h
    induction pairs generalizing m with
    | nil => simp
    | cons p rest ih =>
      have hp : p.1 ∉ keys m := by
        simp only [keys, List.map_append, List.map_cons, List.nodup_append, List.nodup_cons] at hm
        exact fun hmem => hm.2.2 _ hmem _ (by simp) rfl
      rw [List.foldl_cons, put_of_notMem _ hp, ih _ (by simpa using hm), List.append_assoc]
      rfl
  exact hfold [] h

theorem mem_of_mem_put {m : Keyed κ α} {key : κ} {value : α} {p : κ × α} (h : p ∈ put key value m) :
    p = (key, value) ∨ p ∈ m := by
  induction m with
  | nil => exact .inl (List.mem_singleton.mp h)
  | cons q rest ih =>
    obtain ⟨k, v⟩ := q
    rw [put] at h
    split at h
    · exact (List.mem_cons.mp h).imp_right (List.mem_cons_of_mem _)
    · rcases List.mem_cons.mp h with rfl | h
      · exact .inr (by simp)
      · exact (ih h).imp_right (List.mem_cons_of_mem _)

theorem mem_of_mem_ofPairs {pairs : List (κ × α)} {p : κ × α} (h : p ∈ ofPairs pairs) : p ∈ pairs := by
  have hfold (m : Keyed κ α) (hp : p ∈ pairs.foldl (fun m p => put p.1 p.2 m) m) : p ∈ pairs ∨ p ∈ m := by
    clear h
    induction pairs generalizing m with
    | nil => exact .inr hp
    | cons q rest ih =>
      rcases ih _ hp with h | h
      · exact .inl (List.mem_cons_of_mem _ h)
      · exact (mem_of_mem_put h).imp_left fun he => by simp [he]
  simpa using hfold [] h

theorem exists_mem_of_get? {m : Keyed κ α} {key : κ} {value : α} (h : m.get? key = some value) :
    ∃ k, (k, value) ∈ m := by
  induction m with
  | nil => cases h
  | cons q rest ih =>
    obtain ⟨k, v⟩ := q
    rw [get?] at h
    split at h
    · exact ⟨k, by simp [Option.some.inj h]⟩
    · obtain ⟨k', hk⟩ := ih h
      exact ⟨k', List.mem_cons_of_mem _ hk⟩

end Keyed

end ScriptBinding
