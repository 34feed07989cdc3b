import Mathlib.Data.List.Induction
import Mathlib.Data.List.Nodup
import Mathlib.Tactic.SplitIfs
import ScriptBinding.Keyed
import ScriptBinding.Methods.Dispatcher

/-!
Maps made of lists of pairs: each key once, where it comes first, with the value that it comes with last.
-/

namespace ScriptBinding

namespace Keyed

variable {κ α : Type} [DecidableEq κ] {m : Keyed κ α} {key : κ} {value : α} {p : κ × α}

/-- Each key of a list of pairs once, where it first comes, with the value that it has been given last. -/
structure Latest (pairs m : Keyed κ α) : Prop where
  inOrder : m.keys = firstOccurrences [] pairs.keys
  last : ∀ p ∈ m, ∃ before after, pairs = before ++ p :: after ∧ p.1 ∉ keys after

theorem keys_put (m : Keyed κ α) (key : κ) (value : α) :
    (put key value m).keys = if key ∈ m.keys then m.keys else m.keys ++ [key] := by
  induction m with
  | nil => rfl
  | cons p m ih =>
    obtain ⟨k, v⟩ := p
    by_cases hk : k = key
    · simp [put, keys, hk]
    · have hkey : key ∈ keys ((k, v) :: m) ↔ key ∈ keys m := by simp [keys, Ne.symm hk]
      have hput : put key value ((k, v) :: m) = (k, v) :: put key value m := by simp [put, hk]
      have hkeys (rest : Keyed κ α) : keys ((k, v) :: rest) = k :: keys rest := rfl
      rw [hput, hkeys, ih, hkeys]
      split_ifs with hmem hmem' hmem'
      · rfl
      · exact absurd (hkey.mpr hmem) hmem'
      · exact absurd (hkey.mp hmem') hmem
      · rfl

theorem nodup_keys_put (h : m.keys.Nodup) : (put key value m).keys.Nodup := by
  rw [keys_put]
  split_ifs with hkey
  · exact h
  · apply List.nodup_append.mpr
    refine ⟨h, List.nodup_singleton key, ?_⟩
    intro k hk k' hk' heq
    rw [List.mem_singleton.mp hk'] at heq
    exact hkey (heq ▸ hk)

theorem mem_put_of_nodup (h : m.keys.Nodup) (hp : p ∈ put key value m) : p = (key, value) ∨ p ∈ m ∧ p.1 ≠ key := by
  induction m with
  | nil => exact .inl (List.mem_singleton.mp hp)
  | cons q m ih =>
    obtain ⟨k, v⟩ := q
    obtain ⟨hk, hm⟩ := List.nodup_cons.mp h
    rw [put] at hp
    split at hp
    · next hkey =>
      obtain rfl : k = key := by simpa using hkey
      rcases List.mem_cons.mp hp with rfl | hp
      · exact .inl rfl
      · refine .inr ⟨List.mem_cons_of_mem _ hp, ?_⟩
        intro hsame
        exact hk (List.mem_map.mpr ⟨p, hp, hsame⟩)
    · next hkey =>
      rcases List.mem_cons.mp hp with rfl | hp
      · exact .inr ⟨List.mem_cons_self, by simpa using hkey⟩
      · exact (ih hm hp).imp_right fun hpm => ⟨List.mem_cons_of_mem _ hpm.1, hpm.2⟩

theorem keys_foldl_put (pairs m : Keyed κ α) {before : List κ} (hbefore : ∀ k, k ∈ before ↔ k ∈ m.keys) :
    (pairs.foldl (fun m p => put p.1 p.2 m) m).keys = m.keys ++ firstOccurrences before pairs.keys := by
  induction pairs generalizing m before with
  | nil => exact (List.append_nil _).symm
  | cons p pairs ih =>
    have hcons : firstOccurrences before (keys (p :: pairs)) =
        if p.1 ∈ before then firstOccurrences before (keys pairs)
        else p.1 :: firstOccurrences (p.1 :: before) (keys pairs) := by
      simp [keys, firstOccurrences]
    have hkeys := keys_put m p.1 p.2
    rw [List.foldl_cons, hcons]
    by_cases hp : p.1 ∈ before
    · rw [if_pos ((hbefore p.1).mp hp)] at hkeys
      rw [if_pos hp, ih _ fun k => by rw [hkeys, hbefore], hkeys]
    · rw [if_neg fun hmem => hp ((hbefore p.1).mpr hmem)] at hkeys
      have hnext : ∀ k, k ∈ p.1 :: before ↔ k ∈ keys (put p.1 p.2 m) := by
        intro k
        rw [hkeys, List.mem_cons, List.mem_append, List.mem_singleton, hbefore, or_comm]
      rw [if_neg hp, ih _ hnext, hkeys, List.append_assoc]
      rfl

/-- A pair in the map is the last one of its key, or it was there before and its key does not come again. -/
theorem mem_foldl_put {pairs : Keyed κ α} (h : m.keys.Nodup) (hp : p ∈ pairs.foldl (fun m p => put p.1 p.2 m) m) :
    (∃ before after, pairs = before ++ p :: after ∧ p.1 ∉ keys after) ∨ p ∈ m ∧ p.1 ∉ pairs.keys := by
  induction pairs generalizing m with
  | nil => exact .inr ⟨hp, List.not_mem_nil⟩
  | cons q pairs ih =>
    rcases ih (nodup_keys_put h) hp with ⟨before, after, rfl, hafter⟩ | ⟨hmem, hlast⟩
    · exact .inl ⟨q :: before, after, rfl, hafter⟩
    · rcases mem_put_of_nodup h hmem with rfl | ⟨hmem, hne⟩
      · exact .inl ⟨[], pairs, rfl, hlast⟩
      · refine .inr ⟨hmem, ?_⟩
        intro hq
        rcases List.mem_cons.mp hq with hq | hq
        · exact hne hq
        · exact hlast hq

theorem latest_ofPairs (pairs : Keyed κ α) : Latest pairs (ofPairs pairs) where
  inOrder := keys_foldl_put pairs [] (by simp [keys])
  last := by
    intro p hp
    rcases mem_foldl_put (m := []) List.nodup_nil hp with hlast | ⟨hnone, -⟩
    · exact hlast
    · cases hnone

theorem find?_reverse_of_last {pairs before after : Keyed κ α} (h : pairs = before ++ p :: after)
    (hp : p.1 ∉ keys after) : pairs.reverse.find? (·.1 = p.1) = some p := by
  have hafter : after.reverse.find? (·.1 = p.1) = none := by
    apply List.find?_eq_none.mpr
    intro q hq
    rw [decide_eq_true_eq]
    intro hsame
    exact hp (List.mem_map.mpr ⟨q, List.mem_reverse.mp hq, hsame⟩)
  rw [h, List.reverse_append, List.reverse_cons, List.append_assoc, List.find?_append, hafter]
  simp

theorem Latest.unique {pairs other : Keyed κ α} (h : Latest pairs m) (hother : Latest pairs other) : m = other := by
  have hvalue : ∀ p ∈ m, ∀ q ∈ other, p.1 = q.1 → p = q := by
    intro p hp q hq hsame
    obtain ⟨before, after, hpairs, hlast⟩ := h.last p hp
    obtain ⟨before', after', hpairs', hlast'⟩ := hother.last q hq
    have hfound := find?_reverse_of_last hpairs hlast
    rw [hsame, find?_reverse_of_last hpairs' hlast'] at hfound
    exact (Option.some.inj hfound).symm
  have hkeys : m.keys = other.keys := h.inOrder.trans hother.inOrder.symm
  clear h hother
  induction m generalizing other with
  | nil => exact (List.map_eq_nil_iff.mp hkeys.symm).symm
  | cons p m ih =>
    cases other with
    | nil => cases hkeys
    | cons q other =>
      obtain ⟨hpq, hkeys⟩ := List.cons.inj hkeys
      rw [hvalue p List.mem_cons_self q List.mem_cons_self hpq]
      exact congrArg _ (ih (fun p hp q hq => hvalue p (List.mem_cons_of_mem _ hp) q (List.mem_cons_of_mem _ hq)) hkeys)

/-- The values that a key is given, from the first to the last. -/
def valuesOf (pairs : Keyed κ α) (key : κ) : List α := (pairs.filter (·.1 = key)).map (·.2)

theorem valuesOf_concat (pairs : Keyed κ α) (p : κ × α) (key : κ) :
    valuesOf (pairs ++ [p]) key = valuesOf pairs key ++ if p.1 = key then [p.2] else [] := by
  by_cases hp : p.1 = key <;> simp [valuesOf, hp]

theorem get?_ofPairs (pairs : Keyed κ α) (key : κ) :
    (ofPairs pairs).get? key = (valuesOf pairs key).getLast? := by
  induction pairs using List.reverseRecOn with
  | nil => rfl
  | append_singleton pairs p ih =>
    have hput : ofPairs (pairs ++ [p]) = put p.1 p.2 (ofPairs pairs) := by
      rw [ofPairs, List.foldl_append]
      rfl
    rw [hput, get?_put, ih, valuesOf_concat]
    by_cases hp : p.1 = key
    · simp [hp]
    · simp [hp, Ne.symm hp]

end Keyed

end ScriptBinding
