import Mathlib.Data.List.Pairwise
import ScriptBinding.Proofs.Methods.Vocabulary

/-!
The stages of a binding's code. They ascend from line to line, and each kind of action belongs to one stage.
-/

namespace ScriptBinding

structure Ascending (low high : Nat) (lines : List CodeLine) : Prop where
  low_le_high : low ≤ high
  ranks : ∀ l ∈ lines, low ≤ l.stage.rank ∧ l.stage.rank ≤ high
  pairwise : lines.Pairwise fun a b => a.stage.rank ≤ b.stage.rank

theorem Ascending.append {low mid mid' high : Nat} {as bs : List CodeLine} (ha : Ascending low mid as)
    (hb : Ascending mid' high bs) (h : mid ≤ mid') : Ascending low high (as ++ bs) := by
  have hlow := ha.low_le_high
  have hhigh := hb.low_le_high
  refine ⟨by omega, ?_, List.pairwise_append.mpr ⟨ha.pairwise, hb.pairwise, ?_⟩⟩
  · intro l hl
    rcases List.mem_append.mp hl with hl | hl
    · have := ha.ranks l hl
      omega
    · have := hb.ranks l hl
      omega
  · intro a hal b hbl
    have := ha.ranks a hal
    have := hb.ranks b hbl
    omega

theorem ascending_of_stage {stage : Stage} {lines : List CodeLine} (h : ∀ l ∈ lines, l.stage = stage) :
    Ascending stage.rank stage.rank lines :=
  ⟨Nat.le_refl _, fun l hl => by simp [h l hl],
    List.pairwise_of_forall_mem_list fun a ha b hb => by rw [h a ha, h b hb]⟩

theorem lt_of_rank_lt {lines : List CodeLine}
    (h : lines.Pairwise fun a b => a.stage.rank ≤ b.stage.rank) {j k : Nat} {a b : CodeLine}
    (ha : lines[j]? = some a) (hb : lines[k]? = some b) (hr : a.stage.rank < b.stage.rank) : j < k := by
  by_contra hjk
  obtain ⟨hj, rfl⟩ := List.getElem?_eq_some_iff.mp ha
  obtain ⟨hk, rfl⟩ := List.getElem?_eq_some_iff.mp hb
  rcases Nat.lt_or_eq_of_le (Nat.not_lt.mp hjk) with hlt | rfl
  · have := List.pairwise_iff_getElem.mp h k j hk hj hlt
    omega
  · omega

theorem filter_of_stage {stage : Stage} {lines : List CodeLine} (h : ∀ l ∈ lines, l.stage = stage)
    (other : Stage) : lines.filter (·.stage = other) = if stage = other then lines else [] := by
  split_ifs with hs
  · exact List.filter_eq_self.mpr fun l hl => by simp [h l hl, hs]
  · exact List.filter_eq_nil_iff.mpr fun l hl => by simp [h l hl, hs]

theorem filterMap_of_stage {f : CodeLine → Option Nat} {stage : Stage} {lines : List CodeLine}
    (h : ∀ l ∈ lines, (f l).isSome → l.stage = stage) :
    lines.filterMap f = (lines.filter (·.stage = stage)).filterMap f := by
  induction lines with
  | nil => rfl
  | cons l lines ih =>
    rw [List.filterMap_cons, ih fun l hl => h l (by simp [hl]), List.filter_cons]
    cases hf : f l with
    | none =>
      split_ifs
      · simp [hf]
      · rfl
    | some i =>
      have hstage := h l (by simp) (by simp [hf])
      simp [hstage, hf]

namespace CodeLine

variable {count : Nat} {l : CodeLine}

theorem stage_of_checked? (h : l.checked?.isSome) : l.stage = .check := by
  by_contra hs
  simp [checked?, hs] at h

theorem Fits.stage_of_converted? (hl : l.Fits count) (h : l.converted?.isSome) : l.stage = .read := by
  obtain ⟨i, hi⟩ := Option.isSome_iff_exists.mp h
  obtain ⟨t, ht, hti⟩ := List.exists_of_findSome?_eq_some hi
  have hfits := hl t ht
  cases t with
  | declared v =>
    cases v with
    | argument position => exact hfits
    | _ => cases hti
  | _ => cases hti

theorem Fits.stage_of_allocated? (hl : l.Fits count) (h : l.allocated?.isSome) : l.stage = .read := by
  by_cases hm : l.tokens.contains .allocate = true
  · exact hl .allocate (by simpa using hm)
  · rw [allocated?, if_neg hm] at h
    cases h

theorem Fits.stage_of_released? (hl : l.Fits count) (h : l.released?.isSome) : l.stage = .release := by
  by_cases hm : l.tokens.contains .release = true
  · exact hl .release (by simpa using hm)
  · rw [released?, if_neg hm] at h
    cases h

theorem Fits.stage_of_returns (hl : l.Fits count) (h : l.returns) :
    l.stage = .receiver ∨ l.stage = .check ∨ l.stage = .result :=
  hl .leave (by simpa [returns] using h)

end CodeLine

namespace Target

variable {c : Target} {m : Method} {signature : Option String}

theorem stage_of_mem_commentLines : ∀ l ∈ commentLines signature, l.stage = .comment := by
  intro l hl
  obtain ⟨s, -, rfl⟩ := List.mem_map.mp hl
  rfl

theorem stage_of_mem_receiverLines : ∀ l ∈ c.receiverLines m, l.stage = .receiver := by
  rw [receiverLines]
  split <;> simp

theorem stage_of_mem_checkLines : ∀ l ∈ (m.parameters.zipIdx.flatMap fun (type, position) =>
    c.checkLines m type position), l.stage = .check := by
  intro l hl
  obtain ⟨p, -, hl⟩ := List.mem_flatMap.mp hl
  simp only [checkLines, List.mem_cons, List.not_mem_nil, or_false] at hl
  rcases hl with rfl | rfl | rfl <;> rfl

theorem stage_of_mem_readLines : ∀ l ∈ (m.parameters.zipIdx.flatMap fun (type, position) =>
    readLines type position), l.stage = .read := by
  intro l hl
  obtain ⟨⟨type, position⟩, -, hl⟩ := List.mem_flatMap.mp hl
  simp only [readLines] at hl
  split at hl
  · simp only [textLines, List.mem_cons, List.not_mem_nil, or_false] at hl
    rcases hl with rfl | rfl | rfl | rfl <;> rfl
  · rw [List.mem_singleton.mp hl]
  · rw [List.mem_singleton.mp hl]

theorem stage_of_mem_releaseLines : ∀ l ∈ (m.parameters.zipIdx.flatMap fun (type, position) =>
    releaseLines type position), l.stage = .release := by
  intro l hl
  obtain ⟨⟨type, position⟩, -, hl⟩ := List.mem_flatMap.mp hl
  simp only [releaseLines] at hl
  split at hl
  · rw [List.mem_singleton.mp hl]
  · cases hl

theorem ascending_listing (c : Target) (m : Method) (signature : Option String) :
    Ascending 0 6 (c.listing m signature) := by
  have hcall : Ascending Stage.call.rank Stage.call.rank [c.callLine m] :=
    ascending_of_stage (by simp [callLine])
  have hresult : Ascending Stage.result.rank Stage.result.rank [c.resultLine m] :=
    ascending_of_stage (by simp [resultLine])
  exact ((((((ascending_of_stage stage_of_mem_commentLines).append
    (ascending_of_stage stage_of_mem_receiverLines) (by decide)).append
    (ascending_of_stage stage_of_mem_checkLines) (by decide)).append
    (ascending_of_stage stage_of_mem_readLines) (by decide)).append hcall (by decide)).append
    (ascending_of_stage stage_of_mem_releaseLines) (by decide)).append hresult (by decide)

theorem filter_listing (stage : Stage) : (c.listing m signature).filter (·.stage = stage) =
    match stage with
    | .comment => commentLines signature
    | .receiver => c.receiverLines m
    | .check => m.parameters.zipIdx.flatMap fun (type, position) => c.checkLines m type position
    | .read => m.parameters.zipIdx.flatMap fun (type, position) => readLines type position
    | .call => [c.callLine m]
    | .release => m.parameters.zipIdx.flatMap fun (type, position) => releaseLines type position
    | .result => [c.resultLine m] := by
  have hcall : ∀ l ∈ [c.callLine m], l.stage = .call := by simp [callLine]
  have hresult : ∀ l ∈ [c.resultLine m], l.stage = .result := by simp [resultLine]
  simp only [listing, List.filter_append, filter_of_stage stage_of_mem_commentLines,
    filter_of_stage stage_of_mem_receiverLines, filter_of_stage stage_of_mem_checkLines,
    filter_of_stage stage_of_mem_readLines, filter_of_stage hcall,
    filter_of_stage stage_of_mem_releaseLines, filter_of_stage hresult]
  cases stage <;> simp

theorem getLast?_listing (c : Target) (m : Method) (signature : Option String) :
    (c.listing m signature).getLast? = some (c.resultLine m) := by
  rw [listing, List.getLast?_append]
  rfl

theorem stage_ne_result {j : Nat} {a : CodeLine} (ha : (c.listing m signature)[j]? = some a)
    (hj : j + 1 < (c.listing m signature).length) : a.stage ≠ .result := by
  rw [listing, List.length_append, List.length_singleton] at hj
  rw [listing, List.getElem?_append_left (by omega)] at ha
  have hmem := List.mem_of_getElem? ha
  simp only [List.mem_append, List.mem_singleton] at hmem
  rcases hmem with ((((hmem | hmem) | hmem) | hmem) | rfl) | hmem
  · simp [stage_of_mem_commentLines a hmem]
  · simp [stage_of_mem_receiverLines a hmem]
  · simp [stage_of_mem_checkLines a hmem]
  · simp [stage_of_mem_readLines a hmem]
  · simp [callLine]
  · simp [stage_of_mem_releaseLines a hmem]

theorem lt_of_stage_ne_result {j : Nat} {a : CodeLine} (ha : (c.listing m signature)[j]? = some a)
    (hs : a.stage ≠ .result) : j + 1 < (c.listing m signature).length := by
  obtain ⟨hj, rfl⟩ := List.getElem?_eq_some_iff.mp ha
  by_contra hlast
  have hlen : j = (c.listing m signature).length - 1 := by omega
  have hget := getLast?_listing c m signature
  rw [List.getLast?_eq_getElem?, ← hlen, ha] at hget
  rw [Option.some.inj hget] at hs
  exact hs rfl

end Target

end ScriptBinding
