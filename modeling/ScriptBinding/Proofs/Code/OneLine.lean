import ScriptBinding.Code.Fragment
import ScriptBinding.Code.Literal
import ScriptBinding.Proofs.Text.Digits

/-!
Code whose elements are single lines: the text made of it is split into the same lines again.
-/

namespace ScriptBinding.Code

open Text

def OneLine (s : String) : Prop := '\n' ∉ s.toList

instance : DecidablePred OneLine := fun s => inferInstanceAs (Decidable ('\n' ∉ s.toList))

@[simp] theorem oneLine_append {s t : String} : OneLine (s ++ t) ↔ OneLine s ∧ OneLine t := by
  simp [OneLine]

/-- For texts that are written out, whose characters the checker need not decode. -/
theorem oneLine_ofList {cs : List Char} (h : '\n' ∉ cs) : OneLine (String.ofList cs) := by
  rw [OneLine, String.toList_ofList]
  exact h

theorem oneLine_between {before after : List Char} {text : String} (hbefore : '\n' ∉ before) (h : OneLine text)
    (hafter : '\n' ∉ after) : OneLine (String.ofList before ++ text ++ String.ofList after) :=
  oneLine_append.mpr ⟨oneLine_append.mpr ⟨oneLine_ofList hbefore, h⟩, oneLine_ofList hafter⟩

theorem oneLine_intercalate {sep : String} {parts : List String} (hs : OneLine sep)
    (h : ∀ s ∈ parts, OneLine s) : OneLine (String.intercalate sep parts) := by
  rw [OneLine, String.toList_intercalate]
  induction parts with
  | nil => simp
  | cons s parts ih =>
    cases parts with
    | nil => exact List.intercalate_singleton ▸ h s (by simp)
    | cons t parts =>
      have ht := ih fun s hs => h s (by simp [hs])
      rw [List.map_cons, List.map_cons, List.intercalate_cons_cons, List.mem_append, List.mem_append]
      exact fun hm => hm.elim (·.elim (h s (by simp)) hs) ht

theorem oneLine_nat (n : Nat) : OneLine (toString n) := by
  have hall : ∀ d < 10, Nat.digitChar d ≠ '\n' := by decide
  intro hm
  obtain ⟨d, hd, h⟩ := mem_toDigits (by decide) (show '\n' ∈ Nat.toDigits 10 n by simpa using hm)
  exact hall d hd h.symm

theorem oneLine_int (i : Int) : OneLine (toString i) := by
  have h : toString i = if 0 ≤ i then toString i.toNat else "-" ++ toString (-i).toNat :=
    Int.repr_eq_if
  rw [h]
  split
  · exact oneLine_nat _
  · exact oneLine_append.mpr ⟨by decide, oneLine_nat _⟩

theorem oneLine_stringLiteral {s : String} (h : OneLine s) : OneLine (stringLiteral s) := by
  simp only [stringLiteral, oneLine_append]
  refine ⟨⟨by decide, ?_⟩, by decide⟩
  rw [OneLine, String.toList_ofList, escapeChars, List.mem_flatMap]
  rintro ⟨c, hc, hm⟩
  have hne : c ≠ '\n' := fun he => h (he ▸ hc)
  rw [escapeChar] at hm
  split at hm
  · simp [hne.symm] at hm
  · simp [hne.symm] at hm

theorem oneLine_scriptTypeError {s : String} (h : OneLine s) : OneLine (scriptTypeError s) := by
  unfold scriptTypeError
  rw [oneLine_append, oneLine_append]
  exact ⟨⟨by decide, oneLine_stringLiteral h⟩, by decide⟩

theorem getLast?_append_of_getLast? {s t : String} {c : Char} (h : t.toList.getLast? = some c) :
    (s ++ t).toList.getLast? = some c := by
  rw [String.toList_append, List.getLast?_append, h]
  rfl

namespace Fragment

def Flat (code : Fragment) : Prop := ∀ l ∈ code, OneLine l

@[simp] theorem flat_nil : Flat [] := by simp [Flat]

@[simp] theorem flat_cons {l : String} {code : Fragment} : Flat (l :: code) ↔ OneLine l ∧ Flat code := by
  simp [Flat]

@[simp] theorem flat_append {a b : Fragment} : Flat (a ++ b) ↔ Flat a ∧ Flat b := by
  simp [Flat, or_imp, forall_and]

theorem flat_indent {code : Fragment} (h : Flat code) : Flat (indent code) := by
  intro l hl
  obtain ⟨m, hm, rfl⟩ := List.mem_map.mp hl
  rw [indentLine]
  split
  · exact h m hm
  · exact oneLine_append.mpr ⟨by decide, h m hm⟩

theorem flat_block {header footer : String} {body : Fragment} (hh : OneLine header) (hb : Flat body)
    (hf : OneLine footer) : Flat (block header body footer) := by
  simp [block, hh, flat_indent hb, hf]

theorem map_toList_ofText (text : String) : (ofText text).map String.toList = text.toList.splitOn '\n' := by
  simp [ofText]

theorem toText_ofText (text : String) : toText (ofText text) = text := by
  apply String.toList_inj.mp
  rw [toText, String.toList_intercalate, map_toList_ofText]
  exact List.intercalate_splitOn '\n'

theorem ofText_toText {code : Fragment} (h : Flat code) (hne : code ≠ []) : ofText (toText code) = code := by
  have hmem : ∀ l ∈ code.map String.toList, '\n' ∉ l := by
    intro l hl
    obtain ⟨m, hm, rfl⟩ := List.mem_map.mp hl
    exact h m hm
  rw [ofText, toText, String.toList_intercalate]
  have hsplit := List.splitOn_intercalate '\n' hmem (by simpa using hne)
  rw [show "\n".toList = ['\n'] from rfl, hsplit]
  simp

theorem notMem_of_mem_splitOn {a : Char} {cs l : List Char} (h : l ∈ cs.splitOn a) : a ∉ l := by
  induction cs generalizing l with
  | nil => simp_all
  | cons c cs ih =>
    rw [List.splitOn_cons_eq_if_modifyHead] at h
    split at h
    · rcases List.mem_cons.mp h with rfl | h
      · exact List.not_mem_nil
      · exact ih h
    · next hc =>
      cases hs : cs.splitOn a with
      | nil => simp [hs] at h
      | cons m ms =>
        rw [hs, List.modifyHead_cons] at h
        rcases List.mem_cons.mp h with rfl | h
        · simp [Ne.symm (show c ≠ a by simpa using hc), ih (l := m) (by simp [hs])]
        · exact ih (by simp [hs, h])

theorem flat_ofText (text : String) : Flat (ofText text) := by
  intro l hl
  obtain ⟨m, hm, rfl⟩ := List.mem_map.mp hl
  rw [OneLine, String.toList_ofList]
  exact notMem_of_mem_splitOn hm

theorem ofText_ne_nil (text : String) : ofText text ≠ [] := by
  simp [ofText]

theorem toText_flatMap_ofText (code : Fragment) : toText (code.flatMap ofText) = toText code := by
  induction code with
  | nil => rfl
  | cons l code ih =>
    cases code with
    | nil => rw [List.flatMap_singleton, toText_ofText, toText, String.intercalate_singleton]
    | cons m code =>
      have hne : (m :: code).flatMap ofText ≠ [] := by simp [ofText_ne_nil]
      rw [toText] at ih
      rw [List.flatMap_cons, toText, String.intercalate_append_of_ne_nil (ofText_ne_nil l) hne, ih, ← toText,
        toText_ofText, toText, toText, String.intercalate_cons_cons]

theorem ofText_toText_eq_flatMap {code : Fragment} (hne : code ≠ []) :
    ofText (toText code) = code.flatMap ofText := by
  rw [← toText_flatMap_ofText]
  apply ofText_toText
  · intro l hl
    obtain ⟨text, -, hl⟩ := List.mem_flatMap.mp hl
    exact flat_ofText text l hl
  · intro hempty
    apply hne
    apply List.eq_nil_iff_forall_not_mem.mpr
    intro text htext
    exact ofText_ne_nil text (List.flatMap_eq_nil_iff.mp hempty text htext)

theorem ofText_of_oneLine {l : String} (h : OneLine l) : ofText l = [l] := by
  have htext : toText [l] = l := String.intercalate_singleton
  have hread := ofText_toText (flat_cons.mpr ⟨h, flat_nil⟩) (List.cons_ne_nil l [])
  rwa [htext] at hread

theorem flatMap_ofText {code : Fragment} (h : Flat code) : code.flatMap ofText = code := by
  induction code with
  | nil => rfl
  | cons l code ih =>
    obtain ⟨hl, hcode⟩ := flat_cons.mp h
    rw [List.flatMap_cons, ofText_of_oneLine hl, ih hcode]
    rfl

end Fragment

end ScriptBinding.Code
