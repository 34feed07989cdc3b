import Mathlib.Data.List.Basic
import ScriptBinding.Module.Manifest
import ScriptBinding.Proofs.Module.Mentions

/-!
The manifest of a module names one function to be called first, whatever the library is called: a name of a
library cannot break its line.
-/

namespace ScriptBinding

open Code

namespace Manifest

/-- Space to tilde. -/
def Visible (cs : List Char) : Prop := ∀ c ∈ cs, 0x20 ≤ c.toNat ∧ c.toNat ≤ 0x7e

instance : DecidablePred Visible := fun cs =>
  decidable_of_iff (cs.all (fun c => 0x20 ≤ c.toNat ∧ c.toNat ≤ 0x7e) = true) (by simp [Visible])

theorem visible_append {as bs : List Char} : Visible (as ++ bs) ↔ Visible as ∧ Visible bs := List.forall_mem_append

theorem visible_hexDigits (width n : Nat) : Visible (Text.hexDigits width n) := by
  have hdigit : ∀ n < 16, Visible [Text.hexDigit n] := by decide
  induction width generalizing n with
  | zero => exact List.forall_mem_nil _
  | succ width ih => exact visible_append.mpr ⟨ih (n / 16), hdigit (n % 16) (Nat.mod_lt n (by decide))⟩

theorem visible_unitEscape (n : Nat) : Visible (unitEscape n) :=
  visible_append.mpr ⟨show Visible ['\\', 'u'] by decide, visible_hexDigits 4 n⟩

theorem visible_jsonChar (c : Char) : Visible (jsonChar c) := by
  rw [jsonChar]
  split_ifs with hself hnewline hreturn htab hfeed hbackspace hplain hunit
  · rcases (by simpa using hself : c = '"' ∨ c = '\\') with rfl | rfl <;> decide
  · decide
  · decide
  · decide
  · decide
  · decide
  · rw [Visible, List.forall_mem_singleton]
    simpa using hplain
  · exact visible_unitEscape _
  · exact visible_append.mpr ⟨visible_unitEscape _, visible_unitEscape _⟩

theorem toList_jsonString (text : String) :
    (jsonString text).toList = '"' :: (text.toList.flatMap jsonChar ++ ['"']) := by
  have hquote : "\"".toList = ['"'] := rfl
  simp only [jsonString, String.toList_append, String.toList_ofList, hquote]
  rfl

theorem visible_jsonString (text : String) : Visible (jsonString text).toList := by
  have htext : Visible (text.toList.flatMap jsonChar) := by
    intro c hc
    obtain ⟨d, -, hd⟩ := List.mem_flatMap.mp hc
    exact visible_jsonChar d c hd
  have hquote : Visible ['"'] := by decide
  rw [toList_jsonString]
  exact visible_append.mpr ⟨hquote, visible_append.mpr ⟨htext, hquote⟩⟩

theorem oneLine_jsonString (text : String) : OneLine (jsonString text) := by
  intro hnewline
  obtain ⟨hlow, -⟩ := visible_jsonString text '\n' hnewline
  exact absurd hlow (by decide)

theorem jsonChar_of_isNameChar {c : Char} (h : isNameChar c = true) : jsonChar c = [c] := by
  have hne {d : Char} (hd : isNameChar d = false) : c ≠ d := ne_of_isNameChar h hd
  have hrange : 0x20 ≤ c.toNat ∧ c.toNat ≤ 0x7e := by
    have hcode : c.toNat = c.val.toNat := rfl
    have hends : 'A'.val.toNat = 65 ∧ 'Z'.val.toNat = 90 ∧ 'a'.val.toNat = 97 ∧ 'z'.val.toNat = 122 ∧
        '0'.val.toNat = 48 ∧ '9'.val.toNat = 57 := by decide
    simp only [isNameChar, isLetter, isDigit, Bool.or_eq_true, Bool.and_eq_true, decide_eq_true_eq, Char.le_def,
      UInt32.le_iff_toNat_le] at h
    rcases h with h | rfl
    · omega
    · decide
  simp [jsonChar, hne (show isNameChar '"' = false by decide), hne (show isNameChar '\\' = false by decide),
    hne (show isNameChar '\n' = false by decide), hne (show isNameChar '\r' = false by decide),
    hne (show isNameChar '\t' = false by decide), hne (show isNameChar '\x0c' = false by decide),
    hne (show isNameChar '\x08' = false by decide), hrange]

theorem jsonString_of_isPart {text : String} (h : IsPart text) : jsonString text = "\"" ++ text ++ "\"" := by
  have hplain : text.toList.flatMap jsonChar = text.toList := by
    rw [List.flatMap_congr fun c hc => jsonChar_of_isNameChar (h c hc), List.flatMap_singleton']
  rw [jsonString, hplain, String.ofList_toList]

end Manifest

def entryFrame : Frame := ⟨"      \"init\": \"", "\","⟩

/-- The functions that a manifest names as those to be called first. -/
def manifestEntries (manifest : String) : List String :=
  (Fragment.ofText manifest).filterMap fun line => entryFrame.read? line.toList

theorem manifestEntries_manifest (library : String) {init : String} (h : IsName init) :
    manifestEntries (Manifest.manifest library init) = [init] := by
  have hfixed : ∀ line ∈ ["\x7b", "  \"modules\": \x7b", "      \"native_files\": [],",
      "      \"cmakefile\": \"module.cmake\"", "    \x7d", "  \x7d", "\x7d", ""],
      OneLine line ∧ entryFrame.read? line.toList = none := by decide
  have hlibrary : OneLine ("    " ++ Manifest.jsonString library ++ ": \x7b") ∧
      entryFrame.read? ("    " ++ Manifest.jsonString library ++ ": \x7b").toList = none := by
    refine ⟨oneLine_between (by decide) (Manifest.oneLine_jsonString library) (by decide), ?_⟩
    apply Frame.read?_eq_none
    have hstart : "    \"".toList <+: ("    " ++ Manifest.jsonString library ++ ": \x7b").toList := by
      apply begins_append
      rw [Manifest.jsonString, ← String.append_assoc, ← String.append_assoc]
      exact begins_append (begins_append (by decide) _) _
    exact (show Apart "    \"" entryFrame.before by decide).not_begins hstart
  have hinit : OneLine ("      \"init\": " ++ Manifest.jsonString init ++ ",") ∧
      entryFrame.read? ("      \"init\": " ++ Manifest.jsonString init ++ ",").toList = some init := by
    refine ⟨oneLine_between (by decide) (Manifest.oneLine_jsonString init) (by decide), ?_⟩
    have hbefore : entryFrame.before = "      \"init\": " ++ "\"" := by decide
    have hafter : entryFrame.after = "\"" ++ "," := by decide
    have hline : "      \"init\": " ++ Manifest.jsonString init ++ "," = entryFrame.text init := by
      rw [Manifest.jsonString_of_isPart h.2.2, Frame.text, hbefore, hafter]
      simp only [String.append_assoc]
    rw [hline]
    exact Frame.read?_text h (by decide)
  simp only [List.forall_mem_cons, List.not_mem_nil, false_implies, implies_true, and_true] at hfixed
  rw [manifestEntries, Manifest.manifest, ← Fragment.toText, Fragment.ofText_toText]
  · simp only [List.filterMap_cons, List.filterMap_nil, hfixed, hlibrary, hinit]
  · simp only [Fragment.flat_cons, Fragment.flat_nil, hfixed, hlibrary, hinit, and_true]
  · exact List.cons_ne_nil _ _

end ScriptBinding
