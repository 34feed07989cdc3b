import ScriptBinding.Code.Writer
import ScriptBinding.Proofs.Code.OneLine

/-!
Fragments inside of other code. A fragment that is written apart and put in as text gives the lines that its steps
write in place: the levels add up, and the open blocks of the place are not touched.
-/

namespace ScriptBinding.Code

namespace Fragment

theorem indentBy_indentBy (outer inner : Nat) (code : Fragment) :
    indentBy outer (indentBy inner code) = indentBy (outer + inner) code := by
  induction inner generalizing code with
  | zero => rfl
  | succ inner ih => rw [indentBy, indentBy_indent, ih, ← Nat.add_assoc, indentBy]

theorem flat_indentBy {code : Fragment} (h : Flat code) (level : Nat) : Flat (indentBy level code) := by
  induction level with
  | zero => exact h
  | succ level ih => exact flat_indent ih

end Fragment

namespace Writer

open Fragment

/-- A step of a fragment of its own: what is written is a single line, unless it is split into lines, and only
levels and blocks are left that the fragment itself has entered. -/
def Step.Inner (w : Writer) : Step → Prop
  | .line text => OneLine text
  | .lines texts => ∀ text ∈ texts, OneLine text
  | .raw _ | .indent => True
  | .dedent => 0 < w.level
  | .enter header footer => OneLine header ∧ OneLine footer
  | .leave => 0 < w.level ∧ w.footers ≠ []

instance (w : Writer) : DecidablePred (Step.Inner w)
  | .line text => inferInstanceAs (Decidable (OneLine text))
  | .lines texts => inferInstanceAs (Decidable (∀ text ∈ texts, OneLine text))
  | .raw _ | .indent => inferInstanceAs (Decidable True)
  | .dedent => inferInstanceAs (Decidable (0 < w.level))
  | .enter header footer => inferInstanceAs (Decidable (OneLine header ∧ OneLine footer))
  | .leave => inferInstanceAs (Decidable (0 < w.level ∧ w.footers ≠ []))

def Inner (w : Writer) : List Step → Prop
  | [] => True
  | s :: steps => s.Inner w ∧ (w.step s).Inner steps

instance decidableInner (w : Writer) : DecidablePred w.Inner
  | [] => inferInstanceAs (Decidable True)
  | s :: steps =>
    have := decidableInner (w.step s) steps
    inferInstanceAs (Decidable (s.Inner w ∧ (w.step s).Inner steps))

/-- The place `outer` after the steps that have led a fragment's writer to `inner`. -/
def embed (outer inner : Writer) : Writer where
  code := outer.code ++ indentBy outer.level inner.code
  level := outer.level + inner.level
  footers := inner.footers ++ outer.footers

variable {outer inner : Writer}

theorem embed_empty (outer : Writer) : outer.embed {} = outer := by
  simp [embed]

theorem write_embed (code : Fragment) : (outer.embed inner).write code = outer.embed (inner.write code) := by
  simp [write, embed, indentBy_indentBy]

theorem dedent_embed (h : 0 < inner.level) : (outer.embed inner).dedent = outer.embed inner.dedent := by
  simp [dedent, embed, Nat.add_sub_assoc (show 1 ≤ inner.level from h)]

theorem openBlock_embed (header footer : String) :
    (outer.embed inner).openBlock header footer = outer.embed (inner.openBlock header footer) := by
  rw [openBlock, line, write_embed]
  rfl

theorem closeBlock_of_footers {w : Writer} {footer : String} {rest : List String} (h : w.footers = footer :: rest) :
    w.closeBlock = { w.dedent.line footer with footers := rest } := by
  rw [closeBlock, h]

theorem closeBlock_embed (hlevel : 0 < inner.level) (hopen : inner.footers ≠ []) :
    (outer.embed inner).closeBlock = outer.embed inner.closeBlock := by
  obtain ⟨footer, rest, hfooters⟩ := List.exists_cons_of_ne_nil hopen
  have houter : (outer.embed inner).footers = footer :: (rest ++ outer.footers) := by
    rw [embed, hfooters, List.cons_append]
  rw [closeBlock_of_footers houter, closeBlock_of_footers hfooters, dedent_embed hlevel, line, write_embed]
  rfl

theorem step_embed {s : Step} (h : s.Inner inner) : (outer.embed inner).step s = outer.embed (inner.step s) := by
  cases s with
  | line text => exact write_embed [text]
  | lines texts => rw [step, step, lines_eq_write, lines_eq_write, write_embed]
  | raw text => exact write_embed (ofText text)
  | indent => rfl
  | dedent => exact dedent_embed h
  | enter header footer => exact openBlock_embed header footer
  | leave => exact closeBlock_embed h.1 h.2

theorem run_embed (outer : Writer) {steps : List Step} (h : inner.Inner steps) :
    (outer.embed inner).run steps = outer.embed (inner.run steps) := by
  -- The place stays the same, and the writer of the fragment moves on.
  induction steps generalizing inner with
  | nil => rfl
  | cons s steps ih =>
    obtain ⟨hs, hsteps⟩ := h
    rw [run, List.foldl_cons, step_embed hs]
    exact ih hsteps

structure Flat (w : Writer) : Prop where
  code : Fragment.Flat w.code
  footers : ∀ footer ∈ w.footers, OneLine footer

theorem Flat.write {w : Writer} (h : w.Flat) {code : Fragment} (hcode : Fragment.Flat code) : (w.write code).Flat :=
  ⟨flat_append.mpr ⟨h.code, flat_indentBy hcode w.level⟩, h.footers⟩

theorem Flat.step {w : Writer} (h : w.Flat) {s : Step} (hs : s.Inner w) : (w.step s).Flat := by
  cases s with
  | line text => exact h.write (flat_cons.mpr ⟨hs, flat_nil⟩)
  | lines texts =>
    rw [Writer.step, lines_eq_write]
    exact h.write hs
  | raw text => exact h.write (flat_ofText text)
  | indent => exact ⟨h.code, h.footers⟩
  | dedent => exact ⟨h.code, h.footers⟩
  | enter header footer =>
    have hheader : (w.line header).Flat := h.write (flat_cons.mpr ⟨hs.1, flat_nil⟩)
    exact ⟨hheader.code, List.forall_mem_cons.mpr ⟨hs.2, h.footers⟩⟩
  | leave =>
    obtain ⟨footer, rest, hfooters⟩ := List.exists_cons_of_ne_nil hs.2
    have hopen := h.footers
    rw [hfooters, List.forall_mem_cons] at hopen
    have hdedent : w.dedent.Flat := ⟨h.code, h.footers⟩
    have hclosed : (w.dedent.line footer).Flat := hdedent.write (flat_cons.mpr ⟨hopen.1, flat_nil⟩)
    rw [Writer.step, closeBlock_of_footers hfooters]
    exact ⟨hclosed.code, hopen.2⟩

theorem Flat.run {w : Writer} (h : w.Flat) {steps : List Step} (hsteps : w.Inner steps) : (w.run steps).Flat := by
  induction steps generalizing w with
  | nil => exact h
  | cons s steps ih => exact ih (h.step hsteps.1) hsteps.2

/-- Put in as text, a fragment of at least one line gives the lines that its steps write in its place. -/
theorem raw_text_run (w : Writer) {steps : List Step} (h : Inner {} steps) (hne : (run {} steps).code ≠ []) :
    ∃ lines ≠ [], (w.run steps).code = w.code ++ lines ∧ (w.raw (run {} steps).text).code = w.code ++ lines := by
  have hflat : (run {} steps).Flat := Flat.run ⟨flat_nil, by simp⟩ h
  refine ⟨indentBy w.level (run {} steps).code, ?_, ?_, ?_⟩
  · rwa [← List.length_pos_iff, length_indentBy, List.length_pos_iff]
  · have hrun := run_embed w h
    rw [embed_empty] at hrun
    rw [hrun]
    rfl
  · rw [raw, text, ofText_toText hflat.code hne]
    rfl

/-- Without any line, there is an empty one. -/
example : (raw {} (run {} [.indent]).text).code = [""] := by decide

def guardedSteps : List Step :=
  [.enter "if (ready) \x7b" "\x7d", .raw "start();\n\nstop();", .leave, .indent, .lines ["a", ""], .dedent]

def openedFunction : Writer := openBlock {} "void run() \x7b" "\x7d"

theorem raw_text_run_guarded : Inner {} guardedSteps ∧ (run {} guardedSteps).code ≠ [] ∧
    ∃ lines ≠ [], (openedFunction.run guardedSteps).code = openedFunction.code ++ lines ∧
      (openedFunction.raw (run {} guardedSteps).text).code = openedFunction.code ++ lines :=
  ⟨by decide, by decide, raw_text_run openedFunction (by decide) (by decide)⟩

end Writer

end ScriptBinding.Code
