import Mathlib.Logic.Function.Iterate
import ScriptBinding.Proofs.Code.OneLine
import ScriptBinding.Proofs.Module.Mentions
import ScriptBinding.Text.Blank

/-!
The depth of blocks, counted line by line. Code is well nested if no line closes a block that is not open, all blocks
are closed at its end, every line is indented by its depth, and parts of a file start outside of all blocks.
-/

namespace ScriptBinding

open Code Text

def opensBlock (line : String) : Bool := line.toList.getLast? = some '\x7b'

def closesBlock (line : String) : Bool := trim line.toList = ['\x7d']

def isBlankLine (line : String) : Bool := trim line.toList = []

/-- A bare brace or a condition, which open blocks inside of functions. -/
def OpensInside (line : String) : Prop := outdented line = ['\x7b'] ∨ "if (".toList <+: outdented line

/-- The start of a comment on a function, or the header of a function. -/
def StartsPart (line : String) : Prop :=
  outdented line = "/**".toList ∨ opensBlock line = true ∧ ¬ OpensInside line

/-- The depth behind a line. -/
def depthBehind (depth : Nat) (line : String) : Nat :=
  if closesBlock line then depth - 1 else if opensBlock line then depth + 1 else depth

/-- What is asked of a line before which so many blocks are open. One that closes a block is indented like what
comes behind it. -/
structure Sits (depth : Nat) (line : String) : Prop where
  opened : closesBlock line = true → 0 < depth
  outside : StartsPart line → depth = 0
  indented : isBlankLine line = false →
    List.replicate (4 * if closesBlock line then depth - 1 else depth) ' ' <+: line.toList

/-- The depth goes from `first` to the last one, and every line sits at its own. -/
inductive Scans : Nat → Fragment → Nat → Prop where
  | nil (depth : Nat) : Scans depth [] depth
  | cons {first last : Nat} {line : String} {code : Fragment} : Sits first line →
      Scans (depthBehind first line) code last → Scans first (line :: code) last

def WellNested (code : Fragment) : Prop := Scans 0 code 0

/-- Code that can be written where so many blocks are open. -/
def NestsAt (depth : Nat) (code : Fragment) : Prop := Scans depth (Fragment.indentBy depth code) depth

theorem Scans.append {first middle last : Nat} {a b : Fragment} (ha : Scans first a middle) (hb : Scans middle b last) :
    Scans first (a ++ b) last := by
  induction ha with
  | nil => exact hb
  | cons hline _ ih => exact .cons hline (ih hb)

/-- A line that leaves the depth as it is and may stand at any. -/
structure Level (line : String) : Prop where
  closes : closesBlock line = false
  opens : opensBlock line = false
  inner : outdented line ≠ "/**".toList

theorem Level.not_startsPart {line : String} (h : Level line) : ¬ StartsPart line := by
  rintro (hcomment | ⟨hopens, -⟩)
  · exact h.inner hcomment
  · rw [h.opens] at hopens
    cases hopens

section LastCharacter

/-- The last character of a line that neither opens nor closes a block or a comment. -/
def isQuietEnd (c : Char) : Bool := c ≠ '\x7b' && c ≠ '\x7d' && c ≠ '*' && !isBlank c

def EndsQuietly (line : String) : Prop := line.toList.getLast?.any isQuietEnd = true

theorem getLast?_trim_concat {c : Char} (h : isBlank c = false) (cs : List Char) :
    (trim (cs ++ [c])).getLast? = some c := by
  have hstart : trimStart (cs ++ [c]) = trimStart cs ++ [c] := by
    rw [trimStart, List.dropWhile_append]
    split
    · next hempty => simp [List.isEmpty_iff.mp hempty, trimStart, h]
    · rfl
  rw [trim, hstart, trimEnd_concat h, List.getLast?_concat]

theorem closesBlock_eq_false {line : String} {c : Char} (hlast : line.toList.getLast? = some c)
    (hblank : isBlank c = false) (hc : c ≠ '\x7d') : closesBlock line = false := by
  obtain ⟨cs, hcs⟩ := List.getLast?_eq_some_iff.mp hlast
  apply decide_eq_false
  intro hclose
  have hend := getLast?_trim_concat hblank cs
  rw [← hcs, hclose] at hend
  exact hc (Option.some.inj hend).symm

theorem getLast?_of_comment {line : String} (h : outdented line = "/**".toList) : line.toList.getLast? = some '*' := by
  have hsuffix : outdented line <:+ line.toList := List.dropWhile_suffix _
  obtain ⟨start, hline⟩ := hsuffix
  rw [← hline, h, List.getLast?_append]
  rfl

theorem EndsQuietly.level {line : String} (h : EndsQuietly line) : Level line := by
  obtain ⟨c, hlast, hc⟩ := (Option.any_eq_true _ _).mp h
  simp only [isQuietEnd, Bool.and_eq_true, decide_eq_true_eq, Bool.not_eq_true'] at hc
  obtain ⟨⟨⟨hopen, hclose⟩, hstar⟩, hblank⟩ := hc
  refine ⟨closesBlock_eq_false hlast hblank hclose, ?_, ?_⟩
  · apply decide_eq_false
    rw [hlast]
    exact fun heq => hopen (Option.some.inj heq)
  · intro hcomment
    exact hstar (Option.some.inj (hlast.symm.trans (getLast?_of_comment hcomment)))

theorem EndsQuietly.behind {line : String} (h : EndsQuietly line) (start : String) : EndsQuietly (start ++ line) := by
  obtain ⟨c, hlast, hc⟩ := (Option.any_eq_true _ _).mp h
  rw [EndsQuietly, getLast?_append_of_getLast? hlast]
  exact hc

theorem endsQuietly_ofList {cs : List Char} (h : cs.getLast?.any isQuietEnd = true) :
    EndsQuietly (String.ofList cs) := by
  rw [EndsQuietly, String.toList_ofList]
  exact h

theorem level_ofList {cs : List Char} (h : cs.getLast?.any isQuietEnd = true) : Level (String.ofList cs) :=
  (endsQuietly_ofList h).level

theorem level_append {cs : List Char} (h : cs.getLast?.any isQuietEnd = true) (start : String) :
    Level (start ++ String.ofList cs) := ((endsQuietly_ofList h).behind start).level

theorem level_empty : Level "" := ⟨by decide, by decide, by decide⟩

theorem opensBlock_append {cs : List Char} (h : cs.getLast? = some '\x7b') (start : String) :
    opensBlock (start ++ String.ofList cs) = true := by
  apply decide_eq_true
  apply getLast?_append_of_getLast?
  rw [String.toList_ofList]
  exact h

theorem closesBlock_of_opensBlock {line : String} (h : opensBlock line = true) : closesBlock line = false :=
  closesBlock_eq_false (of_decide_eq_true h) (by decide) (by decide)

theorem opensInside_of_condition {line : String} (h : "if (".toList <+: line.toList) : OpensInside line := by
  right
  rw [outdented_of_head (head?_ne_of_begins h (head_ofList (by decide)))]
  exact h

end LastCharacter

section Indentation

variable {line : String}

theorem trim_indentLine (line : String) : trim (Fragment.indentLine line).toList = trim line.toList := by
  rw [Fragment.indentLine]
  split
  · rfl
  · rw [String.toList_append, trim, trim]
    rfl

theorem opensBlock_indentLine (line : String) : opensBlock (Fragment.indentLine line) = opensBlock line := by
  rw [Fragment.indentLine]
  split
  · rfl
  · next hne =>
    have hlast : line.toList.getLast? ≠ none := by simpa [String.isEmpty_iff] using hne
    obtain ⟨c, hc⟩ := Option.ne_none_iff_exists'.mp hlast
    rw [opensBlock, opensBlock, getLast?_append_of_getLast? hc, hc]

theorem indentBy_eq_map (depth : Nat) (code : Fragment) :
    Fragment.indentBy depth code = code.map Fragment.indentLine^[depth] := by
  induction depth with
  | zero => exact (List.map_id code).symm
  | succ depth ih => rw [Fragment.indentBy, ih, Fragment.indent, List.map_map, Function.iterate_succ']

/-- What indentation does not change, it does not change any number of times. -/
theorem apply_indented {α : Type} {f : String → α} (h : ∀ line, f (Fragment.indentLine line) = f line) (depth : Nat)
    (line : String) : f (Fragment.indentLine^[depth] line) = f line := by
  induction depth with
  | zero => rfl
  | succ depth ih => rw [Function.iterate_succ_apply', h, ih]

theorem toList_indented (hne : line ≠ "") (depth : Nat) :
    (Fragment.indentLine^[depth] line).toList = List.replicate (4 * depth) ' ' ++ line.toList := by
  induction depth with
  | zero => rfl
  | succ depth ih =>
    have hfull : (Fragment.indentLine^[depth] line).isEmpty = false := by
      apply Bool.eq_false_iff.mpr
      intro hempty
      rw [String.isEmpty_iff.mp hempty] at ih
      exact hne (String.toList_eq_nil_iff.mp (List.append_eq_nil_iff.mp ih.symm).2)
    have hdepth : 4 * (depth + 1) = 4 + 4 * depth := by omega
    rw [Function.iterate_succ_apply', Fragment.indentLine, hfull, hdepth, ← List.replicate_append_replicate,
      List.append_assoc, ← ih]
    exact String.toList_append

theorem closesBlock_indented (depth : Nat) (line : String) :
    closesBlock (Fragment.indentLine^[depth] line) = closesBlock line :=
  apply_indented (fun l => by rw [closesBlock, closesBlock, trim_indentLine]) depth line

theorem opensBlock_indented (depth : Nat) (line : String) :
    opensBlock (Fragment.indentLine^[depth] line) = opensBlock line :=
  apply_indented opensBlock_indentLine depth line

theorem isBlankLine_indented (depth : Nat) (line : String) :
    isBlankLine (Fragment.indentLine^[depth] line) = isBlankLine line :=
  apply_indented (fun l => by rw [isBlankLine, isBlankLine, trim_indentLine]) depth line

theorem startsPart_indented (depth : Nat) (line : String) :
    StartsPart (Fragment.indentLine^[depth] line) ↔ StartsPart line := by
  have houtdented := apply_indented outdented_indentLine depth line
  rw [StartsPart, StartsPart, OpensInside, OpensInside, houtdented, opensBlock_indented]

theorem depthBehind_indented (depth first : Nat) (line : String) :
    depthBehind first (Fragment.indentLine^[depth] line) = depthBehind first line := by
  rw [depthBehind, depthBehind, closesBlock_indented, opensBlock_indented]

/-- A line that closes no block sits where it is indented to. -/
theorem sits_indented {depth : Nat} (hcloses : closesBlock line = false) (hstarts : StartsPart line → depth = 0) :
    Sits depth (Fragment.indentLine^[depth] line) where
  opened h := by
    rw [closesBlock_indented, hcloses] at h
    cases h
  outside h := hstarts ((startsPart_indented depth line).mp h)
  indented h := by
    rw [isBlankLine_indented] at h
    have hne : line ≠ "" := by
      rintro rfl
      exact absurd h (by decide)
    rw [closesBlock_indented, hcloses, toList_indented hne]
    exact List.prefix_append _ _

theorem sits_footer (depth : Nat) : Sits (depth + 1) (Fragment.indentLine^[depth] "\x7d") := by
  have hcloses : closesBlock "\x7d" = true := by decide
  have hquiet : ¬ StartsPart "\x7d" := by
    rintro (hcomment | ⟨hopens, -⟩)
    · exact absurd hcomment (by decide)
    · exact absurd hopens (by decide)
  refine ⟨fun _ => Nat.succ_pos depth, ?_, fun _ => ?_⟩
  · rw [startsPart_indented]
    exact fun h => absurd h hquiet
  · rw [closesBlock_indented, hcloses, toList_indented (by decide)]
    exact List.prefix_append _ _

end Indentation

namespace NestsAt

variable {depth : Nat} {a b : Fragment}

theorem nil : NestsAt depth [] := by
  rw [NestsAt, indentBy_eq_map]
  exact .nil depth

theorem append (ha : NestsAt depth a) (hb : NestsAt depth b) : NestsAt depth (a ++ b) := by
  rw [NestsAt, Fragment.indentBy_append]
  exact Scans.append ha hb

theorem flatMap {α : Type} {l : List α} {f : α → Fragment} (h : ∀ x ∈ l, NestsAt depth (f x)) :
    NestsAt depth (l.flatMap f) := by
  induction l with
  | nil => exact nil
  | cons x l ih =>
    rw [List.flatMap_cons]
    exact (h x List.mem_cons_self).append (ih fun y hy => h y (List.mem_cons_of_mem _ hy))

theorem flatten {codes : List Fragment} (h : ∀ code ∈ codes, NestsAt depth code) : NestsAt depth codes.flatten := by
  rw [← List.flatMap_id]
  exact flatMap h

theorem singleton {line : String} (h : Level line) : NestsAt depth [line] := by
  have hbehind : depthBehind depth line = depth := by simp [depthBehind, h.closes, h.opens]
  rw [NestsAt, indentBy_eq_map]
  apply Scans.cons (sits_indented h.closes fun hstarts => absurd hstarts h.not_startsPart)
  rw [depthBehind_indented, hbehind]
  exact .nil depth

theorem cons {line : String} (h : Level line) (ha : NestsAt depth a) : NestsAt depth (line :: a) :=
  (singleton h).append ha

theorem levels (h : ∀ line ∈ a, Level line) : NestsAt depth a := by
  induction a with
  | nil => exact nil
  | cons line a ih => exact cons (h line List.mem_cons_self) (ih fun l hl => h l (List.mem_cons_of_mem _ hl))

theorem gap (h : NestsAt depth a) : NestsAt depth (a ++ [""]) := h.append (singleton level_empty)

/-- The header of a function stands outside of all blocks, that of another block anywhere. -/
theorem block {header : String} (hheader : opensBlock header = true) (hplace : depth = 0 ∨ OpensInside header)
    (h : NestsAt (depth + 1) a) : NestsAt depth (Fragment.block header a) := by
  have hcloses := closesBlock_of_opensBlock hheader
  have hopen : Scans depth [Fragment.indentLine^[depth] header] (depth + 1) := by
    have hbehind : depthBehind depth header = depth + 1 := by simp [depthBehind, hcloses, hheader]
    refine .cons (sits_indented hcloses ?_) ?_
    · rintro (hcomment | ⟨-, hinside⟩)
      · exact absurd ((getLast?_of_comment hcomment).symm.trans (of_decide_eq_true hheader)) (by decide)
      · exact hplace.resolve_right hinside
    · rw [depthBehind_indented, hbehind]
      exact .nil (depth + 1)
  have hclose : Scans (depth + 1) [Fragment.indentLine^[depth] "\x7d"] depth := by
    have hfooter : closesBlock "\x7d" = true := by decide
    have hbehind : depthBehind (depth + 1) "\x7d" = depth := by simp [depthBehind, hfooter]
    apply Scans.cons (sits_footer depth)
    rw [depthBehind_indented, hbehind]
    exact .nil depth
  have hblock : Fragment.indentBy depth (Fragment.block header a) = [Fragment.indentLine^[depth] header] ++
      Fragment.indentBy (depth + 1) a ++ [Fragment.indentLine^[depth] "\x7d"] := by
    have hsplit : Fragment.block header a = [header] ++ Fragment.indent a ++ ["\x7d"] := rfl
    rw [hsplit, Fragment.indentBy_append, Fragment.indentBy_append, Fragment.indentBy_indent, indentBy_eq_map _ [_],
      indentBy_eq_map _ [_]]
    rfl
  rw [NestsAt, hblock]
  exact (hopen.append h).append hclose

theorem comment (h : ∀ line ∈ a, Level line) : NestsAt 0 (["/**"] ++ a ++ [" */"]) := by
  have hopening : NestsAt 0 ["/**"] := Scans.cons ⟨by decide, fun _ => rfl, by decide⟩ (Scans.nil 0)
  have hclosing : Level " */" := level_ofList (by decide)
  exact (hopening.append (levels h)).append (singleton hclosing)

end NestsAt

end ScriptBinding
