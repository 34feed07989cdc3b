import ScriptBinding.Module.Source
import ScriptBinding.Proofs.Code.OneLine

/-!
The guards of a dispatcher. A reader finds every guard with its body in the lines of the function, and a
call goes through the lines to the first guard for its number of arguments. No line of a body ends a guard
early: a body line that is not empty stands two levels deep.
-/

namespace ScriptBinding

open Code Text

structure Guard where
  arity : Int
  body : String
deriving DecidableEq

namespace Guard

def endLine : String := "    \x7d"

def readInteger? (cs : List Char) : Option Int :=
  let (sign, rest) := signed cs
  (digits? 10 rest).map fun ds => sign * ofDigits 10 ds

/-- The number in a line `    if (args_count == N) {`. -/
def readHead? (line : String) : Option Int := do
  let rest ← after? "    if (args_count == ".toList line.toList
  let integer ← after? ") \x7b".toList.reverse rest.reverse
  readInteger? integer.reverse

def isReturn (line : String) : Bool := (after? "    return ".toList line.toList).isSome

def outdent? (line : String) : Option String :=
  if line.isEmpty then some line else (after? "        ".toList line.toList).map String.ofList

end Guard

inductive GuardReader where
  | outside (read : List Guard)
  | inside (read : List Guard) (arity : Int) (body : Fragment)
  | returned (read : List Guard) (statement : String)
  | lost
deriving DecidableEq

namespace GuardReader

def next : GuardReader → String → GuardReader
  | outside read, line =>
    match Guard.readHead? line with
    | some arity => inside read arity []
    | none => if Guard.isReturn line then returned read line else lost
  | inside read arity body, line =>
    if line = Guard.endLine then outside (read ++ [⟨arity, Fragment.toText body⟩])
    else (Guard.outdent? line).elim lost fun l => inside read arity (body ++ [l])
  | returned _ _, _ => lost
  | lost, _ => lost

end GuardReader

/-- The guards in the lines of a function and the return statement behind them. -/
def readGuards (lines : Fragment) : Option (List Guard × String) :=
  match lines.foldl GuardReader.next (.outside []) with
  | .returned read statement => some (read, statement)
  | _ => none

inductive Choice where
  | searching
  | passing
  | taking (body : Fragment)
  | taken (body : String)
  | refused (statement : String)
  | lost
deriving DecidableEq

/-- A call with `count` arguments takes the body of a guard for this number and passes others. -/
def Choice.next (count : Int) : Choice → String → Choice
  | searching, line =>
    match Guard.readHead? line with
    | some arity => if arity = count then taking [] else passing
    | none => if Guard.isReturn line then refused line else lost
  | passing, line => if line = Guard.endLine then searching else passing
  | taking body, line =>
    if line = Guard.endLine then taken (Fragment.toText body)
    else (Guard.outdent? line).elim lost fun l => taking (body ++ [l])
  | choice, _ => choice

def choose (lines : Fragment) (count : Int) : Choice := lines.foldl (Choice.next count) .searching

namespace Guard

theorem indentLine_of_ne {line : String} (h : line ≠ "") : Fragment.indentLine line = "    " ++ line := by
  simp [Fragment.indentLine, h]

theorem outdent?_indentLine (line : String) :
    outdent? (Fragment.indentLine (Fragment.indentLine line)) = some line := by
  by_cases h : line = ""
  · subst h
    rfl
  · rw [indentLine_of_ne h, indentLine_of_ne (by simp)]
    simp [outdent?, after?]

theorem indentLine_ne_endLine (line : String) :
    Fragment.indentLine (Fragment.indentLine line) ≠ endLine := by
  by_cases h : line = ""
  · subst h
    decide
  · rw [indentLine_of_ne h, indentLine_of_ne (by simp)]
    intro he
    have := congrArg String.toList he
    simp [endLine] at this

def head (arity : Int) : String := "if (args_count == " ++ toString arity ++ ") \x7b"

theorem indentLine_head (arity : Int) : Fragment.indentLine (head arity) = "    " ++ head arity := by
  refine indentLine_of_ne ?_
  unfold head
  simp

theorem toList_indentLine_head (arity : Int) : (Fragment.indentLine (head arity)).toList =
    "    if (args_count == ".toList ++ ((toString arity).toList ++ ") \x7b".toList) := by
  rw [indentLine_head]
  unfold head
  simp

theorem digits?_toDigits (n : Nat) : (digits? 10 (Nat.toDigits 10 n)).map (ofDigits 10) = some n := by
  rw [(digits?_of_isDecimal Nat.toDigits_ne_nil isDecimal_of_mem_toDigits).1, Option.map_some,
    ofDigits_toDigits (by decide) (by decide)]

theorem readInteger?_toString (i : Int) : readInteger? (toString i).toList = some i := by
  cases i with
  | ofNat n =>
    have hdigits : (toString (Int.ofNat n)).toList = Nat.toDigits 10 n := Nat.toList_repr
    have hread := digits?_toDigits n
    rw [Option.map_eq_some_iff] at hread
    obtain ⟨ds, hds, hvalue⟩ := hread
    rw [readInteger?, hdigits, signed_of_isDecimal isDecimal_of_mem_toDigits]
    simp [hds, hvalue]
  | negSucc n =>
    have hdigits : (toString (Int.negSucc n)).toList = '-' :: Nat.toDigits 10 (n + 1) := by
      change ("-" ++ (n + 1).repr).toList = _
      rw [String.toList_append, Nat.toList_repr]
      rfl
    have hread := digits?_toDigits (n + 1)
    rw [Option.map_eq_some_iff] at hread
    obtain ⟨ds, hds, hvalue⟩ := hread
    rw [readInteger?, hdigits]
    simp only [signed, hds, Option.map_some, hvalue]
    rw [Int.negSucc_eq, Int.neg_one_mul, Int.natCast_add, Int.natCast_one]

theorem readHead?_head (arity : Int) : readHead? (Fragment.indentLine (head arity)) = some arity := by
  rw [readHead?, toList_indentLine_head, after?_append, Option.bind_eq_bind, Option.bind_some,
    List.reverse_append, after?_append, Option.bind_some, List.reverse_reverse, readInteger?_toString]

def ofBinding (b : Binding) : Guard := ⟨b.arity, b.body⟩

theorem indent_guardCode (b : Binding) : Fragment.indent (Plan.guardCode b) =
    Fragment.indentLine (head b.arity) ::
      (Fragment.indent (Fragment.indent (Fragment.ofText b.body)) ++ [endLine]) := by
  have hcode : Plan.guardCode b =
      [head b.arity] ++ (Fragment.indent (Fragment.ofText b.body) ++ ["\x7d"]) := rfl
  rw [hcode, Fragment.indent_append, Fragment.indent_append]
  rfl

end Guard

open Guard

namespace GuardReader

theorem foldl_inside (read : List Guard) (arity : Int) (before body : Fragment) :
    (Fragment.indent (Fragment.indent body)).foldl next (inside read arity before) =
      inside read arity (before ++ body) := by
  induction body generalizing before with
  | nil => simp
  | cons line body ih =>
    have hline : next (inside read arity before) (Fragment.indentLine (Fragment.indentLine line)) =
        inside read arity (before ++ [line]) := by
      rw [next, if_neg (indentLine_ne_endLine line), outdent?_indentLine]
      rfl
    rw [Fragment.indent_cons, Fragment.indent_cons, List.foldl_cons, hline, ih]
    simp

theorem foldl_guardCode (read : List Guard) (b : Binding) :
    (Fragment.indent (Plan.guardCode b)).foldl next (outside read) = outside (read ++ [ofBinding b]) := by
  have hhead : next (outside read) (Fragment.indentLine (head b.arity)) = inside read b.arity [] := by
    rw [next, readHead?_head]
  rw [indent_guardCode, List.foldl_cons, hhead, List.foldl_append, foldl_inside, List.nil_append,
    List.foldl_cons, List.foldl_nil, next, if_pos rfl, Fragment.toText_ofText]
  rfl

theorem foldl_guards (read : List Guard) (bindings : List Binding) :
    (Fragment.indent (bindings.flatMap Plan.guardCode)).foldl next (outside read) =
      outside (read ++ bindings.map ofBinding) := by
  induction bindings generalizing read with
  | nil => simp
  | cons b bindings ih =>
    rw [List.flatMap_cons, Fragment.indent_append, List.foldl_append, foldl_guardCode, ih]
    simp

end GuardReader

namespace Choice

variable (count : Int)

theorem foldl_passing (body : Fragment) :
    (Fragment.indent (Fragment.indent body)).foldl (next count) passing = passing := by
  induction body with
  | nil => rfl
  | cons line body ih =>
    have hline : next count passing (Fragment.indentLine (Fragment.indentLine line)) = passing := by
      rw [next, if_neg (indentLine_ne_endLine line)]
    rw [Fragment.indent_cons, Fragment.indent_cons, List.foldl_cons, hline, ih]

theorem foldl_taking (before body : Fragment) :
    (Fragment.indent (Fragment.indent body)).foldl (next count) (taking before) =
      taking (before ++ body) := by
  induction body generalizing before with
  | nil => simp
  | cons line body ih =>
    have hline : next count (taking before) (Fragment.indentLine (Fragment.indentLine line)) =
        taking (before ++ [line]) := by
      rw [next, if_neg (indentLine_ne_endLine line), outdent?_indentLine]
      rfl
    rw [Fragment.indent_cons, Fragment.indent_cons, List.foldl_cons, hline, ih]
    simp

theorem foldl_taken (body : String) (lines : Fragment) : lines.foldl (next count) (taken body) = taken body := by
  induction lines with
  | nil => rfl
  | cons line lines ih => exact ih

theorem foldl_guardCode (b : Binding) : (Fragment.indent (Plan.guardCode b)).foldl (next count) searching =
    if b.arity = count then taken b.body else searching := by
  have hhead : next count searching (Fragment.indentLine (head b.arity)) =
      if b.arity = count then taking [] else passing := by
    rw [next, readHead?_head]
  rw [indent_guardCode, List.foldl_cons, hhead, List.foldl_append]
  by_cases h : b.arity = count
  · rw [if_pos h, if_pos h, foldl_taking, List.nil_append, List.foldl_cons, List.foldl_nil, next,
      if_pos rfl, Fragment.toText_ofText]
  · rw [if_neg h, if_neg h, foldl_passing, List.foldl_cons, List.foldl_nil, next, if_pos rfl]

theorem foldl_guards (bindings : List Binding) :
    (Fragment.indent (bindings.flatMap Plan.guardCode)).foldl (next count) searching =
      (bindings.find? (·.arity = count)).elim searching fun b => taken b.body := by
  induction bindings with
  | nil => rfl
  | cons b bindings ih =>
    rw [List.flatMap_cons, Fragment.indent_append, List.foldl_append, foldl_guardCode, List.find?_cons]
    by_cases h : b.arity = count
    · simp [h, foldl_taken]
    · simp [h, ih]

end Choice

namespace Guard

def refusal (label : String) : String :=
  "    " ++ ("return " ++ scriptTypeError (label ++ ": unexpected number of arguments") ++ ";")

theorem oneLine_refusal {label : String} (h : OneLine label) : OneLine (refusal label) := by
  have hmessage : OneLine (label ++ ": unexpected number of arguments") :=
    oneLine_append.mpr ⟨h, by decide⟩
  unfold refusal
  rw [oneLine_append, oneLine_append, oneLine_append]
  exact ⟨by decide, ⟨by decide, oneLine_scriptTypeError hmessage⟩, by decide⟩

theorem readHead?_refusal (label : String) : readHead? (refusal label) = none := by
  have hline : (refusal label).toList = "    return ".toList ++
      ((scriptTypeError (label ++ ": unexpected number of arguments")).toList ++ ";".toList) := by
    unfold refusal
    simp
  rw [readHead?, hline]
  simp [after?]

theorem isReturn_refusal (label : String) : isReturn (refusal label) = true := by
  have hline : (refusal label).toList = "    return ".toList ++
      ((scriptTypeError (label ++ ": unexpected number of arguments")).toList ++ ";".toList) := by
    unfold refusal
    simp
  rw [isReturn, hline, after?_append]
  rfl

end Guard

namespace Plan

def dispatcherLines (d : Dispatcher) (label : String) : Fragment := Fragment.indent (selection d label)

theorem dispatcherLines_eq (d : Dispatcher) (label : String) : dispatcherLines d label =
    Fragment.indent (d.overloads.flatMap guardCode) ++ [refusal label] := by
  have hreturn : Fragment.indentLine ("return " ++
      scriptTypeError (label ++ ": unexpected number of arguments") ++ ";") = refusal label :=
    indentLine_of_ne (by simp)
  rw [dispatcherLines, selection, Fragment.indent_append, Fragment.indent_cons, hreturn,
    Fragment.indent_nil]

theorem flat_dispatcherLines (d : Dispatcher) {label : String} (h : OneLine label) :
    (dispatcherLines d label).Flat := by
  rw [dispatcherLines_eq, Fragment.flat_append]
  refine ⟨Fragment.flat_indent fun l hl => ?_, by simp [oneLine_refusal h]⟩
  obtain ⟨b, -, hl⟩ := List.mem_flatMap.mp hl
  have hhead : OneLine (head b.arity) := by
    unfold head
    rw [oneLine_append, oneLine_append]
    exact ⟨⟨by decide, oneLine_int _⟩, by decide⟩
  exact Fragment.flat_block hhead (Fragment.flat_ofText _) (by decide) l hl

theorem readGuards_dispatcherLines (d : Dispatcher) (label : String) :
    readGuards (dispatcherLines d label) = some (d.overloads.map ofBinding, refusal label) := by
  rw [readGuards, dispatcherLines_eq, List.foldl_append, GuardReader.foldl_guards, List.nil_append,
    List.foldl_cons, List.foldl_nil, GuardReader.next, readHead?_refusal]
  simp [isReturn_refusal]

theorem choose_dispatcherLines (d : Dispatcher) (label : String) (count : Int) :
    choose (dispatcherLines d label) count =
      (d.overloads.find? (·.arity = count)).elim (.refused (refusal label)) fun b => .taken b.body := by
  rw [choose, dispatcherLines_eq, List.foldl_append, Choice.foldl_guards]
  cases d.overloads.find? (·.arity = count) with
  | none =>
    rw [Option.elim_none, List.foldl_cons, List.foldl_nil, Choice.next, readHead?_refusal]
    simp [isReturn_refusal]
  | some b => rw [Option.elim_some, Choice.foldl_taken, Option.elim_some]

/-- The lines of a dispatcher are its guards in order, and the first one for the number of arguments is
taken; a call is refused if there is none. -/
theorem dispatcher_first_match (p : Plan) (d : Dispatcher) {label : String} (h : OneLine label)
    (title : String) :
    p.dispatcherCode d label title = p.dispatcherComment d title ++
        dispatcherHeader d :: (dispatcherLines d label ++ ["\x7d"]) ∧
      Fragment.ofText (dispatcherLines d label).toText = dispatcherLines d label ∧
      readGuards (dispatcherLines d label) =
        some (d.overloads.map fun b => ⟨b.arity, b.body⟩, refusal label) ∧
      ∀ count, choose (dispatcherLines d label) count =
          (d.overloads.find? (·.arity = count)).elim (.refused (refusal label)) (fun b => .taken b.body) ∧
        (choose (dispatcherLines d label) count = .refused (refusal label) ↔
          ∀ b ∈ d.overloads, b.arity ≠ count) := by
  refine ⟨rfl, Fragment.ofText_toText (flat_dispatcherLines d h) (by simp [dispatcherLines_eq]),
    readGuards_dispatcherLines d label, fun count => ⟨choose_dispatcherLines d label count, ?_⟩⟩
  rw [choose_dispatcherLines]
  cases hf : d.overloads.find? (·.arity = count) with
  | none => simpa using List.find?_eq_none.mp hf
  | some b =>
    have hb : b.arity = count := by simpa using List.find?_some hf
    simp only [Option.elim_some, reduceCtorEq, false_iff, not_forall]
    exact ⟨b, List.mem_of_find?_eq_some hf, not_not_intro hb⟩

def lookalikeBody : String := "    \x7d\n\n    if (args_count == 2) \x7b\n    \x7d\n"

def lookalikeDispatcher : Dispatcher :=
  ⟨.method "on", "Led_on", [⟨.method "on", 1, lookalikeBody, [], ""⟩, ⟨.method "on", 1, "", [], ""⟩]⟩

theorem dispatcher_first_match_lookalike :
    OneLine "Led#on" ∧
      readGuards (dispatcherLines lookalikeDispatcher "Led#on") =
        some ([⟨1, lookalikeBody⟩, ⟨1, ""⟩], refusal "Led#on") ∧
      choose (dispatcherLines lookalikeDispatcher "Led#on") 1 = .taken lookalikeBody ∧
      choose (dispatcherLines lookalikeDispatcher "Led#on") 2 = .refused (refusal "Led#on") := by
  have hlabel : OneLine "Led#on" := by decide
  let p : Plan := ⟨"Led", ⟨"Led"⟩, "", none, none, [], lookalikeDispatcher, []⟩
  obtain ⟨-, -, hread, hchoose⟩ := p.dispatcher_first_match lookalikeDispatcher hlabel ""
  exact ⟨hlabel, hread, (hchoose 1).1, (hchoose 2).1⟩

end Plan

end ScriptBinding
