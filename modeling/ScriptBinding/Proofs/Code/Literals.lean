import Mathlib.Algebra.Ring.Parity
import Mathlib.Data.List.Induction
import Mathlib.Tactic.SplitIfs
import ScriptBinding.Code.Literal
import ScriptBinding.Proofs.Text.Pieces
import ScriptBinding.Text.Scan

/-!
String literals read back: the text that a literal was made from is found between its quotes, and no text ends its
literal before its end.
-/

namespace ScriptBinding.Code

open Text

/-- The text before the closing quote with its escapes undone, and what follows the quote. -/
def unescape? : List Char → Option (List Char × List Char)
  | [] => none
  | '"' :: rest => some ([], rest)
  | '\\' :: c :: rest =>
    if c = '\\' || c = '"' then (unescape? rest).map fun (text, rest) => (c :: text, rest) else none
  | c :: rest => (unescape? rest).map fun (text, rest) => (c :: text, rest)

theorem unescape?_escapeChars (cs rest : List Char) :
    unescape? (escapeChars cs ++ '"' :: rest) = some (cs, rest) := by
  induction cs with
  | nil => rfl
  | cons c cs ih =>
    rw [escapeChars_cons, escapeChar]
    by_cases hback : c = '\\'
    · simp [hback, unescape?, ih]
    · by_cases hquote : c = '"'
      · simp [hquote, unescape?, ih]
      · simp [hback, hquote, unescape?, ih]

/-- What stands before the text in a string that is made for scripts. -/
def scriptStringStart : List Char := "jerry_create_string((const jerry_char_t*)".toList ++ ['"']

def scriptString? (cs : List Char) : Option (String × List Char) :=
  ((after? scriptStringStart cs).bind unescape?).bind fun (text, rest) =>
    (after? [')'] rest).map fun rest => (.ofList text, rest)

theorem toList_stringLiteral (text : String) :
    (stringLiteral text).toList = '"' :: (escapeChars text.toList ++ ['"']) := by
  have hquote : "\"".toList = ['"'] := rfl
  simp only [stringLiteral, String.toList_append, String.toList_ofList, hquote]
  rfl

theorem toList_scriptString (text : String) :
    (scriptString text).toList = scriptStringStart ++ (escapeChars text.toList ++ ['"'] ++ [')']) := by
  have hend : ")".toList = [')'] := rfl
  unfold scriptString scriptStringStart
  rw [String.toList_append, String.toList_append, toList_stringLiteral, hend, List.append_assoc, List.append_assoc]
  rfl

theorem scriptString?_append (text : String) (rest : List Char) :
    scriptString? ((scriptString text).toList ++ rest) = some (text, rest) := by
  have hstart : after? scriptStringStart ((scriptString text).toList ++ rest) =
      some (escapeChars text.toList ++ '"' :: ([')'] ++ rest)) := by
    rw [toList_scriptString, List.append_assoc, after?_append]
    simp
  simp only [scriptString?, hstart, Option.bind_some, unescape?_escapeChars, after?_append, Option.map_some,
    String.ofList_toList]

def backslashes (cs : List Char) : Nat := (cs.reverse.takeWhile (· = '\\')).length

/-- Whether what comes next is escaped: it is behind a backslash that is not escaped itself. -/
def escapesNext (cs : List Char) : Bool := cs.foldl (fun escaped c => !escaped && c = '\\') false

/-- Each backslash and the character behind it replaced by that character. -/
def withoutEscapes : List Char → List Char
  | [] => []
  | '\\' :: c :: rest => c :: withoutEscapes rest
  | c :: rest => c :: withoutEscapes rest

section Escapes

variable {cs before after : List Char} {c : Char}

theorem escapeChar_of_ne (hback : c ≠ '\\') (hquote : c ≠ '"') : escapeChar c = [c] := by
  simp [escapeChar, hback, hquote]

theorem backslashes_concat (cs : List Char) (c : Char) :
    backslashes (cs ++ [c]) = if c = '\\' then backslashes cs + 1 else 0 := by
  by_cases hc : c = '\\' <;> simp [backslashes, hc]

theorem escapesNext_iff_odd (cs : List Char) : escapesNext cs = true ↔ Odd (backslashes cs) := by
  induction cs using List.reverseRecOn with
  | nil => simp [escapesNext, backslashes]
  | append_singleton cs c ih =>
    have hnext : escapesNext (cs ++ [c]) = (!escapesNext cs && c = '\\') := by
      rw [escapesNext, List.foldl_append]
      rfl
    rw [hnext, backslashes_concat]
    by_cases hc : c = '\\'
    · simp [hc, Nat.odd_add_one, ← ih]
    · simp [hc]

theorem escapesNext_escapeChar_append (c : Char) (cs : List Char) :
    escapesNext (escapeChar c ++ cs) = escapesNext cs := by
  have hchar : escapesNext (escapeChar c) = false := by
    by_cases hback : c = '\\'
    · subst hback
      rfl
    · by_cases hquote : c = '"'
      · subst hquote
        rfl
      · simp [escapeChar_of_ne hback hquote, escapesNext, hback]
  rw [escapesNext, List.foldl_append, ← escapesNext, hchar, escapesNext]

theorem escapesNext_escapeChars (cs : List Char) : escapesNext (escapeChars cs) = false := by
  induction cs with
  | nil => rfl
  | cons c cs ih => rw [escapeChars_cons, escapesNext_escapeChar_append, ih]

theorem before_of_escapeChar (h : escapeChar c = before ++ '"' :: after) : before = ['\\'] := by
  by_cases hback : c = '\\'
  · subst hback
    rcases before with _ | ⟨b, _ | ⟨d, before⟩⟩ <;> simp [escapeChar] at h
  · by_cases hquote : c = '"'
    · subst hquote
      rcases before with _ | ⟨b, _ | ⟨d, before⟩⟩
      · simp [escapeChar] at h
      · obtain rfl := (List.cons.inj h).1
        rfl
      · simp [escapeChar] at h
    · rw [escapeChar_of_ne hback hquote] at h
      rcases before with _ | ⟨b, before⟩
      · exact absurd (List.cons.inj h).1 hquote
      · simp at h

theorem escapesNext_of_quote (h : escapeChars cs = before ++ '"' :: after) : escapesNext before = true := by
  induction cs generalizing before with
  | nil => simp at h
  | cons c cs ih =>
    rw [escapeChars_cons] at h
    rcases List.append_eq_append_iff.mp h with ⟨rest, rfl, hrest⟩ | ⟨rest, hchar, hrest⟩
    · rw [escapesNext_escapeChar_append]
      exact ih hrest
    · -- The quote is that of the character itself, as no text begins with a quote when it is escaped.
      cases rest with
      | nil =>
        have hstart : escapesNext [] = true := ih hrest.symm
        cases hstart
      | cons quote rest =>
        obtain rfl : '"' = quote := (List.cons.inj hrest).1
        rw [before_of_escapeChar hchar]
        rfl

theorem withoutEscapes_escapeChars (cs : List Char) : withoutEscapes (escapeChars cs) = cs := by
  induction cs with
  | nil => rfl
  | cons c cs ih =>
    rw [escapeChars_cons]
    by_cases hback : c = '\\'
    · simp [hback, escapeChar, withoutEscapes, ih]
    · by_cases hquote : c = '"'
      · simp [hquote, escapeChar, withoutEscapes, ih]
      · simp [escapeChar_of_ne hback hquote, withoutEscapes, hback, ih]

end Escapes

/-- What stands between the quotes of a literal: no quote that is not escaped and no escape that is not ended, and
without the escapes it is the text. -/
structure Escapes (body : List Char) (text : String) : Prop where
  quotes : ∀ before after, body = before ++ '"' :: after → Odd (backslashes before)
  ended : escapesNext body = false
  text : withoutEscapes body = text.toList

def Encloses (literal text : String) : Prop := ∃ body, literal.toList = '"' :: (body ++ ['"']) ∧ Escapes body text

theorem encloses_stringLiteral (text : String) : Encloses (stringLiteral text) text :=
  ⟨escapeChars text.toList, toList_stringLiteral text, {
    quotes := fun before _ h => (escapesNext_iff_odd before).mp (escapesNext_of_quote h)
    ended := escapesNext_escapeChars _
    text := withoutEscapes_escapeChars _ }⟩

theorem Encloses.eq {literal text text' : String} (h : Encloses literal text) (h' : Encloses literal text') :
    text = text' := by
  obtain ⟨body, hbody, hescapes⟩ := h
  obtain ⟨body', hbody', hescapes'⟩ := h'
  obtain rfl : body = body' := List.append_cancel_right (List.cons.inj (hbody.symm.trans hbody')).2
  exact String.toList_inj.mp (hescapes.text.symm.trans hescapes'.text)

theorem stringLiteral_injective : Function.Injective stringLiteral := by
  intro text text' h
  have hsame := encloses_stringLiteral text'
  rw [← h] at hsame
  exact (encloses_stringLiteral text).eq hsame

/-- Where a reader of code is: outside of literals, in a literal, or in one behind a backslash. The characters of a
literal that is open come last one first. -/
inductive CodePlace where
  | outside
  | inside (text : List Char)
  | escape (text : List Char)
deriving DecidableEq

/-- A literal ends on the line that it begins on, and only backslashes and quotes are read behind a backslash. Code with
a character literal, or with a slash that may begin a comment, is not read. -/
def CodePlace.next : CodePlace → Char → Option (Option String × CodePlace)
  | outside, c =>
    if c = '"' then some (none, inside [])
    else if c = '\'' || c = '/' then none
    else some (none, outside)
  | inside text, c =>
    if c = '"' then some (some (String.ofList text.reverse), outside)
    else if c = '\\' then some (none, escape text)
    else if c = '\n' then none
    else some (none, inside (c :: text))
  | escape text, c => if c = '\\' || c = '"' then some (none, inside (c :: text)) else none

def literalReader : PieceReader CodePlace String := ⟨.outside, CodePlace.next⟩

theorem next_literalReader (place : CodePlace) (c : Char) : literalReader.next place c = place.next c := rfl

def literals? (code : String) : Option (List String) := literalReader.pieces? .outside code.toList

/-- Code in which no literal begins, and no comment. -/
def Bare (code : List Char) : Prop := ∀ c ∈ code, c ≠ '"' ∧ c ≠ '\'' ∧ c ≠ '/'

instance : DecidablePred Bare := fun code =>
  decidable_of_iff (code.all (fun c => c ≠ '"' ∧ c ≠ '\'' ∧ c ≠ '/') = true) (by simp [Bare])

section Reading

variable {rest : List Char}

theorem pieces?_bare {code : List Char} (h : Bare code) :
    literalReader.pieces? .outside (code ++ rest) = literalReader.pieces? .outside rest := by
  induction code with
  | nil => rfl
  | cons c code ih =>
    obtain ⟨hquote, hmark, hslash⟩ := h c List.mem_cons_self
    have hnext : literalReader.next .outside c = some (none, .outside) := by
      simp [next_literalReader, CodePlace.next, hquote, hmark, hslash]
    rw [List.cons_append, PieceReader.pieces?_cons hnext]
    exact ih fun d hd => h d (List.mem_cons_of_mem _ hd)

theorem pieces?_escapeChar (text : List Char) (c : Char) :
    literalReader.pieces? (.inside text) (escapeChar c ++ rest) =
      if c = '\n' then none else literalReader.pieces? (.inside (c :: text)) rest := by
  by_cases hback : c = '\\'
  · subst hback
    rfl
  · by_cases hquote : c = '"'
    · subst hquote
      rfl
    · rw [escapeChar_of_ne hback hquote, List.singleton_append, PieceReader.pieces?, next_literalReader,
        CodePlace.next, if_neg hquote, if_neg hback]
      split_ifs <;> rfl

theorem pieces?_escapeChars (text cs : List Char) :
    literalReader.pieces? (.inside text) (escapeChars cs ++ rest) =
      if '\n' ∈ cs then none else literalReader.pieces? (.inside (cs.reverse ++ text)) rest := by
  induction cs generalizing text with
  | nil => rfl
  | cons c cs ih =>
    rw [escapeChars_cons, List.append_assoc, pieces?_escapeChar, ih, List.reverse_cons, List.append_assoc]
    by_cases hc : c = '\n'
    · simp [hc]
    · simp [hc, Ne.symm hc]

theorem literals?_around {front back : String} (text : String) (hfront : Bare front.toList)
    (hback : Bare back.toList) :
    literals? (front ++ stringLiteral text ++ back) = if '\n' ∈ text.toList then none else some [text] := by
  have hopen : literalReader.next .outside '"' = some (none, .inside []) := rfl
  have hclose : literalReader.next (.inside (text.toList.reverse ++ [])) '"' = some (some text, .outside) := by
    simp [next_literalReader, CodePlace.next]
  have hend : literalReader.pieces? .outside back.toList = some [] := by
    rw [← List.append_nil back.toList, pieces?_bare hback]
    rfl
  rw [literals?, String.toList_append, String.toList_append, toList_stringLiteral, List.append_assoc,
    pieces?_bare hfront, List.cons_append, PieceReader.pieces?_cons hopen, List.append_assoc, pieces?_escapeChars,
    List.singleton_append, PieceReader.pieces?, hclose]
  dsimp only
  rw [hend]
  rfl

end Reading

/-- No text leaves its literal, and in the expressions for scripts its literal is the only one. A text with a newline
has none. -/
theorem literals_closed :
    (∀ text, Encloses (stringLiteral text) text) ∧ Function.Injective stringLiteral ∧
      ∀ text, literals? (scriptString text) = (if '\n' ∈ text.toList then none else some [text]) ∧
        literals? (scriptTypeError text) = if '\n' ∈ text.toList then none else some [text] := by
  refine ⟨encloses_stringLiteral, stringLiteral_injective, ?_⟩
  intro text
  constructor
  · exact literals?_around text (by decide +kernel) (by decide +kernel)
  · exact literals?_around text (by decide +kernel) (by decide +kernel)

/-- Backslashes in front of a quote, and at the end of the text. -/
example : literals? (scriptTypeError "a\\\\\"b\\") = some ["a\\\\\"b\\"] := by decide +kernel

end ScriptBinding.Code
