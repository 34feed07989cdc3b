import ScriptBinding.Text.Printable

/-!
A text between quotes for a message: printable characters stand for themselves, all others are
written by number.
-/

namespace ScriptBinding.Text

def hexDigit (n : Nat) : Char := if n < 10 then Char.ofNat (48 + n) else Char.ofNat (87 + n)

def hexDigits : Nat → Nat → List Char
  | 0, _ => []
  | width + 1, n => hexDigits width (n / 16) ++ [hexDigit (n % 16)]

/-- Double quotes stand around a text that holds a single quote and no double one. -/
def quoteOf (cs : List Char) : Char := if '\'' ∈ cs && !('"' ∈ cs) then '"' else '\''

def quotedChar (quote c : Char) : List Char :=
  if c = quote || c = '\\' then ['\\', c]
  else if c = '\t' then ['\\', 't']
  else if c = '\n' then ['\\', 'n']
  else if c = '\r' then ['\\', 'r']
  else if isPrintable c then [c]
  else if c.toNat < 0x100 then '\\' :: 'x' :: hexDigits 2 c.toNat
  else if c.toNat < 0x10000 then '\\' :: 'u' :: hexDigits 4 c.toNat
  else '\\' :: 'U' :: hexDigits 8 c.toNat

def quotedChars (cs : List Char) : List Char :=
  quoteOf cs :: cs.flatMap (quotedChar (quoteOf cs)) ++ [quoteOf cs]

def quoted (s : String) : String := String.ofList (quotedChars s.toList)

@[simp] theorem hexDigits_length (width n : Nat) : (hexDigits width n).length = width := by
  induction width generalizing n with
  | zero => rfl
  | succ width ih => simp [hexDigits, ih]

theorem isPrintable_of_mem_hexDigits {width n : Nat} {c : Char} (h : c ∈ hexDigits width n) :
    isPrintable c = true := by
  have hall : ∀ d < 16, isPrintable (hexDigit d) = true := by decide +kernel
  induction width generalizing n with
  | zero => cases h
  | succ width ih =>
    rw [hexDigits, List.mem_append] at h
    rcases h with h | h
    · exact ih h
    · rw [List.mem_singleton.mp h]
      exact hall (n % 16) (Nat.mod_lt n (by decide))

theorem quoteOf_cases (cs : List Char) : quoteOf cs = '"' ∨ quoteOf cs = '\'' := by
  rw [quoteOf]
  split
  · exact .inl rfl
  · exact .inr rfl

theorem quotedChar_cases (quote c : Char) : (quotedChar quote c = [c] ∧ isPrintable c = true) ∨
    ∃ e width, quotedChar quote c = '\\' :: e :: hexDigits width c.toNat ∧
      (e = quote ∨ e ∈ ['\\', 't', 'n', 'r', 'x', 'u', 'U']) := by
  rw [quotedChar]
  split
  · next hc =>
    simp only [Bool.or_eq_true, decide_eq_true_eq] at hc
    exact .inr ⟨c, 0, rfl, hc.imp_right fun hc => by simp [hc]⟩
  split
  · exact .inr ⟨'t', 0, rfl, by simp⟩
  split
  · exact .inr ⟨'n', 0, rfl, by simp⟩
  split
  · exact .inr ⟨'r', 0, rfl, by simp⟩
  split
  · next hc => exact .inl ⟨rfl, hc⟩
  split
  · exact .inr ⟨'x', 2, rfl, by simp⟩
  split
  · exact .inr ⟨'u', 4, rfl, by simp⟩
  · exact .inr ⟨'U', 8, rfl, by simp⟩

theorem isPrintable_of_mem_quotedChar {quote c d : Char} (hquote : isPrintable quote = true)
    (h : d ∈ quotedChar quote c) : isPrintable d = true := by
  have hescape : ∀ e ∈ ['\\', 't', 'n', 'r', 'x', 'u', 'U'], isPrintable e = true :=
    List.all_eq_true.mp (by decide +kernel)
  rcases quotedChar_cases quote c with ⟨hself, hc⟩ | ⟨e, width, hescaped, he⟩
  · rw [hself, List.mem_singleton] at h
    rw [h]
    exact hc
  · rw [hescaped, List.mem_cons, List.mem_cons] at h
    rcases h with rfl | rfl | h
    · exact hescape _ List.mem_cons_self
    · rcases he with rfl | he
      · exact hquote
      · exact hescape _ he
    · exact isPrintable_of_mem_hexDigits h

/-- Whatever a text holds, what is shown of it can be printed. -/
theorem isPrintable_of_mem_quoted {s : String} {c : Char} (h : c ∈ (quoted s).toList) : isPrintable c = true := by
  have hquote : isPrintable (quoteOf s.toList) = true := by
    rcases quoteOf_cases s.toList with hq | hq <;>
    · rw [hq]
      decide +kernel
  rw [quoted, String.toList_ofList, quotedChars, List.mem_append, List.mem_cons, List.mem_flatMap,
    List.mem_singleton] at h
  rcases h with (rfl | ⟨d, -, h⟩) | rfl
  · exact hquote
  · exact isPrintable_of_mem_quotedChar hquote h
  · exact hquote

example : quoted "it's \u200b" = "\"it's \\u200b\"" := by decide +kernel

end ScriptBinding.Text
