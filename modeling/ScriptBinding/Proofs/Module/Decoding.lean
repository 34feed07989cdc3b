import ScriptBinding.Proofs.Module.Wiring
import ScriptBinding.Proofs.Text.Json

/-!
The manifest as JSON. Whatever characters the name of a library is made of, they are read back from the characters
in ASCII that it is written in, and the manifest tells of one module.
-/

namespace ScriptBinding

open Text

namespace Manifest

open Json (Place Value reader unitsOf tokens? read?)

section Reading

variable {units : List Nat} {rest : List Char} {c : Char}

theorem pieces?_unitEscape {n : Nat} (h : n < 0x10000) :
    reader.pieces? (.inside units) (unitEscape n ++ rest) = reader.pieces? (.inside (n :: units)) rest := by
  have hbegin : reader.pieces? (.inside units) (unitEscape n ++ rest) =
      reader.pieces? (.unit units 0 4) (hexDigits 4 n ++ rest) := rfl
  rw [hbegin, Json.pieces?_hexDigits h]

theorem pieces?_plain (hquote : c ≠ '"') (hback : c ≠ '\\') (hc : 0x20 ≤ c.toNat) :
    reader.pieces? (.inside units) (c :: rest) = reader.pieces? (.inside (c.toNat :: units)) rest := by
  apply PieceReader.pieces?_cons
  rw [Json.next_reader, Place.next, if_neg hquote, if_neg hback, if_neg (Nat.not_lt.mpr hc)]

theorem pieces?_jsonChar (c : Char) : reader.pieces? (.inside units) (jsonChar c ++ rest) =
    reader.pieces? (.inside ((unitsOf c).reverse ++ units)) rest := by
  have hvalid : c.toNat < 0xd800 ∨ 0xdfff < c.toNat ∧ c.toNat < 0x110000 := c.valid
  rw [jsonChar]
  split_ifs with hself hnewline hreturn htab hfeed hbackspace hplain hunit
  · rcases (by simpa using hself : c = '"' ∨ c = '\\') with rfl | rfl <;> rfl
  · subst hnewline
    rfl
  · subst hreturn
    rfl
  · subst htab
    rfl
  · subst hfeed
    rfl
  · subst hbackspace
    rfl
  · obtain ⟨hquote, hback⟩ : c ≠ '"' ∧ c ≠ '\\' := by simpa using hself
    obtain ⟨hlow, hhigh⟩ : 0x20 ≤ c.toNat ∧ c.toNat ≤ 0x7e := by simpa using hplain
    rw [List.singleton_append, pieces?_plain hquote hback hlow, unitsOf, if_pos (by omega)]
    rfl
  · rw [pieces?_unitEscape hunit, unitsOf, if_pos hunit]
    rfl
  · rw [List.append_assoc, pieces?_unitEscape (by omega), pieces?_unitEscape (by omega), unitsOf, if_neg hunit]
    rfl

theorem pieces?_flatMap_jsonChar (cs : List Char) : reader.pieces? (.inside units) (cs.flatMap jsonChar ++ rest) =
    reader.pieces? (.inside ((cs.flatMap unitsOf).reverse ++ units)) rest := by
  induction cs generalizing units with
  | nil => rfl
  | cons c cs ih =>
    rw [List.flatMap_cons, List.append_assoc, pieces?_jsonChar, ih, List.flatMap_cons, List.reverse_append,
      List.append_assoc]

theorem tokens?_jsonString (text : String) : tokens? (jsonString text) = some [.text text] := by
  have htext : Json.textOf? ((text.toList.flatMap unitsOf).reverse ++ []).reverse = some text := by
    rw [List.append_nil, List.reverse_reverse, Json.textOf?_flatMap_unitsOf, String.ofList_toList]
  have hopen : reader.next .outside '"' = some (none, .inside []) := rfl
  have hclose : reader.next (.inside ((text.toList.flatMap unitsOf).reverse ++ [])) '"' =
      some (some (.text text), .outside) := by
    rw [Json.next_reader, Place.next, if_pos rfl, htext, Option.map_some]
  rw [tokens?, toList_jsonString, PieceReader.pieces?_cons hopen, pieces?_flatMap_jsonChar, PieceReader.pieces?, hclose]
  rfl

example : jsonString "\"\x08é\x7f😀" = "\"\\\"\\b\\u00e9\\u007f\\ud83d\\ude00\"" := by decide +kernel

theorem tokens?_around {before after : String} {as bs : List Json.Token} (text : String)
    (hbefore : tokens? before = some as) (hafter : tokens? after = some bs) :
    tokens? (before ++ jsonString text ++ after) = some (as ++ .text text :: bs) := by
  rw [Json.tokens?_append (Json.tokens?_append hbefore (tokens?_jsonString text)) hafter, List.append_assoc]
  rfl

end Reading

def moduleValue (library init : String) : Value :=
  .object [("modules", .object [(library, .object [
    ("native_files", .list []), ("init", .text init), ("cmakefile", .text "module.cmake")])])]

def innerLines (library init : String) : List String := [
  "  \"modules\": \x7b",
  "    " ++ jsonString library ++ ": \x7b",
  "      \"native_files\": [],",
  "      \"init\": " ++ jsonString init ++ ",",
  "      \"cmakefile\": \"module.cmake\"",
  "    \x7d",
  "  \x7d"]

/-- The manifest without the newline at its end. -/
def body (library init : String) : String :=
  String.intercalate "\n" ("\x7b" :: (innerLines library init ++ ["\x7d"]))

theorem manifest_eq (library init : String) : manifest library init = body library init ++ "\n" := by
  simp only [manifest, body, innerLines, List.cons_append, List.nil_append, String.intercalate_cons_cons,
    String.intercalate_singleton, String.append_assoc, String.append_empty]

theorem tokens?_body (library init : String) : tokens? (body library init) = some [
    .mark .openObject, .text "modules", .mark .colon, .mark .openObject,
    .text library, .mark .colon, .mark .openObject,
    .text "native_files", .mark .colon, .mark .openList, .mark .closeList, .mark .comma,
    .text "init", .mark .colon, .text init, .mark .comma,
    .text "cmakefile", .mark .colon, .text "module.cmake",
    .mark .closeObject, .mark .closeObject, .mark .closeObject] := by
  have hlibrary : tokens? ("    " ++ jsonString library ++ ": \x7b") =
      some [.text library, .mark .colon, .mark .openObject] := by
    have hindent : tokens? "    " = some [] := by decide +kernel
    have hopen : tokens? ": \x7b" = some [.mark .colon, .mark .openObject] := by decide +kernel
    exact tokens?_around library hindent hopen
  have hinit : tokens? ("      \"init\": " ++ jsonString init ++ ",") =
      some [.text "init", .mark .colon, .text init, .mark .comma] := by
    have hkey : tokens? "      \"init\": " = some [.text "init", .mark .colon] := by decide +kernel
    have hcomma : tokens? "," = some [.mark .comma] := by decide +kernel
    exact tokens?_around init hkey hcomma
  have hlines : List.Forall₂ (fun line ts => tokens? line = some ts)
      ("\x7b" :: (innerLines library init ++ ["\x7d"])) [
        [.mark .openObject],
        [.text "modules", .mark .colon, .mark .openObject],
        [.text library, .mark .colon, .mark .openObject],
        [.text "native_files", .mark .colon, .mark .openList, .mark .closeList, .mark .comma],
        [.text "init", .mark .colon, .text init, .mark .comma],
        [.text "cmakefile", .mark .colon, .text "module.cmake"],
        [.mark .closeObject], [.mark .closeObject], [.mark .closeObject]] := by
    simp only [innerLines, List.cons_append, List.nil_append, List.forall₂_cons, List.forall₂_nil_left_iff, and_true]
    exact ⟨by decide +kernel, by decide +kernel, hlibrary, by decide +kernel, hinit, by decide +kernel,
      by decide +kernel, by decide +kernel, by decide +kernel⟩
  exact Json.tokens?_intercalate hlines

theorem read?_body (library init : String) : read? (body library init) = some (moduleValue library init) := by
  rw [read?, tokens?_body]
  rfl

theorem read?_manifest (library init : String) : read? (manifest library init) = some (moduleValue library init) := by
  have hnewline : tokens? "\n" = some [] := by decide +kernel
  rw [read?, manifest_eq, Json.tokens?_append (tokens?_body library init) hnewline]
  rfl

def Ascii (cs : List Char) : Prop := ∀ c ∈ cs, c.toNat < 0x80

instance : DecidablePred Ascii := fun cs => decidable_of_iff (cs.all (·.toNat < 0x80) = true) (by simp [Ascii])

theorem ascii_append {as bs : List Char} : Ascii (as ++ bs) ↔ Ascii as ∧ Ascii bs := List.forall_mem_append

theorem ascii_jsonString (text : String) : Ascii (jsonString text).toList := by
  intro c hc
  obtain ⟨-, hhigh⟩ := visible_jsonString text c hc
  omega

theorem ascii_manifest (library init : String) : Ascii (manifest library init).toList := by
  have hfixed : ∀ part ∈ ["\n", "\x7b", "  \"modules\": \x7b", "    ", ": \x7b", "      \"native_files\": [],",
      "      \"init\": ", ",", "      \"cmakefile\": \"module.cmake\"", "    \x7d", "  \x7d", "\x7d", ""],
      Ascii part.toList := by decide +kernel
  simp only [List.forall_mem_cons] at hfixed
  simp only [manifest, String.intercalate_cons_cons, String.intercalate_singleton, String.toList_append, ascii_append,
    ascii_jsonString, hfixed, and_true]

/-- ASCII text of one JSON value with a newline behind it, and the module is all that it holds. -/
structure Describes (text library init : String) : Prop where
  ascii : Ascii text.toList
  framed : ∃ inner, text = "\x7b" ++ inner ++ "\x7d\n" ∧
    read? ("\x7b" ++ inner ++ "\x7d") = some (moduleValue library init)
  value : read? text = some (moduleValue library init)

theorem describes_manifest (library init : String) : Describes (manifest library init) library init where
  ascii := ascii_manifest library init
  framed := by
    have hbody : body library init =
        "\x7b" ++ ("\n" ++ String.intercalate "\n" (innerLines library init) ++ "\n") ++ "\x7d" := by
      simp only [body, innerLines, List.cons_append, List.nil_append, String.intercalate_cons_cons,
        String.intercalate_singleton, String.append_assoc]
    have hend : "\x7d" ++ "\n" = "\x7d\n" := by decide +kernel
    refine ⟨"\n" ++ String.intercalate "\n" (innerLines library init) ++ "\n", ?_, ?_⟩
    · rw [manifest_eq, hbody, String.append_assoc, hend]
    · rw [← hbody, read?_body]
  value := read?_manifest library init

end Manifest

/-- The manifest tells of the module alone, whatever characters its name and that of its class are made of. -/
theorem manifest_describes (library : String) :
    (∀ c : ScriptClass, Manifest.Describes (Manifest.manifest (lower library) c.init) (lower library)
      ("Init" ++ Code.identifierOf c.name)) ∧
    ∀ (p : Plan) (package : Package), p.package library = .ok package →
      Manifest.Describes package.manifest (lower library) ("Init" ++ Code.identifierOf p.scriptClass.name) := by
  refine ⟨fun c => Manifest.describes_manifest (lower library) c.init, ?_⟩
  intro p package h
  obtain ⟨-, -, -, -, -, -, -, hmanifest⟩ := Plan.exists_sections h
  rw [hmanifest]
  exact Manifest.describes_manifest (lower library) p.scriptClass.init

end ScriptBinding
