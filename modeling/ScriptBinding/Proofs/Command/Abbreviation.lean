import Mathlib.Data.List.TakeWhile
import ScriptBinding.Command.Arguments

/-!
Options that are given by a part of their spelling. A part is read as the option if no other one begins with it.
-/

namespace ScriptBinding.Command

/-- The text begins the spelling of this option, and of no other. -/
def Flag.Named (flag : Flag) (start : List Char) : Prop :=
  ∀ entry ∈ Flag.table, start <+: entry.1.toList ↔ entry.2 = flag

instance (flag : Flag) : DecidablePred flag.Named := fun start =>
  inferInstanceAs (Decidable (∀ entry ∈ Flag.table, start <+: entry.1.toList ↔ entry.2 = flag))

variable {flag : Flag} {start cs : List Char}

theorem Flag.exists_entry (flag : Flag) : ∃ entry ∈ Flag.table, entry.2 = flag := by
  cases flag <;> decide

theorem Flag.dashes_of_table : ∀ entry ∈ Flag.table, entry.1 ≠ "-h" → ['-', '-'] <+: entry.1.toList := by
  decide

theorem Flag.equals_notMem_of_table : ∀ entry ∈ Flag.table, '=' ∉ entry.1.toList := by
  decide

namespace Flag.Named

/-- Both dashes alone begin the spelling of several options. -/
theorem not_prefix (h : flag.Named start) : ¬ start <+: ['-', '-'] := by
  intro hstart
  have hlibrary := (h ("--library-name", .library) (by decide)).mp (hstart.trans (by decide))
  have houtput := (h ("--output-dir", .outputFolder) (by decide)).mp (hstart.trans (by decide))
  rw [← hlibrary] at houtput
  cases houtput

theorem dashes_of_prefix (h : flag.Named start) {spelling : List Char} (hstart : start <+: spelling)
    (hspelling : ['-', '-'] <+: spelling) : ['-', '-'] <+: start :=
  (List.prefix_or_prefix_of_prefix hspelling hstart).resolve_right h.not_prefix

/-- The letter `h` behind one dash stands for an option that is spelled with two dashes as well. -/
theorem ne_help (h : flag.Named start) : flag ≠ .help := by
  rintro rfl
  have hshort : start <+: ['-', 'h'] := (h ("-h", .help) (by decide)).mpr rfl
  have hlong := (h ("--help", .help) (by decide)).mpr rfl
  exact absurd ((h.dashes_of_prefix hlong (by decide)).trans hshort) (by decide)

theorem dashes (h : flag.Named start) : ['-', '-'] <+: start := by
  obtain ⟨entry, hentry, hflag⟩ := Flag.exists_entry flag
  apply h.dashes_of_prefix ((h entry hentry).mpr hflag) (Flag.dashes_of_table entry hentry _)
  intro hshort
  have hhelp : ∀ entry ∈ Flag.table, entry.1 = "-h" → entry.2 = .help := by decide
  exact h.ne_help (hflag ▸ hhelp entry hentry hshort)

theorem equals_notMem (h : flag.Named start) : '=' ∉ start := by
  obtain ⟨entry, hentry, hflag⟩ := Flag.exists_entry flag
  exact fun hmem => Flag.equals_notMem_of_table entry hentry (((h entry hentry).mpr hflag).subset hmem)

/-- The table has one entry for every option but help. -/
theorem exists_filter (h : flag.Named start) :
    ∃ spelling, Flag.table.filter (fun entry => start.isPrefixOf entry.1.toList) = [(spelling, flag)] := by
  have hfilter : Flag.table.filter (fun entry => start.isPrefixOf entry.1.toList) =
      Flag.table.filter (fun entry => entry.2 = flag) := by
    apply List.filter_congr
    intro entry hentry
    rw [Bool.eq_iff_iff, List.isPrefixOf_iff_prefix, h entry hentry, decide_eq_true_iff]
  rw [hfilter]
  cases flag with
  | help => exact absurd rfl h.ne_help
  | _ => exact ⟨_, rfl⟩

end Flag.Named

theorem mem_table_of_ofSpelling? {f : Flag} (h : Flag.ofSpelling? cs = some f) :
    (String.ofList cs, f) ∈ Flag.table := by
  obtain ⟨before, after, htable, -⟩ := List.lookup_eq_some_iff.mp h
  rw [htable]
  exact List.mem_append_right _ List.mem_cons_self

theorem Flag.Named.eq_of_ofSpelling? (h : flag.Named start) {f : Flag} (hf : Flag.ofSpelling? start = some f) :
    f = flag := by
  have hspelling : start <+: (String.ofList start).toList := by simp
  exact (h _ (mem_table_of_ofSpelling? hf)).mp hspelling

theorem equals_notMem_of_ofSpelling? {f : Flag} (h : Flag.ofSpelling? cs = some f) : '=' ∉ cs := by
  have hspelling := Flag.equals_notMem_of_table _ (mem_table_of_ofSpelling? h)
  rwa [String.toList_ofList] at hspelling

theorem splitValue_of_notMem (h : '=' ∉ cs) : splitValue cs = (cs, none) := by
  have hall : ∀ c ∈ cs, decide (c ≠ '=') = true := fun c hc => decide_eq_true (ne_of_mem_of_not_mem hc h)
  rw [splitValue, List.takeWhile_eq_self_iff.mpr hall, List.dropWhile_eq_nil_iff.mpr hall]
  rfl

theorem splitValue_joined (h : '=' ∉ start) (value : List Char) :
    splitValue (start ++ '=' :: value) = (start, some value) := by
  have hall : ∀ c ∈ start, decide (c ≠ '=') = true := fun c hc => decide_eq_true (ne_of_mem_of_not_mem hc h)
  rw [splitValue, List.takeWhile_append_of_pos hall, List.dropWhile_append_of_pos hall]
  simp [Text.after?]

namespace Flag.Named

variable {value : Option (List Char)}

theorem dashes_of_splitValue (h : flag.Named start) (hcs : splitValue cs = (start, value)) :
    ∃ rest, cs = '-' :: '-' :: rest := by
  have hstart : cs.takeWhile (· ≠ '=') = start := congrArg Prod.fst hcs
  obtain ⟨rest, hrest⟩ := h.dashes.trans (hstart ▸ List.takeWhile_prefix _)
  exact ⟨rest, hrest.symm⟩

theorem exactOption?_cases (h : flag.Named start) (hcs : splitValue cs = (start, value)) :
    exactOption? cs = none ∨ exactOption? cs = some (.option flag false value) := by
  obtain ⟨rest, hrest⟩ := h.dashes_of_splitValue hcs
  have hshort : (!(['-', '-'].isPrefixOf cs)) = false := by
    rw [hrest]
    rfl
  rw [exactOption?, hshort]
  cases hwhole : Flag.ofSpelling? cs with
  | some f =>
    rw [splitValue_of_notMem (equals_notMem_of_ofSpelling? hwhole)] at hcs
    obtain ⟨rfl, rfl⟩ := Prod.mk.inj hcs
    rw [h.eq_of_ofSpelling? hwhole]
    exact .inr rfl
  | none =>
    rw [hcs]
    cases value with
    | none => exact .inl rfl
    | some value =>
      cases hstart : Flag.ofSpelling? start with
      | none =>
        left
        simp [hstart]
      | some f =>
        right
        simp [hstart, h.eq_of_ofSpelling? hstart]

theorem exists_candidates (h : flag.Named start) (hcs : splitValue cs = (start, value)) :
    ∃ spelling, candidates cs = [(spelling, .option flag false value)] := by
  obtain ⟨spelling, hfilter⟩ := h.exists_filter
  obtain ⟨rest, hrest⟩ := h.dashes_of_splitValue hcs
  refine ⟨spelling, ?_⟩
  rw [hrest] at hcs ⊢
  rw [candidates, hcs]
  dsimp only
  rw [hfilter]
  rfl

/-- An option may be named in full or in part, with or without a value behind an equals sign. -/
theorem classify_eq (h : flag.Named start) (hcs : splitValue cs = (start, value)) :
    classify (String.ofList cs) = .ok (.option flag false value) := by
  obtain ⟨rest, hrest⟩ := h.dashes_of_splitValue hcs
  obtain ⟨spelling, hcandidates⟩ := h.exists_candidates hcs
  rw [classify, String.toList_ofList, if_neg (by simp [hrest])]
  rcases h.exactOption?_cases hcs with hexact | hexact
  · rw [hexact, hcandidates]
  · rw [hexact]

theorem ofList_ne_separator (h : flag.Named start) (hcs : splitValue cs = (start, value)) :
    String.ofList cs ≠ "--" := by
  intro heq
  have hdashes : cs = ['-', '-'] := by
    rw [← String.toList_ofList (l := cs), heq]
    rfl
  have hstart : cs.takeWhile (· ≠ '=') = start := congrArg Prod.fst hcs
  apply h.not_prefix
  rw [← hstart, ← hdashes]
  exact List.takeWhile_prefix _

end Flag.Named

theorem classify_positional {text : String} (h : text.toList.head? ≠ some '-') :
    classify text = .ok (.positional text) := by
  rw [classify, if_pos (by simp [h])]

theorem ne_separator_of_head {text : String} (h : text.toList.head? ≠ some '-') : text ≠ "--" := by
  rintro rfl
  exact h rfl

end ScriptBinding.Command
