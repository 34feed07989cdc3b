import ScriptBinding.Command.Run
import ScriptBinding.Proofs.Command.Abbreviation

/-!
Options in front of the two positional words and behind them. All that counts is the order of the options among
themselves: each one holds what it has been given last.
-/

namespace ScriptBinding.Command

structure OptionName where
  flag : Flag
  start : List Char
  named : flag.Named start

/-- An option with its value in a word of its own, with its value behind an equals sign, or without a value. -/
inductive GivenOption where
  | apart (name : OptionName) (value : String) (takes : name.flag.takesValue = true)
      (plain : value.toList.head? ≠ some '-')
  | joined (name : OptionName) (value : String) (takes : name.flag.takesValue = true)
  | switch (name : OptionName) (bare : name.flag.takesValue = false)

namespace GivenOption

def flag : GivenOption → Flag
  | apart name _ _ _ | joined name _ _ | switch name _ => name.flag

def value : GivenOption → String
  | apart _ value _ _ | joined _ value _ => value
  | switch _ _ => ""

/-- The value `--`, which can stand behind an equals sign only, counts as empty. -/
def held (g : GivenOption) : String := if g.value = "--" then "" else g.value

def words : GivenOption → List String
  | apart name value _ _ => [String.ofList name.start, value]
  | joined name value _ => [String.ofList (name.start ++ '=' :: value.toList)]
  | switch name _ => [String.ofList name.start]

def classified : GivenOption → List Word
  | apart name value _ _ => [.option name.flag false none, .positional value]
  | joined name value _ => [.option name.flag false (some value.toList)]
  | switch name _ => [.option name.flag false none]

end GivenOption

def wordsOf (given : List GivenOption) : List String := given.flatMap GivenOption.words

/-- What an option holds after all that has been given. -/
def lastGiven (flag : Flag) (given : List GivenOption) : Option String :=
  ((given.filter (·.flag = flag)).getLast?).map GivenOption.held

def optionsOf (symbolsFile className : Option String) (given : List GivenOption) : Options where
  symbolsFile := symbolsFile
  className := className
  scriptName := lastGiven .scriptName given
  library := lastGiven .library given
  headerFile := lastGiven .headerFile given
  withoutFiles := given.any (·.flag = .withoutFiles)
  outputFolder := lastGiven .outputFolder given

theorem lastGiven_concat (flag : Flag) (given : List GivenOption) (g : GivenOption) :
    lastGiven flag (given ++ [g]) = if g.flag = flag then some g.held else lastGiven flag given := by
  rw [lastGiven, List.filter_append]
  split
  · next h => simp [h]
  · next h => simp [h, lastGiven]

section Classification

variable {words : List String} {read : List Word}

theorem classifyAll_cons {text : String} {word : Word} (hne : text ≠ "--") (hword : classify text = .ok word)
    (h : classifyAll words = .ok read) : classifyAll (text :: words) = .ok (word :: read) := by
  rw [classifyAll, if_neg hne, hword, h]
  rfl

theorem classifyAll_positional {text : String} (htext : text.toList.head? ≠ some '-')
    (h : classifyAll words = .ok read) : classifyAll (text :: words) = .ok (.positional text :: read) :=
  classifyAll_cons (ne_separator_of_head htext) (classify_positional htext) h

theorem classifyAll_named (name : OptionName) {cs : List Char} {value : Option (List Char)}
    (hcs : splitValue cs = (name.start, value)) (h : classifyAll words = .ok read) :
    classifyAll (String.ofList cs :: words) = .ok (.option name.flag false value :: read) :=
  classifyAll_cons (name.named.ofList_ne_separator hcs) (name.named.classify_eq hcs) h

theorem GivenOption.classifyAll_words (g : GivenOption) (h : classifyAll words = .ok read) :
    classifyAll (g.words ++ words) = .ok (g.classified ++ read) := by
  cases g with
  | apart name value takes plain =>
    exact classifyAll_named name (splitValue_of_notMem name.named.equals_notMem) (classifyAll_positional plain h)
  | joined name value takes => exact classifyAll_named name (splitValue_joined name.named.equals_notMem _) h
  | switch name bare => exact classifyAll_named name (splitValue_of_notMem name.named.equals_notMem) h

theorem classifyAll_given (given : List GivenOption) (h : classifyAll words = .ok read) :
    classifyAll (wordsOf given ++ words) = .ok (given.flatMap GivenOption.classified ++ read) := by
  induction given with
  | nil => exact h
  | cons g given ih =>
    rw [wordsOf, List.flatMap_cons, List.flatMap_cons, List.append_assoc, List.append_assoc]
    exact g.classifyAll_words ih

end Classification

namespace Reading

def give (r : Reading) (g : GivenOption) : Reading := r.close.setValue g.flag g.value

theorem readWords_classified (r : Reading) (g : GivenOption) (rest : List Word) :
    readWords r (g.classified ++ rest) = readWords (r.give g) rest := by
  cases g with
  | apart name value takes plain =>
    simp only [GivenOption.classified, List.cons_append, List.nil_append, readWords, takes, ↓reduceIte]
    rfl
  | joined name value takes =>
    simp only [GivenOption.classified, List.cons_append, List.nil_append, readWords, takes, ↓reduceIte,
      String.ofList_toList]
    rfl
  | switch name bare =>
    have hother : name.flag ≠ .help := name.named.ne_help
    rw [GivenOption.classified, List.singleton_append]
    conv =>
      lhs
      unfold readWords
    simp only [bare, Bool.false_eq_true, ↓reduceIte, checkSwitch, hother]
    rfl

theorem readWords_given (r : Reading) (given : List GivenOption) (rest : List Word) :
    readWords r (given.flatMap GivenOption.classified ++ rest) = readWords (given.foldl give r) rest := by
  induction given generalizing r with
  | nil => rfl
  | cons g given ih =>
    rw [List.flatMap_cons, List.append_assoc, readWords_classified, ih]
    rfl

/-- The options read, and no word that is left over. -/
structure Holds (r : Reading) (options : Options) : Prop where
  options : r.options = options
  extras : r.extras = []

variable {r : Reading} {symbolsFile className : Option String} {given : List GivenOption}

theorem Holds.give (h : r.Holds (optionsOf symbolsFile className given)) (g : GivenOption) :
    (r.give g).Holds (optionsOf symbolsFile className (given ++ [g])) := by
  obtain ⟨hoptions, hextras⟩ := h
  refine ⟨?_, hextras⟩
  have hset : (r.give g).options =
      (setValue { r with options := optionsOf symbolsFile className given } g.flag g.value).options := by
    rw [← hoptions]
    rfl
  rw [hset]
  cases hflag : g.flag <;> simp [setValue, optionsOf, lastGiven_concat, hflag, GivenOption.held]

theorem Holds.foldl_give (h : r.Holds (optionsOf symbolsFile className given)) (more : List GivenOption) :
    (more.foldl Reading.give r).Holds (optionsOf symbolsFile className (given ++ more)) := by
  induction more generalizing r given with
  | nil => rwa [List.append_nil]
  | cons g more ih =>
    have hmore := ih (h.give g)
    rwa [List.append_assoc] at hmore

theorem slot_foldl_give (h : r.slot = .first) (more : List GivenOption) : (more.foldl give r).slot = .first := by
  induction more generalizing r with
  | nil => exact h
  | cons g more ih =>
    apply ih
    show r.close.slot = .first
    rw [close, h]
    rfl

theorem Holds.positionals (h : r.Holds (optionsOf none none given)) (hslot : r.slot = .first) (file : String)
    {name : String} (hname : name ≠ "--") :
    ((r.positional file).positional name).Holds (optionsOf (some file) (some name) given) := by
  obtain ⟨hoptions, hextras⟩ := h
  constructor
  · simp only [positional, hslot, hoptions, if_neg hname]
    rfl
  · simp only [positional, hslot, hextras]

theorem Holds.readWords_nil {o : Options} (h : r.Holds o) : readWords r [] = .ok (.options o) := by
  rw [readWords, h.extras, h.options]
  rfl

end Reading

theorem readArguments_given (before after : List GivenOption) {file name : String}
    (hfile : file.toList.head? ≠ some '-') (hname : name.toList.head? ≠ some '-') :
    readArguments (wordsOf before ++ [file, name] ++ wordsOf after) =
      .ok (.options (optionsOf (some file) (some name) (before ++ after))) := by
  have hafter : classifyAll (wordsOf after) = .ok (after.flatMap GivenOption.classified) := by
    have h := classifyAll_given after (show classifyAll [] = .ok [] from rfl)
    rwa [List.append_nil, List.append_nil] at h
  have hclassified : classifyAll (wordsOf before ++ [file, name] ++ wordsOf after) =
      .ok (before.flatMap GivenOption.classified ++
        .positional file :: .positional name :: after.flatMap GivenOption.classified) := by
    rw [List.append_assoc]
    exact classifyAll_given before (classifyAll_positional hfile (classifyAll_positional hname hafter))
  have hstart : Reading.Holds {} (optionsOf none none []) := ⟨rfl, rfl⟩
  have hbefore := hstart.foldl_give before
  -- Options do not use up the places of the positional words as long as these come together.
  have hslot : (before.foldl Reading.give {}).slot = .first := Reading.slot_foldl_give rfl before
  have hall := (hbefore.positionals hslot file (ne_separator_of_head hname)).foldl_give after
  have hread := Reading.readWords_given
    (((before.foldl Reading.give {}).positional file).positional name) after []
  rw [List.append_nil] at hread
  rw [readArguments, hclassified, Except.bind, Reading.readWords_given, readWords, readWords, hread,
    hall.readWords_nil]
  rfl

/-- What is done for options that have been read. -/
def requestFor (o : Options) : Request :=
  match Settings.ofOptions o with
  | .error e => .explain e.message
  | .ok settings => .generate settings

theorem requestOf_of_options {words : List String} {o : Options} (h : readArguments words = .ok (.options o)) :
    requestOf words = requestFor o := by
  cases hsettings : Settings.ofOptions o with
  | error e => simp only [requestOf, h, requestFor, hsettings]
  | ok settings => simp only [requestOf, h, requestFor, hsettings]

/-- The two positional words may stand in front of the options, behind them or between them: the options read are the
same, and so are the settings that follow from them, or the fault. -/
theorem requestOf_given (before after : List GivenOption) {file name : String}
    (hfile : file.toList.head? ≠ some '-') (hname : name.toList.head? ≠ some '-') :
    ∀ words ∈ [wordsOf before ++ [file, name] ++ wordsOf after, [file, name] ++ wordsOf before ++ wordsOf after],
      readArguments words = .ok (.options (optionsOf (some file) (some name) (before ++ after))) ∧
        requestOf words = requestFor (optionsOf (some file) (some name) (before ++ after)) := by
  -- The words in front are the case in which no option stands before them.
  have hfront : wordsOf [] ++ [file, name] ++ wordsOf (before ++ after) =
      [file, name] ++ wordsOf before ++ wordsOf after := by
    simp [wordsOf]
  intro words hwords
  have hread : readArguments words = .ok (.options (optionsOf (some file) (some name) (before ++ after))) := by
    rcases List.mem_cons.mp hwords with rfl | hwords
    · exact readArguments_given before after hfile hname
    · rw [List.mem_singleton.mp hwords, ← hfront]
      exact readArguments_given [] (before ++ after) hfile hname
  exact ⟨hread, requestOf_of_options hread⟩

def libraryOption : OptionName := ⟨.library, "--lib".toList, by decide⟩

def headerOption : OptionName := ⟨.headerFile, "--header-file".toList, by decide⟩

def dryOption : OptionName := ⟨.withoutFiles, "--dont-create-files".toList, by decide⟩

def earlyOptions : List GivenOption := [.apart libraryOption "Lights" rfl (by decide), .switch dryOption rfl]

def lateOptions : List GivenOption := [.joined headerOption "-x" rfl, .joined libraryOption "lamps" rfl]

theorem requestOf_given_repeated :
    ("s".toList.head? ≠ some '-' ∧ "Led".toList.head? ≠ some '-') ∧
      lastGiven .library (earlyOptions ++ lateOptions) = some "lamps" ∧
      readArguments (wordsOf earlyOptions ++ ["s", "Led"] ++ wordsOf lateOptions) =
        .ok (.options (optionsOf (some "s") (some "Led") (earlyOptions ++ lateOptions))) :=
  ⟨by decide, by decide, (requestOf_given _ _ (by decide) (by decide) _ List.mem_cons_self).1⟩

/-- Two dashes behind an equals sign are a value that is given and not held. -/
theorem dashes_not_held :
    (GivenOption.joined headerOption "--" rfl).words = ["--header-file=--"] ∧
      (GivenOption.joined headerOption "--" rfl).value = "--" ∧
      (∃ o, readArguments ["--header-file=--", "s", "C"] = .ok (.options o) ∧ o.headerFile = some "") ∧
      ∃ settings, requestOf ["--header-file=--", "s", "C"] = .generate settings ∧
        settings.headerLine = "// @todo: add a reference to the C header here" := by
  have hwords : wordsOf [.joined headerOption "--" rfl] ++ ["s", "C"] ++ wordsOf [] =
      ["--header-file=--", "s", "C"] := by
    decide
  have hread := readArguments_given [.joined headerOption "--" rfl] [] (show "s".toList.head? ≠ some '-' by decide)
    (show "C".toList.head? ≠ some '-' by decide)
  rw [hwords] at hread
  refine ⟨by decide, rfl, ⟨_, hread, by decide⟩, ?_⟩
  rw [requestOf_of_options hread]
  exact ⟨_, rfl, by decide⟩

end ScriptBinding.Command
