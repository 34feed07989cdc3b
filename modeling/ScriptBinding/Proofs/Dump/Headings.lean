import ScriptBinding.Proofs.Dump.Reading
import ScriptBinding.Proofs.Keyed

/-!
The headings of a text and the forest that is read from them. A heading with a tag makes a node, whose place is the
number of such headings above it and whose attributes stand between it and the next heading of any kind. The parent
of a node stands at the nearest heading above that has a tag and a smaller depth. A heading without a tag is passed
over, also where its abbreviation number shows that it is an entry and not the end of a list of children.
-/

namespace ScriptBinding.Dump

open Text

def Heading.level (h : Heading) : Nat := ofDigits 10 (h.depth.filterMap (digitValue? 10))

def isHeading (l : List Char) : Bool := (readHeading? l).isSome

/-- A heading whose tag the dump names. -/
def isTagged (l : List Char) : Bool := (readHeading? l).any (·.tag.isSome)

def levelOf (l : List Char) : Nat := ((readHeading? l).map (·.level)).getD 0

/-- The digits of the abbreviation number in a heading. -/
def abbreviation? (cs : List Char) : Option (List Char) := do
  let cs ← after? ['<'] (trimStart cs)
  let (_, cs) ← run? isDecimal cs
  let cs ← after? ['>', '<'] cs
  let (_, cs) ← run? isHexDigit cs
  let cs ← after? ">: Abbrev Number: ".toList cs
  let (number, _) ← run? isDecimal cs
  return number

/-- A heading of an entry, with a tag or without: only the end of a list of children has the number 0. -/
def isEntry (l : List Char) : Bool := (abbreviation? l).any (·.any (decimalValue? · ≠ some 0))

theorem isSome_abbreviation? (l : List Char) : (abbreviation? l).isSome = isHeading l := by
  simp only [isHeading, readHeading?, abbreviation?, Option.bind_eq_bind, Option.isSome_bind, Option.pure_def,
    Option.isSome_some]

section Exclusive

theorem after?_close {depth rest cs : List Char} (hdepth : ∀ c ∈ depth, isDecimal c = true)
    (h : after? ['>'] ((depth ++ '>' :: '<' :: cs).dropWhile isHexDigit) = some rest) : rest = '<' :: cs := by
  induction depth with
  | nil => simpa [isHexDigit, after?, eq_comm] using h
  | cons c depth ih =>
    rw [List.cons_append] at h
    -- A decimal digit of another script is no hexadecimal digit, and then the bracket is not where it should be.
    cases hc : isHexDigit c with
    | true =>
      rw [List.dropWhile_cons_of_pos hc] at h
      exact ih (fun d hd => hdepth d (by simp [hd])) h
    | false =>
      have hclose : c ≠ '>' := isDecimal_ne (hdepth c (by simp)) isDecimal_close
      rw [List.dropWhile_cons_of_neg (by simp [hc])] at h
      simp [after?, hclose.symm] at h

/-- No line is both a heading and an attribute: a heading has a second `<` where an attribute has a blank. -/
theorem readAttribute?_of_readHeading? {l : List Char} {h : Heading} (hr : readHeading? l = some h) :
    readAttribute? l = none := by
  simp only [readHeading?, Option.bind_eq_bind, Option.bind_eq_some_iff, Option.pure_def] at hr
  obtain ⟨cs, hopen, ⟨depth, rest⟩, hdepth, inner, hclose, -⟩ := hr
  have hcs : cs = depth ++ '>' :: '<' :: inner := by
    have hrest : rest = ['>', '<'] ++ inner := eq_append_of_after? hclose
    rw [eq_append_of_run? hdepth, hrest]
    rfl
  have hblank : run? isBlank ('<' :: inner) = none := by simp [run?, isBlank]
  simp only [readAttribute?, hopen, Option.bind_eq_bind, Option.bind_some]
  cases hrun : run? isHexDigit cs with
  | none => rfl
  | some digits =>
    have hdigits := (run?_eq_some hrun).2.2
    rw [hcs] at hdigits
    cases hafter : after? ['>'] digits.2 with
    | none => simp only [Option.bind_some, hafter, Option.bind_none]
    | some rest =>
      rw [hdigits] at hafter
      obtain rfl := after?_close (run?_eq_some hdepth).2.1 hafter
      simp only [Option.bind_some, hdigits, hafter, hblank, Option.bind_none]

theorem readHeading?_of_readAttribute? {l : List Char} (h : (readAttribute? l).isSome = true) :
    readHeading? l = none := by
  apply Option.eq_none_iff_forall_not_mem.mpr
  intro heading hr
  rw [readAttribute?_of_readHeading? hr] at h
  cases h

end Exclusive

/-- What a line says, however long the numeral of its depth is. -/
def said (l : List Char) : Line :=
  match readHeading? l with
  | some h => .entry h.level (hexValue h.offset) h.tag
  | none =>
    match readAttribute? l with
    | some (key, value) => .attribute key value
    | none => .other

theorem read_said {l : List Char} {line : Line} (h : Line.read l = .ok line) : line = said l := by
  rw [Line.read] at h
  rw [said]
  cases hr : readHeading? l with
  | none =>
    simp only [hr] at h ⊢
    cases ha : readAttribute? l with
    | none =>
      simp only [ha] at h
      exact (Except.ok.inj h).symm
    | some pair =>
      simp only [ha] at h
      exact (Except.ok.inj h).symm
  | some heading =>
    obtain ⟨hne, hdepth⟩ := depth_of_readHeading? hr
    simp only [hr, readDecimal_of_isDecimal hne hdepth] at h ⊢
    split_ifs at h
    exact (Except.ok.inj h).symm

theorem mapM_read_said {ls : List (List Char)} {read : List Line} (h : ls.mapM Line.read = .ok read) :
    read = ls.map said := by
  have hlines := mapM_eq_ok_iff.mp h
  clear h
  induction hlines with
  | nil => rfl
  | cons hline _ ih => rw [read_said hline, ih, List.map_cons]

theorem eq_ofLines_of_parse {text : String} {t : Tree} (h : Tree.parse text = .ok t) :
    t = .ofLines ((lines text.toList).map said) := by
  rw [Tree.parse, Tree.parseChars, Except.map_eq_ok_iff] at h
  obtain ⟨read, hread, rfl⟩ := h
  rw [mapM_read_said hread]

/-- The attributes in some lines before the next heading. -/
def attributesIn (ls : List (List Char)) : List (String × String) :=
  (ls.takeWhile (!isHeading ·)).filterMap readAttribute?

/-- The entry that a heading with a tag makes, with the lines behind it. -/
def entryAt? (l : List Char) (after : List (List Char)) : Option Entry :=
  (readHeading? l).bind fun h => h.tag.map fun tag =>
    ⟨tag, hexValue h.offset, h.level, .ofPairs (attributesIn after)⟩

section Entries

variable {l : List Char} {ls before after : List (List Char)} {e : Entry}

theorem isSome_entryAt? (l : List Char) (after : List (List Char)) : (entryAt? l after).isSome = isTagged l := by
  rw [entryAt?, isTagged]
  cases readHeading? l with
  | none => rfl
  | some h => exact Option.isSome_map

theorem attributes_foldr_said (ls : List (List Char)) :
    ((ls.map said).foldr gather {}).attributes = attributesIn ls := by
  induction ls with
  | nil => rfl
  | cons l ls ih =>
    rw [List.map_cons, List.foldr_cons, said]
    cases hr : readHeading? l with
    | some h =>
      have hhead : isHeading l = true := by rw [isHeading, hr]; rfl
      rw [attributesIn, List.takeWhile_cons_of_neg (by simp [hhead])]
      cases htag : h.tag <;> simp only [htag] <;> rfl
    | none =>
      have hhead : isHeading l = false := by rw [isHeading, hr]; rfl
      rw [attributesIn, List.takeWhile_cons_of_pos (by simp [hhead]), List.filterMap_cons]
      cases readAttribute? l with
      | none => exact ih
      | some pair => exact congrArg (pair :: ·) ih

theorem entriesOf_cons (l : List Char) (ls : List (List Char)) :
    entriesOf ((l :: ls).map said) = (entryAt? l ls).toList ++ entriesOf (ls.map said) := by
  rw [entriesOf, List.map_cons, List.foldr_cons, said, entryAt?]
  cases readHeading? l with
  | none => cases readAttribute? l <;> rfl
  | some h =>
    cases htag : h.tag with
    | none => simp [gather, htag, entriesOf]
    | some tag => simp [gather, htag, entriesOf, attributes_foldr_said]

theorem length_entriesOf (ls : List (List Char)) : (entriesOf (ls.map said)).length = ls.countP isTagged := by
  induction ls with
  | nil => rfl
  | cons l ls ih =>
    rw [entriesOf_cons, List.length_append, ih, List.countP_cons, ← isSome_entryAt? l ls, Nat.add_comm]
    cases entryAt? l ls <;> rfl

theorem getElem?_entriesOf (before : List (List Char)) (h : entryAt? l after = some e) :
    (entriesOf ((before ++ l :: after).map said))[before.countP isTagged]? = some e := by
  induction before with
  | nil =>
    rw [List.nil_append, entriesOf_cons, h]
    rfl
  | cons m before ih =>
    have hm := isSome_entryAt? m (before ++ l :: after)
    rw [List.cons_append, entriesOf_cons, List.countP_cons, ← hm]
    cases entryAt? m (before ++ l :: after) with
    | none => exact ih
    | some e => exact ih

end Entries

theorem exists_split_of_lt_countP {α : Type} {p : α → Bool} {l : List α} {k : Nat} (h : k < l.countP p) :
    ∃ before a after, l = before ++ a :: after ∧ before.countP p = k ∧ p a = true := by
  induction l generalizing k with
  | nil => simp at h
  | cons a l ih =>
    cases ha : p a with
    | true =>
      cases k with
      | zero => exact ⟨[], a, l, rfl, rfl, ha⟩
      | succ k =>
        obtain ⟨before, b, after, rfl, hcount, hb⟩ := ih (k := k) (by simpa [ha] using h)
        exact ⟨a :: before, b, after, rfl, by simp [ha, hcount], hb⟩
    | false =>
      obtain ⟨before, b, after, rfl, hcount, hb⟩ := ih (k := k) (by simpa [ha] using h)
      exact ⟨a :: before, b, after, rfl, by simp [ha, hcount], hb⟩

theorem Linking.map_toEntry_foldl (l : Linking) (entries : List Entry) :
    (entries.foldl Linking.next l).nodes.toList.map Node.toEntry = l.nodes.toList.map Node.toEntry ++ entries := by
  induction entries generalizing l with
  | nil => exact (List.append_nil _).symm
  | cons e entries ih =>
    rw [List.foldl_cons, ih, nodes_next, Array.toList_push, List.map_append, List.append_assoc]
    rfl

theorem Tree.map_toEntry_ofEntries (entries : List Entry) :
    (ofEntries entries).nodes.toList.map Node.toEntry = entries :=
  Linking.map_toEntry_foldl {} entries

/-- A node has the tag, the offset and the depth of its heading, and the attributes in the lines behind it. -/
structure Node.ReadFrom (n : Node) (l : List Char) (after : List (List Char)) : Prop where
  heading : ∃ h, readHeading? l = some h ∧ h.tag = some n.tag ∧ hexValue h.offset = n.offset ∧ h.level = n.depth
  attributes : Keyed.Latest (attributesIn after) n.attributes

theorem readFrom_of_entryAt? {n : Node} {l : List Char} {after : List (List Char)}
    (h : entryAt? l after = some n.toEntry) : n.ReadFrom l after := by
  obtain ⟨heading, hr, h⟩ := Option.bind_eq_some_iff.mp h
  obtain ⟨tag, htag, h⟩ := Option.map_eq_some_iff.mp h
  obtain ⟨rfl, hoffset, hdepth, hattributes⟩ := (Entry.mk.injEq ..).mp h
  refine ⟨⟨heading, hr, htag, hoffset, hdepth⟩, ?_⟩
  rw [← hattributes]
  exact Keyed.latest_ofPairs (attributesIn after)

/-- The headings with a tag are the nodes, in their order, and each has the attributes before the next heading. -/
structure Tree.Attributed (t : Tree) (ls : List (List Char)) : Prop where
  size : t.size = ls.countP isTagged
  node : ∀ before l after, ls = before ++ l :: after → isTagged l = true →
    ∃ n, t.nodes[before.countP isTagged]? = some n ∧ n.ReadFrom l after

section Parse

variable {text : String} {t : Tree} (h : Tree.parse text = .ok t)
include h

theorem parentsNearest_of_parse : t.ParentsNearest := by
  rw [eq_ofLines_of_parse h]
  exact Tree.parentsNearest_ofEntries _

theorem size_of_parse : t.size = (lines text.toList).countP isTagged := by
  have hentries := Tree.map_toEntry_ofEntries (entriesOf ((lines text.toList).map said))
  rw [← length_entriesOf, ← hentries, List.length_map, Array.length_toList, eq_ofLines_of_parse h]
  rfl

theorem node_of_heading {before after : List (List Char)} {l : List Char}
    (hlines : lines text.toList = before ++ l :: after) (hl : isTagged l = true) :
    ∃ n, t.nodes[before.countP isTagged]? = some n ∧ n.ReadFrom l after := by
  rw [← isSome_entryAt? l after] at hl
  obtain ⟨e, he⟩ := Option.isSome_iff_exists.mp hl
  have hentry := getElem?_entriesOf before he
  rw [← hlines, ← Tree.map_toEntry_ofEntries (entriesOf _), List.getElem?_map, Array.getElem?_toList,
    Option.map_eq_some_iff] at hentry
  obtain ⟨n, hn, rfl⟩ := hentry
  rw [eq_ofLines_of_parse h]
  exact ⟨n, hn, readFrom_of_entryAt? he⟩

theorem attributed_of_parse : t.Attributed (lines text.toList) where
  size := size_of_parse h
  node _ _ _ hlines hl := node_of_heading h hlines hl

theorem depth_of_heading {before after : List (List Char)} {l : List Char}
    (hlines : lines text.toList = before ++ l :: after) (hl : isTagged l = true) :
    t.depth (before.countP isTagged) = levelOf l := by
  obtain ⟨n, hn, hread⟩ := node_of_heading h hlines hl
  obtain ⟨heading, hr, -, -, hdepth⟩ := hread.heading
  rw [Tree.depth, depthAt, hn, levelOf, hr]
  exact hdepth.symm

end Parse

/-- A dump is a forest, with a node for each heading with a tag, unless one of its depths is too long a numeral,
and such a dump is refused. -/
theorem parse_isForest_or_refused (text : String) :
    (DepthsFit (lines text.toList) ∧
        ∃ t, Tree.parse text = .ok t ∧ t.IsForest ∧ t.Attributed (lines text.toList)) ∨
      (¬ DepthsFit (lines text.toList) ∧ ∃ digits, maxDigits < digits ∧
        Tree.parse text = .error (.longNumeral digits)) := by
  rcases parse_cases text with ⟨hfit, t, ht⟩ | hrefused
  · exact .inl ⟨hfit, t, ht, (parentsNearest_of_parse ht).isForest (linked_of_parse ht), attributed_of_parse ht⟩
  · exact .inr hrefused

def zeroDepthText (digits : Nat) : List Char :=
  headingText (List.replicate digits '0') ['0'] ['1'] (some "x")

theorem not_depthsFit_zeroDepthText {digits : Nat} (h : maxDigits < digits) :
    ¬ DepthsFit (lines (zeroDepthText digits)) := by
  have hdepth : ∀ c ∈ List.replicate digits '0', isDecimal c = true := by
    intro c hc
    rw [List.eq_of_mem_replicate hc]
    decide
  have hone : ∀ c ∈ ['1'], isDecimal c = true := List.all_eq_true.mp (by decide)
  have hzero : ∀ c ∈ ['0'], isHexDigit c = true := by simp [isHexDigit]
  have hword : ∀ s ∈ some "x", IsWordText s := by
    rintro _ ⟨rfl⟩
    decide
  have hne : List.replicate digits '0' ≠ [] := by
    rw [ne_eq, List.replicate_eq_nil_iff]
    omega
  have hlines : lines (zeroDepthText digits) = [zeroDepthText digits] :=
    lines_singleton (by simp [zeroDepthText, headingText])
      (unbroken_headingText hdepth hzero hone hword)
  intro hfit
  rw [hlines] at hfit
  have hlen := hfit _ (List.mem_singleton_self _) _
    (readHeading?_headingText hne hdepth (by simp) hzero (by simp) hone hword)
  rw [List.length_replicate] at hlen
  omega

theorem refused_zeroDepthText :
    ¬ ∃ t, Tree.parse (String.ofList (zeroDepthText 4301)) = .ok t ∧ t.IsForest := by
  rintro ⟨t, ht, -⟩
  rcases parse_cases (String.ofList (zeroDepthText 4301)) with ⟨hfit, -⟩ | ⟨-, digits, -, he⟩
  · rw [String.toList_ofList] at hfit
    exact not_depthsFit_zeroDepthText (by decide) hfit
  · rw [he] at ht
    cases ht

/-- Two headings with a tag in some lines, one above the other. -/
structure HeadingPair (ls : List (List Char)) where
  above : List (List Char)
  upper : List Char
  between : List (List Char)
  lower : List Char
  after : List (List Char)
  lines : ls = above ++ upper :: (between ++ lower :: after)
  upper_tagged : isTagged upper = true
  lower_tagged : isTagged lower = true

theorem countP_between {q : List Char} (above between : List (List Char)) (hq : isTagged q = true) :
    (above ++ q :: between).countP isTagged = above.countP isTagged + 1 + between.countP isTagged := by
  rw [List.countP_append, List.countP_cons_of_pos hq]
  omega

namespace HeadingPair

variable {ls : List (List Char)} (s : HeadingPair ls)

def upperPlace : Nat := s.above.countP isTagged

def lowerPlace : Nat := (s.above ++ s.upper :: s.between).countP isTagged

/-- The upper one is of a kind, and the nearest such heading above the lower one with a smaller depth. -/
structure Nearest (kind : List Char → Bool) : Prop where
  upper : kind s.upper = true
  smaller : levelOf s.upper < levelOf s.lower
  between : ∀ l ∈ s.between, kind l = true → levelOf s.lower ≤ levelOf l

theorem lines_lower : ls = (s.above ++ s.upper :: s.between) ++ s.lower :: s.after :=
  s.lines.trans (by rw [List.append_assoc, List.cons_append])

theorem lines_between {before after : List (List Char)} {l : List Char} (h : s.between = before ++ l :: after) :
    ls = (s.above ++ s.upper :: before) ++ l :: (after ++ s.lower :: s.after) :=
  s.lines.trans (by rw [h, List.append_assoc, List.append_assoc, List.cons_append, List.cons_append])

theorem nearest_isEntry_iff (h : s.Nearest isTagged) : s.Nearest isEntry ↔ isEntry s.upper = true ∧
    ∀ l ∈ s.between, isTagged l = false → isEntry l = true → levelOf s.lower ≤ levelOf l := by
  constructor
  · intro hentry
    exact ⟨hentry.upper, fun l hl _ => hentry.between l hl⟩
  · rintro ⟨hupper, huntagged⟩
    refine ⟨hupper, h.smaller, ?_⟩
    intro l hl hentry
    cases htag : isTagged l with
    | true => exact h.between l hl htag
    | false => exact huntagged l hl htag hentry

end HeadingPair

section Parents

variable {text : String} {t : Tree} (h : Tree.parse text = .ok t)
include h

theorem encloses_iff_nearest (s : HeadingPair (lines text.toList)) :
    t.Encloses s.upperPlace s.lowerPlace ↔ s.Nearest isTagged := by
  have hplace : s.lowerPlace = s.upperPlace + 1 + s.between.countP isTagged :=
    countP_between s.above s.between s.upper_tagged
  have hupper : t.depth s.upperPlace = levelOf s.upper := depth_of_heading h s.lines s.upper_tagged
  have hlower : t.depth s.lowerPlace = levelOf s.lower := depth_of_heading h s.lines_lower s.lower_tagged
  -- A tagged heading between the two makes a node whose place is between theirs.
  have hbetween {before after : List (List Char)} {l : List Char} (hl : s.between = before ++ l :: after)
      (htag : isTagged l = true) : t.depth (s.upperPlace + 1 + before.countP isTagged) = levelOf l := by
    rw [← depth_of_heading h (s.lines_between hl) htag, countP_between s.above before s.upper_tagged]
    rfl
  rw [Tree.Encloses, hupper, hlower]
  constructor
  · rintro ⟨-, hsmaller, hnearest⟩
    refine ⟨s.upper_tagged, hsmaller, ?_⟩
    intro l hl htag
    obtain ⟨before, after, hsplit⟩ := List.append_of_mem hl
    have hcount := countP_between before after htag
    rw [← hsplit] at hcount
    rw [← hbetween hsplit htag]
    exact hnearest _ (by omega) (by omega)
  · rintro ⟨-, hsmaller, hnearest⟩
    refine ⟨by omega, hsmaller, ?_⟩
    intro j hj hji
    obtain ⟨before, l, after, hsplit, hcount, htag⟩ :=
      exists_split_of_lt_countP (p := isTagged) (l := s.between) (k := j - (s.upperPlace + 1)) (by omega)
    have hdepth := hbetween hsplit htag
    rw [hcount, Nat.add_sub_cancel' hj] at hdepth
    rw [hdepth]
    exact hnearest l (by simp [hsplit]) htag

theorem parent_iff_nearest (s : HeadingPair (lines text.toList)) :
    t.parent? s.lowerPlace = some s.upperPlace ↔ s.Nearest isTagged := by
  obtain ⟨n, hn, -⟩ := node_of_heading h s.lines_lower s.lower_tagged
  have hsize : s.lowerPlace < t.size := (Array.getElem?_eq_some_iff.mp hn).1
  exact ((parentsNearest_of_parse h).encloses_iff hsize _).trans (encloses_iff_nearest h s)

theorem exists_pair_of_lt {i p : Nat} (hp : p < i) (hi : i < t.size) :
    ∃ s : HeadingPair (lines text.toList), s.lowerPlace = i ∧ s.upperPlace = p := by
  rw [size_of_parse h] at hi
  obtain ⟨before, lower, after, hlines, hlower, hlowerTag⟩ := exists_split_of_lt_countP hi
  rw [← hlower] at hp
  obtain ⟨above, upper, between, rfl, hupper, hupperTag⟩ := exists_split_of_lt_countP hp
  have hall : lines text.toList = above ++ upper :: (between ++ lower :: after) := by
    rw [hlines, List.append_assoc, List.cons_append]
  exact ⟨⟨above, upper, between, lower, after, hall, hupperTag, hlowerTag⟩, hlower, hupper⟩

/-- The parent of a node stands at the nearest heading above with a tag and a smaller depth. This is the nearest
entry above with a smaller depth, unless an entry without a tag is nearer or the parent is no entry. -/
theorem parents_nearest :
    (∀ i p, t.parent? i = some p →
      ∃ s : HeadingPair (lines text.toList), s.lowerPlace = i ∧ s.upperPlace = p ∧ s.Nearest isTagged) ∧
    ∀ s : HeadingPair (lines text.toList),
      (t.parent? s.lowerPlace = some s.upperPlace ↔ s.Nearest isTagged) ∧
      (s.lowerPlace ∈ t.children s.upperPlace ↔ s.Nearest isTagged) ∧
      (s.Nearest isTagged → (s.Nearest isEntry ↔ isEntry s.upper = true ∧
        ∀ l ∈ s.between, isTagged l = false → isEntry l = true → levelOf s.lower ≤ levelOf l)) := by
  constructor
  · intro i p hp
    have hlt : p < i := (parentsNearest_of_parse h).parent_lt hp
    obtain ⟨s, rfl, rfl⟩ := exists_pair_of_lt h hlt (Tree.lt_size_of_parent hp)
    exact ⟨s, rfl, rfl, (parent_iff_nearest h s).mp hp⟩
  · intro s
    refine ⟨parent_iff_nearest h s, ?_, s.nearest_isEntry_iff⟩
    exact (linked_of_parse h).mem_children.trans (parent_iff_nearest h s)

end Parents

def vendorLines : List (List Char) := [
  " <0><10>: Abbrev Number: 1 (DW_TAG_subprogram)".toList,
  " <0><20>: Abbrev Number: 9 (User TAG value: 0x4fff)".toList,
  " <1><30>: Abbrev Number: 3 (DW_TAG_formal_parameter)".toList]

/-- A parameter below an entry whose tag has no name, which a function without parameters precedes. -/
def vendorText : String := String.ofList (['\n'].intercalate vendorLines)

def vendorTree : Tree := .ofEntries [⟨"subprogram", 0x10, 0, []⟩, ⟨"formal_parameter", 0x30, 1, []⟩]

theorem parse_vendorText : Tree.parse vendorText = .ok vendorTree := by
  rw [Tree.parse, vendorText, String.toList_ofList, vendorLines]
  repeat rw [String.toList_ofList]
  decide +kernel

def vendorPair : HeadingPair (lines vendorText.toList) where
  above := []
  upper := " <0><10>: Abbrev Number: 1 (DW_TAG_subprogram)".toList
  between := [" <0><20>: Abbrev Number: 9 (User TAG value: 0x4fff)".toList]
  lower := " <1><30>: Abbrev Number: 3 (DW_TAG_formal_parameter)".toList
  after := []
  lines := by
    rw [vendorText, String.toList_ofList]
    decide +kernel
  upper_tagged := by decide +kernel
  lower_tagged := by decide +kernel

theorem parents_nearest_vendor : Tree.parse vendorText = .ok vendorTree ∧
    vendorTree.parent? vendorPair.lowerPlace = some vendorPair.upperPlace ∧ vendorPair.Nearest isTagged := by
  have hparent : vendorTree.parent? vendorPair.lowerPlace = some vendorPair.upperPlace := by decide +kernel
  obtain ⟨hnearest, -, -⟩ := (parents_nearest parse_vendorText).2 vendorPair
  exact ⟨parse_vendorText, hparent, hnearest.mp hparent⟩

/-- The parameter is added to the function before the entry that it belongs to. -/
theorem vendor_entry_passed_over :
    ¬ ∀ (text : String) (t : Tree), Tree.parse text = .ok t → ∀ s : HeadingPair (lines text.toList),
      t.parent? s.lowerPlace = some s.upperPlace → s.Nearest isEntry := by
  intro h
  have hparent : vendorTree.parent? vendorPair.lowerPlace = some vendorPair.upperPlace := by decide +kernel
  have hbetween := (h vendorText vendorTree parse_vendorText vendorPair hparent).between
    _ (List.mem_singleton_self _) (by decide +kernel)
  revert hbetween
  decide +kernel

end ScriptBinding.Dump
