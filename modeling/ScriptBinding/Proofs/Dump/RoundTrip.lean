import ScriptBinding.Proofs.Dump.Printing

/-!
Reading undoes printing. The entries of a printed forest come back in preorder, the nodes around each of them
are those that it lies below, and the lists of children unfold into the forest again.
-/

namespace ScriptBinding.Dump

open Text

def Record.shownAttributes (r : Record) : List Shown :=
  r.attributes.map fun a => .pair a.address a.key a.value

namespace Forest

/-- The heading without a tag that ends a list of children, if there are any. -/
def shownEnd (depth address : Nat) : Forest Record → List Shown
  | nil => []
  | cons _ _ _ => [.heading depth address 0 none]

def shown (depth : Nat) : Forest Record → List Shown
  | nil => []
  | cons r below rest =>
    .heading depth r.offset r.abbreviation (some r.tag) :: (r.shownAttributes ++
      (below.shown (depth + 1) ++ (below.shownEnd (depth + 1) r.terminator ++ rest.shown depth)))

def level (depth : Nat) : Forest Record → Forest Entry
  | nil => nil
  | cons r below rest => cons (r.entry depth) (below.level (depth + 1)) (rest.level depth)

def nodes (depth start : Nat) (ancestors : List Nat) : Forest Record → List Node
  | nil => []
  | cons r below rest =>
    { r.entry depth with ancestors := ancestors } ::
      (below.nodes (depth + 1) (start + 1) (start :: ancestors) ++
        rest.nodes depth (start + 1 + below.size) ancestors)

def tree (f : Forest Record) : Tree := .ofNodes (f.nodes 0 0 []).toArray

theorem printable_of_mem_shownEnd {f : Forest Record} {depth address : Nat} :
    ∀ s ∈ f.shownEnd depth address, s.Printable := by
  cases f <;> simp [shownEnd, Shown.Printable]

theorem printable_of_mem_shown {f : Forest Record} (h : ∀ r ∈ f.preorder, r.Printable) (depth : Nat) :
    ∀ s ∈ f.shown depth, s.Printable := by
  induction f generalizing depth with
  | nil => simp [shown]
  | cons r below rest ihb ihr =>
    simp only [preorder, List.mem_cons, List.mem_append] at h
    have hr := h r (.inl rfl)
    simp only [shown, List.mem_cons, List.mem_append]
    rintro s (rfl | hs | hs | hs | hs)
    · rintro _ ⟨rfl⟩
      exact hr.tag
    · obtain ⟨a, ha, rfl⟩ := List.mem_map.mp hs
      exact ⟨hr.key a ha, hr.value a ha⟩
    · exact ihb (fun r hr => h r (.inr (.inl hr))) _ s hs
    · exact printable_of_mem_shownEnd s hs
    · exact ihr (fun r hr => h r (.inr (.inr hr))) _ s hs

theorem depth_lt_iff (f : Forest Record) (depth : Nat) {bound : Nat} (hb : depth ≤ bound) :
    (∀ s ∈ f.shown depth, s.depth < bound) ↔ depth + f.height ≤ bound := by
  induction f generalizing depth with
  | nil => simpa [shown, height] using hb
  | cons r below rest ihb ihr =>
    simp only [shown, height, List.forall_mem_cons, List.forall_mem_append, ihr depth hb]
    have hattributes (hlt : depth < bound) : ∀ s ∈ r.shownAttributes, s.depth < bound := by
      intro s hs
      obtain ⟨a, -, rfl⟩ := List.mem_map.mp hs
      exact Nat.zero_lt_of_lt hlt
    -- A terminator is shown only behind nodes, and then at their depth.
    have hend (hbelow : depth + 1 + below.height ≤ bound) :
        ∀ s ∈ below.shownEnd (depth + 1) r.terminator, s.depth < bound := by
      cases below with
      | nil => simp [shownEnd]
      | cons _ _ _ =>
        simp only [shownEnd, List.mem_singleton, forall_eq, Shown.depth]
        simp only [height] at hbelow
        omega
    constructor
    · rintro ⟨hlt, -, hbelow, -, hrest⟩
      have hlt : depth < bound := hlt
      have := (ihb (depth + 1) (Nat.succ_le_of_lt hlt)).mp hbelow
      omega
    · intro h
      have hlt : depth < bound := by omega
      have hbelow : depth + 1 + below.height ≤ bound := by omega
      exact ⟨hlt, hattributes hlt, (ihb (depth + 1) hlt).mpr hbelow, hend hbelow, by omega⟩

theorem gather_shownAttributes (r : Record) (entries : List Entry) :
    (r.shownAttributes.map Shown.line).foldr gather ⟨[], entries⟩ = ⟨r.pairs, entries⟩ := by
  rw [Record.shownAttributes, Record.pairs]
  induction r.attributes with
  | nil => rfl
  | cons a as ih =>
    rw [List.map_cons, List.map_cons, List.foldr_cons, ih]
    rfl

theorem gather_shown (f : Forest Record) (h : ∀ r ∈ f.preorder, r.Printable) (depth : Nat)
    (entries : List Entry) :
    ((f.shown depth).map Shown.line).foldr gather ⟨[], entries⟩ =
      ⟨[], (f.level depth).preorder ++ entries⟩ := by
  induction f generalizing depth entries with
  | nil => rfl
  | cons r below rest ihb ihr =>
    simp only [preorder, List.mem_cons, List.mem_append] at h
    have hend (entries : List Entry) : ((below.shownEnd (depth + 1) r.terminator).map
        Shown.line).foldr gather ⟨[], entries⟩ = ⟨[], entries⟩ := by
      cases below <;> rfl
    simp only [shown, List.map_cons, List.map_append, List.foldr_cons, List.foldr_append]
    rw [ihr (fun r hr => h r (.inr (.inr hr))), hend, ihb (fun r hr => h r (.inr (.inl hr))),
      gather_shownAttributes]
    simp only [Shown.line, gather, Keyed.ofPairs_of_nodup (h r (.inl rfl)).nodup_keys, level, preorder,
      Record.entry, List.cons_append, List.append_assoc]

theorem length_nodes (f : Forest Record) (depth start : Nat) (ancestors : List Nat) :
    (f.nodes depth start ancestors).length = f.size := by
  induction f generalizing depth start ancestors with
  | nil => rfl
  | cons r below rest ihb ihr =>
    simp only [nodes, size, List.length_cons, List.length_append, ihb, ihr]
    omega

theorem le_depth_of_mem_level {f : Forest Record} {depth : Nat} :
    ∀ e ∈ (f.level depth).preorder, depth ≤ e.depth := by
  induction f generalizing depth with
  | nil => simp [level, preorder]
  | cons r below rest ihb ihr =>
    simp only [level, preorder, List.mem_cons, List.mem_append]
    rintro e (rfl | he | he)
    · exact Nat.le_refl _
    · exact Nat.le_of_succ_le (ihb e he)
    · exact ihr e he

end Forest

/-- Entries of at least some depth leave the nodes around this depth open. -/
theorem Linking.around_foldl {l : Linking} (hl : l.Sound) {entries : List Entry} {depth : Nat}
    (h : ∀ e ∈ entries, depth ≤ e.depth) : (entries.foldl Linking.next l).around depth = l.around depth := by
  induction entries generalizing l with
  | nil => rfl
  | cons e entries ih =>
    rw [List.foldl_cons, ih (hl.next e) fun e he => h e (by simp [he]),
      around_next_of_le hl.opened_lt (h e (by simp))]

theorem Forest.foldl_next (f : Forest Record) (depth : Nat) {l : Linking} (hl : l.Sound) :
    ((f.level depth).preorder.foldl Linking.next l).nodes =
      l.nodes ++ (f.nodes depth l.nodes.size (l.around depth)).toArray := by
  induction f generalizing depth l with
  | nil => simp [level, preorder, nodes]
  | cons r below rest ihb ihr =>
    have hfirst : (l.next (r.entry depth)).nodes.size = l.nodes.size + 1 := by
      rw [Linking.nodes_next, Array.size_push]
    have hinner : (l.next (r.entry depth)).around (depth + 1) = l.nodes.size :: l.around depth :=
      l.around_next_of_lt (Nat.lt_succ_self depth)
    have houter : (l.next (r.entry depth)).around depth = l.around depth :=
      Linking.around_next_of_le hl.opened_lt (Nat.le_refl depth)
    have hbelow := ihb (depth + 1) (hl.next (r.entry depth))
    rw [hfirst, hinner] at hbelow
    have hsize (ns : Array Node) (depth start : Nat) (ancestors : List Nat) :
        (ns ++ (below.nodes depth start ancestors).toArray).size = ns.size + below.size := by
      simp [length_nodes]
    have hsound := (hl.next (r.entry depth)).foldl (below.level (depth + 1)).preorder
    have hrest := ihr depth hsound
    rw [Linking.around_foldl (hl.next _) fun e he => Nat.le_of_succ_le (le_depth_of_mem_level e he),
      houter, hbelow, hsize, hfirst] at hrest
    simp only [level, preorder, List.foldl_cons, List.foldl_append]
    rw [hrest, Linking.nodes_next]
    simp [nodes, Record.entry]

theorem Forest.ofEntries_level (f : Forest Record) : Tree.ofEntries (f.level 0).preorder = f.tree := by
  have hnodes : (Tree.ofEntries (f.level 0).preorder).nodes = (f.nodes 0 0 []).toArray := by
    rw [Tree.ofEntries, f.foldl_next 0 Linking.sound_empty]
    simp [Linking.around]
  rw [(Tree.linked_ofEntries _).eq_ofNodes, hnodes, tree]

theorem Forest.nested_of_nodes (f : Forest Record) {t : Tree} (depth : Nat) (ancestors : List Nat)
    (before after : List Node)
    (ht : t.nodes.toList = before ++ (f.nodes depth before.length ancestors ++ after)) :
    t.Nested ancestors.head? before.length f ∧
      (f.places before.length).map (fun i => t.nodes[i]?.map Node.toEntry) = (f.level depth).map some := by
  induction f generalizing before after depth ancestors with
  | nil => exact ⟨trivial, rfl⟩
  | cons r below rest ihb ihr =>
    let first : Node := { r.entry depth with ancestors := ancestors }
    let inner := below.nodes (depth + 1) (before.length + 1) (before.length :: ancestors)
    have hfirst : t.nodes[before.length]? = some first := by
      rw [← Array.getElem?_toList, ht, nodes]
      simp [first]
    have hbelow := ihb (depth + 1) (before.length :: ancestors) (before ++ [first])
      (rest.nodes depth (before.length + 1 + below.size) ancestors ++ after)
      (by simp [ht, nodes, first])
    have hrest := ihr depth ancestors (before ++ first :: inner) after
      (by simp [ht, nodes, first, inner, length_nodes, Nat.add_assoc, Nat.add_comm 1])
    rw [List.length_append, List.length_singleton] at hbelow
    rw [List.length_append, List.length_cons, length_nodes, Nat.add_comm below.size,
      ← Nat.add_assoc] at hrest
    refine ⟨⟨?_, hbelow.1, hrest.1⟩, ?_⟩
    · rw [Tree.parent?, hfirst]
      rfl
    · rw [places, map, hfirst, hbelow.2, hrest.2]
      rfl

/-- The tree has the nodes of the forest in document order, each in the place it has there. -/
structure Tree.Shows (t : Tree) (f : Forest Record) : Prop where
  size_eq : t.size = f.size
  unfolds : t.Unfolds t.roots (f.places 0)
  entries : (f.places 0).map (fun i => t.nodes[i]?.map Node.toEntry) = (f.level 0).map some

theorem Forest.shows_tree (f : Forest Record) : f.tree.Shows f := by
  have hlinked : f.tree.Linked := f.ofEntries_level ▸ Tree.linked_ofEntries _
  have hsize : f.size = f.tree.size := by simp [Tree.size, tree, Tree.ofNodes, length_nodes]
  obtain ⟨hnested, hentries⟩ := f.nested_of_nodes (t := f.tree) 0 [] [] [] (by simp [tree, Tree.ofNodes])
  exact ⟨hsize.symm, hnested.unfolds_roots hlinked hsize, hentries⟩

/-- A printed forest is read as itself; its depths are numerals of too many digits only if it has more
levels than any numeral of `maxDigits` digits counts. -/
theorem parse_shown {f : Forest Record} (hf : ∀ r ∈ f.preorder, r.Printable) {ls : List (List Char)}
    (hls : Interspersed IsOther ((f.shown 0).map Shown.text) ls) :
    (f.height ≤ decimalBound ∧ Tree.parse (String.ofList (['\n'].intercalate ls)) = .ok f.tree ∧
        f.tree.Shows f) ∨
      (decimalBound < f.height ∧ ∃ digits, maxDigits < digits ∧
        Tree.parse (String.ofList (['\n'].intercalate ls)) = .error (.longNumeral digits)) := by
  have hshown := Forest.printable_of_mem_shown hf 0
  have hdepth := f.depth_lt_iff 0 (Nat.zero_le decimalBound)
  rw [Nat.zero_add] at hdepth
  have hunbroken : ∀ l ∈ ls, Unbroken l := by
    intro l hl
    rcases hls.mem hl with hl | hl
    · obtain ⟨s, hs, rfl⟩ := List.mem_map.mp hl
      exact Shown.unbroken_text (hshown s hs)
    · exact hl.2.2
  rw [parse_intercalate hunbroken]
  by_cases hheight : f.height ≤ decimalBound
  · obtain ⟨read, hread, hgather⟩ := mapM_read_interspersed hls hshown (hdepth.mpr hheight)
    refine .inl ⟨hheight, ?_, f.shows_tree⟩
    have hentries : entriesOf read = (f.level 0).preorder := by
      rw [entriesOf, hgather, f.gather_shown hf 0 []]
      exact List.append_nil _
    rw [hread, Except.map, Tree.ofLines, hentries, f.ofEntries_level]
  · rcases mapM_read_cases ls with ⟨hfit, -⟩ | ⟨-, digits, hlong, herror⟩
    · apply absurd (hdepth.mp ?_) hheight
      intro s hs
      exact Shown.depth_lt_of_depthsFit (hshown s hs) hfit (hls.subset (List.mem_map_of_mem hs))
    · exact .inr ⟨Nat.lt_of_not_le hheight, digits, hlong, by rw [herror]; rfl⟩

def lookalikes : Forest Record :=
  .cons ⟨"class_type", 0x2d, 2, [⟨0x2e, "name", "(indirect string, offset: 0x5e): Led"⟩], 0x60⟩
    (.cons ⟨"member", 0x40, 3, [⟨0x41, "name", " <1><2d>: Abbrev Number: 2 (DW_TAG_x)"⟩,
      ⟨0x42, "type", "<0x61>   DW_AT_type : <0x2d>"⟩], 0⟩ .nil .nil)
    (.cons ⟨"base_type", 0x61, 4, [], 0⟩ .nil .nil)

def lookalikeLines : List (List Char) :=
  ["Contents of the .debug_info section:".toList,
    " <0><2d>: Abbrev Number: 2 (DW_TAG_class_type)".toList,
    "    <2e>   DW_AT_name : (indirect string, offset: 0x5e): Led".toList,
    " <1><40>: Abbrev Number: 3 (DW_TAG_member)".toList,
    "    <41>   DW_AT_name :  <1><2d>: Abbrev Number: 2 (DW_TAG_x)".toList,
    "".toList,
    "    <42>   DW_AT_type : <0x61>   DW_AT_type : <0x2d>".toList,
    " <1><60>: Abbrev Number: 0".toList,
    " <0><61>: Abbrev Number: 4 (DW_TAG_base_type)".toList]

theorem parse_shown_lookalikes :
    Tree.parse (String.ofList (['\n'].intercalate lookalikeLines)) = .ok lookalikes.tree ∧
      lookalikes.tree.Shows lookalikes := by
  have hother : IsOther "Contents of the .debug_info section:".toList ∧ IsOther "".toList := by
    decide +kernel
  have hlines : (lookalikes.shown 0).map Shown.text = lookalikeLines.tail.eraseIdx 4 := by
    rw [lookalikeLines]
    repeat rw [String.toList_ofList]
    decide +kernel
  have hls : Interspersed IsOther ((lookalikes.shown 0).map Shown.text) lookalikeLines := by
    rw [hlines]
    exact .insert hother.1 (.keep (.keep (.keep (.keep (.insert hother.2 (.keep (.keep (.keep .nil))))))))
  rcases parse_shown (f := lookalikes) (by decide +kernel) hls with ⟨-, h⟩ | ⟨h, -⟩
  · exact h
  · have hheight : lookalikes.height < maxDigits := by decide
    exact absurd (hheight.trans maxDigits_lt_decimalBound) (Nat.lt_asymm h)

end ScriptBinding.Dump
