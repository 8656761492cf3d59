/-
  Reading the sections back out of a prompt.

  Between the sections of a prompt there are blank lines, so to get them back one cuts the text at
  its blank lines.  A value may have a blank line of its own, and then there is a piece more than
  there are sections; the point is that nothing else can go wrong.  A cut is never moved by what
  stands around it, because every body is SOLID: it begins and ends with a value or with a fixed
  character, and values have been trimmed (`solid_valuesUnder`, `solid_linesUnder`).  And no blank
  line is made by putting values next to each other (`exists_hasBlankLine_linesUnder_iff`): between
  two lines of a body there is one line break, and there are solid texts on both sides of it.

  If the pieces are as many as the sections they are the blocks, in their order; and a block tells
  which section it is, since its first line is the line of one heading (`Layout.section?_block`).
  The same holds one level further down for lists with one line an item, where it is a line break
  in an item that makes the count go wrong.
-/
import Mathlib.Data.List.Basic
import ScenePrompt.Proofs.Prompt.Scaffold
import ScenePrompt.Proofs.Text.BlankLine

namespace ScenePrompt

open Text (Solid Sound HasBlankLine)

/-! ## Pieces of a text -/

/-- The pieces between the double line breaks of a text. -/
def blocksOf (text : String) : List String := (Text.cutBlocks text.toList).map String.ofList

/-- The pieces between the line breaks of a text. -/
def linesOf (text : String) : List String := (text.toList.splitOn '\n').map String.ofList

/-- The section that a block makes, told by its first line. -/
def Layout.section? (l : Layout) (block : String) : Option Section :=
  (Heading.all.find? fun h => (l.headingLine h).toList == block.toList.takeWhile (· ≠ '\n')).map
    fun h => { heading := h, body := String.ofList ((block.toList.dropWhile (· ≠ '\n')).drop 1) }

/-- The sections that the blocks of a text make. -/
def Layout.sectionsOf (l : Layout) (text : String) : List Section :=
  (blocksOf text).filterMap l.section?

/-! ## Values are solid -/

/-- The texts that are written are those that are not empty. -/
theorem mem_written {v : String} {texts : List String} :
    v ∈ written texts ↔ v ∈ texts ∧ v ≠ "" := by
  simp [written]

/-- Characters are compared one by one, without taking the text apart first. -/
theorem not_mem_toList_ofList {c : Char} {cs : List Char} (h : c ∉ cs) :
    c ∉ (String.ofList cs).toList := by
  rwa [String.toList_ofList]

/-- No phrase for a framing has a line break. -/
theorem not_mem_framingPhrases : ∀ e ∈ framingPhrases, '\n' ∉ e.2.toList := by
  simp only [framingPhrases, List.forall_mem_cons, String.toList_append, List.mem_append, not_or]
  refine ⟨⟨?_, ?_⟩, ⟨?_, ?_⟩, ⟨?_, ?_⟩, fun _ h => nomatch h⟩ <;>
    exact not_mem_toList_ofList (by decide)

theorem not_mem_lensPhrases : ∀ e ∈ lensPhrases, '\n' ∉ e.2.toList := by
  simp only [lensPhrases, List.forall_mem_cons]
  refine ⟨?_, ?_, fun _ h => nomatch h⟩ <;> exact not_mem_toList_ofList (by decide)

/-- What is looked up in a table of texts without line breaks has none. -/
theorem not_mem_lookup {table : List (String × String)} (h : ∀ e ∈ table, '\n' ∉ e.2.toList)
    (key : String) : '\n' ∉ ((table.lookup key).getD "").toList := by
  cases hkey : table.lookup key with
  | none => decide
  | some phrase =>
    obtain ⟨before, after, rfl, -⟩ := List.lookup_eq_some_iff.1 hkey
    exact h (key, phrase) (by simp)

/-- Every value is a phrase, or has been trimmed, and is not empty. -/
theorem Scene.solid_valuesUnder {s : Scene} (hs : s.NormalForm) (h : Heading) :
    ∀ v ∈ s.valuesUnder h, Solid v.toList := by
  have hwritten : ∀ texts : List String, (∀ t ∈ texts, Sound t.toList) →
      ∀ v ∈ written texts, Solid v.toList := by
    intro texts hsound v hv
    obtain ⟨hmem, hne⟩ := mem_written.1 hv
    -- sound is empty or solid, and the empty texts are not written
    rcases hsound v hmem with hnil | hsolid
    · exact absurd (String.toList_inj.1 hnil) hne
    · exact hsolid
  cases h with
  | sceneHeart => exact hwritten _ (by simpa using Text.sound_of_trim_eq hs.sceneHeart_trimmed)
  | mechanicLock => exact hwritten _ (by simpa using Text.sound_of_trim_eq hs.mechanicLock_trimmed)
  | focusTarget => exact hwritten _ (by simpa using Text.sound_of_trim_eq hs.focusTarget_trimmed)
  | optics =>
    have hframing := Text.sound_of_not_mem (not_mem_lookup not_mem_framingPhrases s.framing)
    have hlens := Text.sound_of_not_mem (not_mem_lookup not_mem_lensPhrases s.lens)
    exact hwritten [s.framingPhrase, s.lensPhrase]
      (List.forall_mem_cons.2 ⟨hframing, List.forall_mem_singleton.2 hlens⟩)
  | cast =>
    intro v hv
    obtain ⟨m, hm, hv⟩ := List.mem_flatMap.1 hv
    have hmember := hs.cast_normalForm m hm
    have hname := Text.sound_of_trim_eq hmember.name_trimmed
    have hdescription := Text.sound_of_trim_eq hmember.description_trimmed
    have hwardrobe := Text.sound_of_trim_eq hmember.wardrobe_trimmed
    exact hwritten m.texts (by simp [CastMember.texts, hname, hdescription, hwardrobe]) v hv
  | environmentAnchors =>
    intro v hv
    have htrimmed := hs.anchors_trimmed v (List.mem_filter.1 hv).1
    exact Text.solid_of_trim_eq htrimmed (s.filledAnchors_ne_empty v hv)
  | microDetails =>
    intro v hv
    exact Text.solid_of_trim_eq (hs.details_trimmed v hv) (hs.details_ne_empty v hv)

/-! ## Lines are solid -/

theorem toList_bullet (item : String) : (bullet item).toList = ['-', ' '] ++ item.toList := by
  simp [bullet]

/-- The line of a solid item is solid: it begins with the bullet and ends as the item does. -/
theorem solid_bullet {item : String} (h : Solid item.toList) : Solid (bullet item).toList := by
  rw [toList_bullet]
  exact (Text.solid_of_not_mem (by decide) (by decide)).append (Or.inr h)

/-- The bullet makes no blank line and takes none away. -/
theorem hasBlankLine_bullet (item : String) :
    HasBlankLine (bullet item).toList ↔ HasBlankLine item.toList := by
  rw [toList_bullet]
  exact Text.hasBlankLine_append_of_not_mem (by decide)

/-- A part of a line, with text around its value, that is missing if its value is empty. -/
def linePart (before v after : String) : String := if v = "" then "" else before ++ v ++ after

section linePart

variable {before v after : String}

/-- A part of a line is sound if its value is.  It is empty along with its value, and else it begins
    and ends with text that has no line break, or with the value itself. -/
theorem sound_linePart (hbefore : '\n' ∉ before.toList) (hafter : '\n' ∉ after.toList)
    (hv : Sound v.toList) : Sound (linePart before v after).toList := by
  unfold linePart
  by_cases hempty : v = ""
  · rw [if_pos hempty]
    exact Or.inl rfl
  · rw [if_neg hempty, String.toList_append, String.toList_append]
    exact ((Text.sound_of_not_mem hbefore).append hv).append (Text.sound_of_not_mem hafter)

/-- A part of a line has a blank line exactly if its value has one. -/
theorem hasBlankLine_linePart (hbefore : '\n' ∉ before.toList) (hafter : '\n' ∉ after.toList) :
    HasBlankLine (linePart before v after).toList ↔ HasBlankLine v.toList := by
  unfold linePart
  by_cases hempty : v = ""
  · rw [if_pos hempty, hempty]
  · rw [if_neg hempty, String.toList_append, String.toList_append,
      Text.hasBlankLine_append_of_not_mem_right hafter,
      Text.hasBlankLine_append_of_not_mem hbefore]

end linePart

/-- The line of a cast member, its parts told apart. -/
theorem toList_castLine (number : Nat) (m : CastMember) :
    (castLine number m).toList = (memberMark number).toList ++ (m.name.toList ++
      ((linePart ", " m.description "").toList ++
        (linePart " [wardrobe: " m.wardrobe "]").toList)) := by
  rw [castLine_eq]
  simp [linePart]

/-- The line of a cast member is solid, since it begins with the mark and every part behind that is
    sound. -/
theorem CastMember.solid_castLine {m : CastMember} (h : m.NormalForm) (number : Nat) :
    Solid (castLine number m).toList := by
  have hmark : Solid (memberMark number).toList :=
    Text.solid_of_not_mem (by simp [memberMark]) (not_mem_memberMark (by decide) (by decide) number)
  have hname : Solid m.name.toList := Text.solid_of_trim_eq h.name_trimmed h.name_ne_empty
  have hdescription : Sound (linePart ", " m.description "").toList :=
    sound_linePart (by decide) (by decide) (Text.sound_of_trim_eq h.description_trimmed)
  have hwardrobe : Sound (linePart " [wardrobe: " m.wardrobe "]").toList :=
    sound_linePart (by decide) (by decide) (Text.sound_of_trim_eq h.wardrobe_trimmed)
  rw [toList_castLine]
  exact hmark.append (Or.inr (hname.append (hdescription.append hwardrobe)))

/-- The line of a cast member has a blank line exactly if one of its texts has one.  No blank line
    arises between two parts, because what stands before is solid and does not end in a line
    break. -/
theorem CastMember.hasBlankLine_castLine {m : CastMember} (h : m.NormalForm) (number : Nat) :
    HasBlankLine (castLine number m).toList ↔ ∃ v ∈ written m.texts, HasBlankLine v.toList := by
  have hname : Solid m.name.toList := Text.solid_of_trim_eq h.name_trimmed h.name_ne_empty
  have hdescription : Sound (linePart ", " m.description "").toList :=
    sound_linePart (by decide) (by decide) (Text.sound_of_trim_eq h.description_trimmed)
  have hempty : ¬ HasBlankLine "".toList := by decide
  have hvalues : (∃ v ∈ written m.texts, HasBlankLine v.toList) ↔
      HasBlankLine m.name.toList ∨ HasBlankLine m.description.toList ∨
        HasBlankLine m.wardrobe.toList := by
    -- an empty text has no blank line, so it does not matter that it is not written
    have hany : (∃ v ∈ written m.texts, HasBlankLine v.toList) ↔
        ∃ v ∈ m.texts, HasBlankLine v.toList := by
      constructor
      · rintro ⟨v, hv, hblank⟩
        exact ⟨v, (mem_written.1 hv).1, hblank⟩
      · rintro ⟨v, hv, hblank⟩
        have hne : v ≠ "" := fun hv => hempty (hv ▸ hblank)
        exact ⟨v, mem_written.2 ⟨hv, hne⟩, hblank⟩
    rw [hany]
    simp [CastMember.texts]
  rw [toList_castLine, hvalues,
    Text.hasBlankLine_append_of_not_mem (not_mem_memberMark (by decide) (by decide) number),
    Text.hasBlankLine_append (Or.inl hname.last_ne),
    Text.hasBlankLine_append (Or.inl hdescription.last_ne),
    hasBlankLine_linePart (by decide) (by decide), hasBlankLine_linePart (by decide) (by decide)]

namespace Scene

/-- Every line under a heading is solid. -/
theorem solid_linesUnder {s : Scene} (hs : s.NormalForm) (h : Heading) :
    ∀ line ∈ s.linesUnder h, Solid line.toList := by
  have hvalues := solid_valuesUnder hs h
  have hbullets : ∀ items : List String, (∀ item ∈ items, Solid item.toList) →
      ∀ line ∈ items.map bullet, Solid line.toList := by
    intro items hitems line hline
    obtain ⟨item, hitem, rfl⟩ := List.mem_map.1 hline
    exact solid_bullet (hitems item hitem)
  -- by induction on the cast, the numbers going up along the way
  have hcast : ∀ (ms : List CastMember) (number : Nat), (∀ m ∈ ms, m.NormalForm) →
      ∀ line ∈ castLines number ms, Solid line.toList := by
    intro ms
    induction ms with
    | nil => simp [castLines]
    | cons m ms ih =>
      intro number hms line hline
      rcases List.mem_cons.1 hline with rfl | hline
      · exact CastMember.solid_castLine (hms m (List.mem_cons_self ..)) number
      · exact ih (number + 1) (fun m' hm' => hms m' (List.mem_cons_of_mem m hm')) line hline
  cases h with
  | sceneHeart | mechanicLock | focusTarget => exact hvalues
  | optics =>
    show ∀ line ∈ s.opticsPhrases, _
    rw [s.opticsPhrases_eq_written]
    exact hvalues
  | cast => exact hcast s.cast 1 hs.cast_normalForm
  | environmentAnchors => exact hbullets _ hvalues
  | microDetails => exact hbullets _ hvalues

/-- A line has a blank line exactly where a value in it has one. -/
theorem exists_hasBlankLine_linesUnder_iff {s : Scene} (hs : s.NormalForm) (h : Heading) :
    (∃ line ∈ s.linesUnder h, HasBlankLine line.toList) ↔
      ∃ v ∈ s.valuesUnder h, HasBlankLine v.toList := by
  have hbullets : ∀ items : List String,
      (∃ line ∈ items.map bullet, HasBlankLine line.toList) ↔
        ∃ item ∈ items, HasBlankLine item.toList := by
    intro items
    simp only [List.mem_map, exists_exists_and_eq_and, hasBlankLine_bullet]
  have hcast : ∀ (ms : List CastMember) (number : Nat), (∀ m ∈ ms, m.NormalForm) →
      ((∃ line ∈ castLines number ms, HasBlankLine line.toList) ↔
        ∃ v ∈ ms.flatMap fun m => written m.texts, HasBlankLine v.toList) := by
    intro ms
    induction ms with
    | nil => simp [castLines]
    | cons m ms ih =>
      intro number hms
      have hfirst := CastMember.hasBlankLine_castLine (hms m (List.mem_cons_self ..)) number
      have hrest := ih (number + 1) fun m' hm' => hms m' (List.mem_cons_of_mem m hm')
      simp only [castLines, List.flatMap_cons, List.mem_cons, List.mem_append, or_and_right,
        exists_or, exists_eq_left]
      rw [hfirst, hrest]
  cases h with
  | sceneHeart | mechanicLock | focusTarget => exact Iff.rfl
  | optics =>
    show (∃ line ∈ s.opticsPhrases, _) ↔ _
    rw [s.opticsPhrases_eq_written]
    exact Iff.rfl
  | cast => exact hcast s.cast 1 hs.cast_normalForm
  | environmentAnchors => exact hbullets _
  | microDetails => exact hbullets _

/-! ## Bodies and blocks -/

/-- A section of a scene is a heading with lines under it, and its body is these lines one under
    another. -/
theorem mem_sections_iff {s : Scene} {x : Section} :
    x ∈ s.sections ↔ s.linesUnder x.heading ≠ [] ∧ x.body = lines (s.linesUnder x.heading) := by
  obtain ⟨h, body⟩ := x
  rw [s.sections_eq_flatMap, List.mem_flatMap]
  unfold listSection
  constructor
  · rintro ⟨h', -, hmem⟩
    split at hmem
    · cases hmem
    · next hne =>
      -- a heading makes one section at most
      obtain ⟨rfl, rfl⟩ := Section.mk.inj (List.mem_singleton.1 hmem)
      exact ⟨hne, rfl⟩
  · rintro ⟨hne, hbody⟩
    obtain rfl : body = lines (s.linesUnder h) := hbody
    have hall : h ∈ Heading.all := by cases h <;> decide
    exact ⟨h, hall, by rw [if_neg hne]; exact List.mem_singleton.2 rfl⟩

/-- A heading has a section exactly if there are lines to put under it. -/
theorem exists_section_iff {s : Scene} {heading : Heading} :
    (∃ body, { heading, body } ∈ s.sections) ↔ s.linesUnder heading ≠ [] := by
  constructor
  · rintro ⟨body, hbody⟩
    exact (mem_sections_iff.1 hbody).1
  · intro hne
    exact ⟨lines (s.linesUnder heading), mem_sections_iff.2 ⟨hne, rfl⟩⟩

theorem toList_lines (ls : List String) :
    (lines ls).toList = List.intercalate ['\n'] (ls.map String.toList) := by
  simp [lines, String.toList_intercalate]

/-- The body of a section is solid, and has the blank lines of its values. -/
theorem body_of_mem_sections {s : Scene} (hs : s.NormalForm) {x : Section} (hx : x ∈ s.sections) :
    Solid x.body.toList ∧
      (HasBlankLine x.body.toList ↔ ∃ v ∈ s.valuesUnder x.heading, HasBlankLine v.toList) := by
  obtain ⟨hne, hbody⟩ := mem_sections_iff.1 hx
  have hsolid : ∀ cs ∈ (s.linesUnder x.heading).map String.toList, Solid cs := by
    intro cs hcs
    obtain ⟨line, hline, rfl⟩ := List.mem_map.1 hcs
    exact solid_linesUnder hs x.heading line hline
  rw [hbody, toList_lines]
  constructor
  · exact Text.solid_joinLines (mt List.map_eq_nil_iff.1 hne) hsolid
  · rw [Text.hasBlankLine_joinLines hsolid, ← exists_hasBlankLine_linesUnder_iff hs x.heading]
    simp only [List.mem_map, exists_exists_and_eq_and]

/-- All sections are free of blank lines exactly if all values are. -/
theorem forall_mem_sections_iff {s : Scene} (hs : s.NormalForm) :
    (∀ x ∈ s.sections, ¬ HasBlankLine x.body.toList) ↔
      ∀ v ∈ s.values, ¬ HasBlankLine v.toList := by
  rw [values_eq_flatMap hs]
  constructor
  · intro hbodies v hv hblank
    obtain ⟨h, -, hv⟩ := List.mem_flatMap.1 hv
    -- a value stands in some line, so there is a section for it to stand in
    obtain ⟨line, hline, -⟩ := (exists_hasBlankLine_linesUnder_iff hs h).2 ⟨v, hv, hblank⟩
    obtain ⟨body, hx⟩ := exists_section_iff.2 (List.ne_nil_of_mem hline)
    exact hbodies _ hx ((body_of_mem_sections hs hx).2.2 ⟨v, hv, hblank⟩)
  · intro hvalues x hx hblank
    obtain ⟨v, hv, hblank⟩ := (body_of_mem_sections hs hx).2.1 hblank
    have hall : x.heading ∈ Heading.all := by cases x.heading <;> decide
    exact hvalues v (List.mem_flatMap.2 ⟨x.heading, hall, hv⟩) hblank

end Scene

namespace Layout

/-- The line of a heading is one line. -/
theorem not_mem_headingLine (l : Layout) (h : Heading) : '\n' ∉ (l.headingLine h).toList := by
  cases l <;> cases h <;> decide +kernel

/-- A block is the line of the heading, a line break, and the body. -/
theorem toList_block (l : Layout) (x : Section) :
    (l.block x).toList = (l.headingLine x.heading).toList ++ '\n' :: x.body.toList := by
  simp [block]

theorem solid_headingLine (l : Layout) (h : Heading) : Solid (l.headingLine h).toList := by
  refine Text.solid_of_not_mem ?_ (l.not_mem_headingLine h)
  cases l <;> simp [headingLine]

/-- A block is solid if its body is. -/
theorem solid_block (l : Layout) {x : Section} (hx : Solid x.body.toList) :
    Solid (l.block x).toList := by
  rw [toList_block]
  exact (l.solid_headingLine x.heading).surround ['\n'] hx

/-- A block has the blank lines of its body and no others: the line break behind the heading stands
    between two solid texts. -/
theorem hasBlankLine_block (l : Layout) {x : Section} (hx : Solid x.body.toList) :
    HasBlankLine (l.block x).toList ↔ HasBlankLine x.body.toList := by
  have hnone := Text.not_hasBlankLine_of_not_mem (l.not_mem_headingLine x.heading)
  rw [toList_block, Text.hasBlankLine_append_lineBreak (l.solid_headingLine x.heading) hx]
  simp [hnone]

/-- A heading line is that of one heading. -/
theorem find?_headingLine (l : Layout) (h : Heading) :
    Heading.all.find? (fun h' => (l.headingLine h').toList == (l.headingLine h).toList) =
      some h := by
  cases l <;> cases h <;> decide +kernel

/-- A block tells its section. -/
theorem section?_block (l : Layout) (x : Section) : l.section? (l.block x) = some x := by
  have hline : ∀ c ∈ (l.headingLine x.heading).toList, decide (c ≠ '\n') = true := by
    intro c hc
    have hne : c ≠ '\n' := fun h => l.not_mem_headingLine x.heading (h ▸ hc)
    exact decide_eq_true hne
  -- the first line ends at the first line break, and the heading has none
  have htake : (l.block x).toList.takeWhile (· ≠ '\n') = (l.headingLine x.heading).toList := by
    rw [toList_block, List.takeWhile_append_of_pos hline]
    simp
  -- what is behind that line break is the body, with all its own line breaks
  have hdrop : (l.block x).toList.dropWhile (· ≠ '\n') = '\n' :: x.body.toList := by
    rw [toList_block, List.dropWhile_append_of_pos hline]
    simp
  unfold section?
  rw [htake, hdrop, find?_headingLine]
  simp

end Layout

/-! ## The text of a prompt -/

namespace Scene

theorem toList_prompt (s : Scene) (l : Layout) :
    (s.prompt l).toList =
      List.intercalate ['\n', '\n'] (s.sections.map fun x => (l.block x).toList) := by
  unfold prompt
  rw [String.toList_intercalate, List.map_map]
  rfl

/-- The prompt falls into the pieces of its blocks. -/
theorem cutBlocks_prompt {s : Scene} (hs : s.NormalForm) (hne : s.sections ≠ []) (l : Layout) :
    Text.cutBlocks (s.prompt l).toList =
      s.sections.flatMap fun x => Text.cutBlocks (l.block x).toList := by
  -- no block ends in a line break, so none shifts the cut behind it
  have hlast : ∀ cs ∈ s.sections.map fun x => (l.block x).toList, cs.getLast? ≠ some '\n' := by
    intro cs hcs
    obtain ⟨x, hx, rfl⟩ := List.mem_map.1 hcs
    exact (l.solid_block (body_of_mem_sections hs hx).1).last_ne
  rw [toList_prompt, Text.cutBlocks_intercalate (mt List.map_eq_nil_iff.1 hne) hlast,
    List.flatMap_map]

/-- There are as many pieces as sections exactly if no value has a blank line. -/
theorem length_blocksOf_prompt_iff {s : Scene} (hs : s.NormalForm) (hne : s.sections ≠ [])
    (l : Layout) :
    (blocksOf (s.prompt l)).length = s.sections.length ↔
      ∀ v ∈ s.values, ¬ HasBlankLine v.toList := by
  have hpieces : ∀ x ∈ s.sections, Text.cutBlocks (l.block x).toList ≠ [] := fun x _ =>
    Text.cutBlocks_ne_nil _
  unfold blocksOf
  rw [List.length_map, cutBlocks_prompt hs hne, Text.length_flatMap_eq_length_iff hpieces,
    ← forall_mem_sections_iff hs]
  -- one piece for every block is no blank line in any of them
  refine forall₂_congr fun x hx => ?_
  rw [Text.length_cutBlocks_eq_one_iff, l.hasBlankLine_block (body_of_mem_sections hs hx).1]

/-- If no value has a blank line, the pieces are the blocks. -/
theorem blocksOf_prompt {s : Scene} (hs : s.NormalForm) (hne : s.sections ≠ [])
    (hvalues : ∀ v ∈ s.values, ¬ HasBlankLine v.toList) (l : Layout) :
    blocksOf (s.prompt l) = s.sections.map l.block := by
  have hpiece : ∀ x ∈ s.sections, Text.cutBlocks (l.block x).toList = [(l.block x).toList] := by
    intro x hx
    have hbody := (forall_mem_sections_iff hs).2 hvalues x hx
    rw [← l.hasBlankLine_block (body_of_mem_sections hs hx).1] at hbody
    exact Text.cutBlocks_eq_singleton hbody
  unfold blocksOf
  rw [cutBlocks_prompt hs hne, List.flatMap_congr hpiece, List.map_flatMap]
  simp [← List.map_eq_flatMap]

/-- A list with one line an item has as many lines as items exactly if no item has a line break. -/
theorem length_linesOf_bullets_iff {items : List String} (hne : items ≠ []) :
    (linesOf (lines (items.map bullet))).length = items.length ↔
      ∀ item ∈ items, '\n' ∉ item.toList := by
  have hitem : ∀ item : String, ((bullet item).toList.splitOn '\n').length = 1 ↔
      '\n' ∉ item.toList := by
    intro item
    rw [Text.length_splitOn_eq_one_iff, toList_bullet]
    simp
  have hlines : ∀ item ∈ items, (bullet item).toList.splitOn '\n' ≠ [] := fun item _ =>
    List.splitOn_ne_nil _ _
  unfold linesOf
  -- the line breaks between the lines are cut as well as those within them
  rw [List.length_map, toList_lines, Text.splitOn_intercalate_lineBreak (by simpa using hne),
    List.flatMap_map, List.flatMap_map, Text.length_flatMap_eq_length_iff hlines]
  exact forall₂_congr fun item _ => hitem item

end Scene

/-! ## Cutting at blank lines -/

/-- **Blank lines tell the sections apart, unless a value has one.**  The prompt of a scene that was
    read, in either layout, falls at its blank lines into as many pieces as there are sections just
    if no value has a blank line; and then the pieces are the sections' blocks, each a heading line
    with the body under it, and the sections are read out of them.  Likewise the anchors and the
    micro-details, which have a section just if there are any, have one line an item in it just if
    no item has a line break. -/
theorem blank_lines_delimit_sections (raw : Json) (s : Scene) (h : Scene.ofRaw raw = .ok s) :
    (s.sections ≠ [] → ∀ l : Layout,
      ((blocksOf (s.prompt l)).length = s.sections.length ↔
        ∀ v ∈ s.values, ¬ HasBlankLine v.toList) ∧
      ((∀ v ∈ s.values, ¬ HasBlankLine v.toList) →
        blocksOf (s.prompt l) =
          s.sections.map (fun x => l.headingLine x.heading ++ "\n" ++ x.body) ∧
        l.sectionsOf (s.prompt l) = s.sections)) ∧
    (((∃ body, { heading := .environmentAnchors, body } ∈ s.sections) ↔ s.filledAnchors ≠ []) ∧
      ∀ body, { heading := .environmentAnchors, body } ∈ s.sections →
        ((linesOf body).length = s.filledAnchors.length ↔
          ∀ a ∈ s.filledAnchors, '\n' ∉ a.toList)) ∧
    (((∃ body, { heading := .microDetails, body } ∈ s.sections) ↔ s.microDetails ≠ []) ∧
      ∀ body, { heading := .microDetails, body } ∈ s.sections →
        ((linesOf body).length = s.microDetails.length ↔
          ∀ d ∈ s.microDetails, '\n' ∉ d.toList)) := by
  have hs : s.NormalForm := Scene.normalForm_of_ofRaw h
  refine ⟨?_, ⟨?_, ?_⟩, ?_, ?_⟩
  · intro hne l
    refine ⟨Scene.length_blocksOf_prompt_iff hs hne l, ?_⟩
    intro hvalues
    have hblocks := Scene.blocksOf_prompt hs hne hvalues l
    refine ⟨hblocks, ?_⟩
    unfold Layout.sectionsOf
    rw [hblocks, List.filterMap_map]
    have hread : (l.section? ∘ l.block) = some := funext l.section?_block
    rw [hread, List.filterMap_some]
  · exact Scene.exists_section_iff.trans (not_congr List.map_eq_nil_iff)
  · intro body hbody
    obtain ⟨hne, hlines⟩ := Scene.mem_sections_iff.1 hbody
    obtain rfl : body = lines (s.filledAnchors.map bullet) := hlines
    exact Scene.length_linesOf_bullets_iff (mt List.map_eq_nil_iff.2 hne)
  · exact Scene.exists_section_iff.trans (not_congr List.map_eq_nil_iff)
  · intro body hbody
    obtain ⟨hne, hlines⟩ := Scene.mem_sections_iff.1 hbody
    obtain rfl : body = lines (s.microDetails.map bullet) := hlines
    exact Scene.length_linesOf_bullets_iff (mt List.map_eq_nil_iff.2 hne)

/-- Raw input with a heart and two micro-details, one of them of two lines. -/
def letter (heart : String) : Json :=
  .obj [("sceneHeart", .str heart), ("microDetails", .arr [.str "ash\nand dust", .str "wax "])]

/-- What it reads as, if the heart has been trimmed. -/
def letterScene (heart : String) : Scene :=
  { sceneHeart := heart, microDetails := ["ash\nand dust", "wax"] }

/-- A heart of two lines does no harm; one that brings a heading of its own makes a section more. -/
theorem letter_recovered :
    Scene.ofRaw (letter "Rain\nfalls") = .ok (letterScene "Rain\nfalls") ∧
      Layout.expanded.sectionsOf ((letterScene "Rain\nfalls").prompt .expanded) =
        (letterScene "Rain\nfalls").sections ∧
      ¬ (linesOf "- ash\nand dust\n- wax").length = 2 ∧
      ¬ (blocksOf ((letterScene "Rain\n\n\nCAST:\nfalls").prompt .compact)).length =
        (letterScene "Rain\n\n\nCAST:\nfalls").sections.length := by
  have hread : Scene.ofRaw (letter "Rain\nfalls") = .ok (letterScene "Rain\nfalls") := rfl
  have hforged : Scene.ofRaw (letter "Rain\n\n\nCAST:\nfalls") =
      .ok (letterScene "Rain\n\n\nCAST:\nfalls") := rfl
  obtain ⟨hsections, -, -, hdetails⟩ := blank_lines_delimit_sections _ _ hread
  obtain ⟨hforgedSections, -, -⟩ := blank_lines_delimit_sections _ _ hforged
  have hsome : ∀ heart, heart ≠ "" → (letterScene heart).sections ≠ [] := by
    intro heart hheart
    simp [letterScene, Scene.sections, textSection, hheart]
  refine ⟨hread, ?_, ?_, ?_⟩
  · have hvalues : ∀ v ∈ (letterScene "Rain\nfalls").values, ¬ HasBlankLine v.toList := by
      decide +kernel
    exact ((hsections (hsome _ (by decide)) .expanded).2 hvalues).2
  · have hbroken := hdetails "- ash\nand dust\n- wax" (by decide +kernel)
    intro hcount
    exact absurd (hbroken.1 hcount) (by decide +kernel)
  · intro hcount
    have hvalues := (hforgedSections (hsome _ (by decide)) .compact).1.1 hcount
    have hblank : HasBlankLine "Rain\n\n\nCAST:\nfalls".toList := by decide +kernel
    exact hvalues _ (by decide +kernel) hblank

end ScenePrompt
