/-
  What a prompt is made of.

  A prompt holds what the scene says and what says nothing about the scene: headings, numbers,
  dashes and line breaks.  The first are the VALUES of the scene (`Scene.values`), the second the
  SCAFFOLD.  The scaffold is found without looking at a single value: it is read off the SHAPE of
  the scene, which tells no more than what there is and how many.

  The shape has a template that is put together as the prompt is — lines into bodies, bodies under
  headings into blocks, blocks into the whole — and at each of these steps the text that is made
  renders the template that is made (`renders_castLine`, `renders_linesUnder`, `RendersAll.block`,
  `renders_prompt`).  So the prompt is the scaffold of the template and the values, woven together:
  no value is lost or said twice, and nothing is added that depends on one.

  Two things are asked of the scaffold in particular.  A member of the cast is numbered by its place
  among those that are kept; the template is cut in front of the member's name
  (`exists_template_eq_append`), and what stands before the cut has as many holes as there are
  values before the name.  And headings stand where their field says something and nowhere else,
  because the blocks are the only places with a capital A in them.

  Framing and lens say what their phrase says, so a framing without a phrase would say nothing; a
  scene that was read has none (`framingPhrase_eq_empty_iff`).
-/
import ScenePrompt.Proofs.Compile.Gate
import ScenePrompt.Proofs.Prompt.Heading
import ScenePrompt.Proofs.Scene.NormalForm

namespace ScenePrompt

open Outcome

/-! ## Values -/

/-- The texts that are not empty. -/
def written (texts : List String) : List String := texts.filter (· ≠ "")

theorem written_append (xs ys : List String) : written (xs ++ ys) = written xs ++ written ys :=
  List.filter_append ..

theorem written_eq_self {texts : List String} (h : ∀ t ∈ texts, t ≠ "") : written texts = texts :=
  List.filter_eq_self.2 fun t ht => decide_eq_true (h t ht)

/-- What a cast member says. -/
def CastMember.texts (m : CastMember) : List String := [m.name, m.description, m.wardrobe]

namespace Scene

/-- The phrase for the framing, if it has one. -/
def framingPhrase (s : Scene) : String := (framingPhrases.lookup s.framing).getD ""

/-- The phrase for the lens, if it has one. -/
def lensPhrase (s : Scene) : String := (lensPhrases.lookup s.lens).getD ""

/-- The texts in front of the cast. -/
def opening (s : Scene) : List String := [s.sceneHeart, s.framingPhrase, s.lensPhrase]

/-- What there is to say about a scene, in the order in which it is said. -/
def values (s : Scene) : List String :=
  written (s.opening ++ s.cast.flatMap CastMember.texts ++ s.filledAnchors ++ s.microDetails ++
    [s.mechanicLock, s.focusTarget])

end Scene

/-! ## Shapes -/

/-- Which parts of a cast member there are besides the name. -/
structure MemberShape where
  description : Bool
  wardrobe : Bool
  deriving DecidableEq, Repr

/-- Which values there are, and how many of those of which there may be several. -/
structure Shape where
  sceneHeart : Bool
  framingPhrase : Bool
  lensPhrase : Bool
  cast : List MemberShape
  anchors : Nat
  microDetails : Nat
  mechanicLock : Bool
  focusTarget : Bool
  deriving DecidableEq, Repr

/-- The parts of a cast member. -/
def CastMember.shape (m : CastMember) : MemberShape :=
  { description := m.description ≠ "", wardrobe := m.wardrobe ≠ "" }

/-- The shape of a scene. -/
def Scene.shape (s : Scene) : Shape where
  sceneHeart := s.sceneHeart ≠ ""
  framingPhrase := s.framingPhrase ≠ ""
  lensPhrase := s.lensPhrase ≠ ""
  cast := s.cast.map CastMember.shape
  anchors := s.filledAnchors.length
  microDetails := s.microDetails.length
  mechanicLock := s.mechanicLock ≠ ""
  focusTarget := s.focusTarget ≠ ""

/-! ## The template of a shape -/

/-- A part of a line that may be missing. -/
def optional (present : Bool) (t : Template) : Template := if present then t else []

/-- What stands in front of the name of a cast member. -/
def memberMark (number : Nat) : String := "- Character " ++ toString number ++ ": "

/-- The line of a cast member. -/
def MemberShape.template (number : Nat) (m : MemberShape) : Template :=
  .fixed (memberMark number) :: .hole ::
    (optional m.description [.fixed ", ", .hole] ++
      optional m.wardrobe [.fixed " [wardrobe: ", .hole, .fixed "]"])

/-- The lines of cast members, the first of them having the given number. -/
def memberTemplates : Nat → List MemberShape → List Template
  | _, [] => []
  | number, m :: ms => m.template number :: memberTemplates (number + 1) ms

namespace Shape

/-- The lines under each heading. -/
def linesUnder (sh : Shape) : Heading → List Template
  | .sceneHeart => List.replicate sh.sceneHeart.toNat [.hole]
  | .optics => List.replicate (sh.framingPhrase.toNat + sh.lensPhrase.toNat) [.hole]
  | .cast => memberTemplates 1 sh.cast
  | .environmentAnchors => List.replicate sh.anchors [.fixed "- ", .hole]
  | .microDetails => List.replicate sh.microDetails [.fixed "- ", .hole]
  | .mechanicLock => List.replicate sh.mechanicLock.toNat [.hole]
  | .focusTarget => List.replicate sh.focusTarget.toNat [.hole]

end Shape

/-- The block of a heading, if there are any lines to stand under it. -/
def Layout.blockTemplates (l : Layout) (h : Heading) (ts : List Template) : List Template :=
  if ts = [] then [] else [.fixed (l.headingLine h ++ "\n") :: Template.join "\n" ts]

namespace Shape

/-- The blocks under some headings. -/
def blocks (l : Layout) (sh : Shape) (hs : List Heading) : List Template :=
  hs.flatMap fun h => l.blockTemplates h (sh.linesUnder h)

/-- The prompt of a scene of this shape. -/
def template (l : Layout) (sh : Shape) : Template :=
  Template.join "\n\n" (sh.blocks l Heading.all)

/-- All that a prompt of this shape holds besides the values. -/
def scaffold (l : Layout) (sh : Shape) : List String := (sh.template l).scaffold

end Shape

/-! ## Values and lines under one heading -/

namespace Scene

/-- The values under each heading. -/
def valuesUnder (s : Scene) : Heading → List String
  | .sceneHeart => written [s.sceneHeart]
  | .optics => written [s.framingPhrase, s.lensPhrase]
  | .cast => s.cast.flatMap fun m => written m.texts
  | .environmentAnchors => s.filledAnchors
  | .microDetails => s.microDetails
  | .mechanicLock => written [s.mechanicLock]
  | .focusTarget => written [s.focusTarget]

/-- The lines under each heading. -/
def linesUnder (s : Scene) : Heading → List String
  | .sceneHeart => written [s.sceneHeart]
  | .optics => s.opticsPhrases
  | .cast => castLines 1 s.cast
  | .environmentAnchors => s.filledAnchors.map bullet
  | .microDetails => s.microDetails.map bullet
  | .mechanicLock => written [s.mechanicLock]
  | .focusTarget => written [s.focusTarget]

/-- A section with one text is one with one line, if the text is not empty.  So all sections are of
    one kind. -/
theorem textSection_eq_listSection (h : Heading) (text : String) :
    textSection h text = listSection h (written [text]) := by
  unfold textSection listSection written
  by_cases htext : text = ""
  · simp [htext]
  · simp [htext, lines]

/-- The sections, one heading after another. -/
theorem sections_eq_flatMap (s : Scene) :
    s.sections = Heading.all.flatMap fun h => listSection h (s.linesUnder h) := by
  simp only [sections, textSection_eq_listSection, Heading.all, List.flatMap_cons, List.flatMap_nil,
    List.append_nil, List.append_assoc]
  rfl

/-- An anchor that holds ink is not empty. -/
theorem filledAnchors_ne_empty (s : Scene) : ∀ a ∈ s.filledAnchors, a ≠ "" := by
  rintro a ha rfl
  have hink := (List.mem_filter.1 ha).2
  exact absurd hink (by decide)

/-- The values, one heading after another. -/
theorem values_eq_flatMap {s : Scene} (h : s.NormalForm) :
    s.values = Heading.all.flatMap s.valuesUnder := by
  -- what is written of the whole list is what is written under each heading
  have hcast : written (s.cast.flatMap CastMember.texts) =
      s.cast.flatMap fun m => written m.texts := List.filter_flatMap ..
  have hopening : written s.opening =
      written [s.sceneHeart] ++ written [s.framingPhrase, s.lensPhrase] :=
    written_append [_] [_, _]
  have hclosing : written [s.mechanicLock, s.focusTarget] =
      written [s.mechanicLock] ++ written [s.focusTarget] := written_append [_] [_]
  unfold values
  simp only [written_append, hcast, hopening, hclosing, written_eq_self s.filledAnchors_ne_empty,
    written_eq_self h.details_ne_empty]
  simp [Heading.all, valuesUnder]

end Scene

/-! ## Lines render their templates -/

/-- One text is written once or not at all, as the shape has it. -/
theorem length_written_singleton (text : String) :
    (written [text]).length = (decide (text ≠ "")).toNat := by
  unfold written
  by_cases h : text = "" <;> simp [h]

/-- An item renders the line with a bullet. -/
theorem Renders.bullet (item : String) :
    Renders [.fixed "- ", .hole] [item] (ScenePrompt.bullet item) :=
  .fixed "- " (.value item)

/-- A part that is missing along with its value renders the template that is missing along with
    it. -/
theorem Renders.optional {v text : String} {t : Template} (h : Renders t [v] text) :
    Renders (optional (v ≠ "") t) (written [v]) (if v = "" then "" else text) := by
  unfold ScenePrompt.optional written
  by_cases hv : v = ""
  · simpa [hv] using Renders.nil
  · simpa [hv] using h

/-- The line of a cast member, from left to right. -/
theorem castLine_eq (number : Nat) (m : CastMember) :
    castLine number m = memberMark number ++ (m.name ++
      ((if m.description = "" then "" else ", " ++ m.description) ++
        (if m.wardrobe = "" then "" else " [wardrobe: " ++ m.wardrobe ++ "]"))) := by
  unfold castLine memberMark
  simp only [String.append_assoc]

/-- A cast member with a name renders the line of its shape. -/
theorem CastMember.renders_castLine {m : CastMember} (h : m.name ≠ "") (number : Nat) :
    Renders (m.shape.template number) (written m.texts) (castLine number m) := by
  -- two parts that may be missing, each with its own text around the value
  have hdescription : Renders (optional (m.description ≠ "") [.fixed ", ", .hole])
      (written [m.description])
      (if m.description = "" then "" else ", " ++ m.description) :=
    (Renders.fixed ", " (.value m.description)).optional
  have hwardrobe : Renders (optional (m.wardrobe ≠ "") [.fixed " [wardrobe: ", .hole, .fixed "]"])
      (written [m.wardrobe])
      (if m.wardrobe = "" then "" else " [wardrobe: " ++ m.wardrobe ++ "]") := by
    rw [String.append_assoc]
    exact (Renders.fixed " [wardrobe: " (.hole m.wardrobe (.fixed "]" .nil))).optional
  have hparts := Renders.fixed (memberMark number) (.hole m.name (hdescription.append hwardrobe))
  have hvalues : written m.texts =
      m.name :: (written [m.description] ++ written [m.wardrobe]) := by
    show written ([m.name] ++ ([m.description] ++ [m.wardrobe])) = _
    rw [written_append, written_append]
    simp [written, h]
  rw [hvalues, castLine_eq]
  exact hparts

/-- The lines of the cast render the templates of its members, each under its own number. -/
theorem CastMember.renders_castLines {ms : List CastMember} (h : ∀ m ∈ ms, m.name ≠ "")
    (number : Nat) :
    RendersAll (memberTemplates number (ms.map CastMember.shape))
      (ms.flatMap fun m => written m.texts) (castLines number ms) := by
  induction ms generalizing number with
  | nil => exact .nil
  | cons m ms ih =>
    have hfirst := CastMember.renders_castLine (h m (List.mem_cons_self ..)) number
    have hrest := ih (fun m' hm' => h m' (List.mem_cons_of_mem m hm')) (number + 1)
    exact .cons hfirst hrest

/-- A phrase that is looked up in a table of texts is written if there is one. -/
theorem toList_lookup {table : List (String × String)} (h : ∀ e ∈ table, e.2 ≠ "") (key : String) :
    (table.lookup key).toList = written [(table.lookup key).getD ""] := by
  cases hkey : table.lookup key with
  | none => rfl
  | some phrase =>
    obtain ⟨before, after, rfl, -⟩ := List.lookup_eq_some_iff.1 hkey
    have hne : phrase ≠ "" := h (key, phrase) (by simp)
    simp [written, hne]

namespace Scene

/-- The phrases for framing and lens are looked up; what is found is what is written of the two. -/
theorem opticsPhrases_eq_written (s : Scene) :
    s.opticsPhrases = written [s.framingPhrase, s.lensPhrase] := by
  have hframing : (framingPhrases.lookup s.framing).toList = written [s.framingPhrase] :=
    toList_lookup (by decide) s.framing
  have hlens : (lensPhrases.lookup s.lens).toList = written [s.lensPhrase] :=
    toList_lookup (by decide) s.lens
  unfold opticsPhrases
  rw [hframing, hlens]
  exact (written_append [s.framingPhrase] [s.lensPhrase]).symm

/-- Values that are lines by themselves. -/
theorem renders_written (texts : List String) :
    RendersAll (List.replicate (written texts).length [.hole]) (written texts) (written texts) := by
  simpa using RendersAll.replicate (f := id) Renders.value (written texts)

/-- Under every heading stand the lines of its shape, with its values. -/
theorem renders_linesUnder {s : Scene} (hs : s.NormalForm) (h : Heading) :
    RendersAll (s.shape.linesUnder h) (s.valuesUnder h) (s.linesUnder h) := by
  have htext : ∀ text : String, RendersAll (List.replicate (decide (text ≠ "")).toNat [.hole])
      (written [text]) (written [text]) := by
    intro text
    rw [← length_written_singleton]
    exact renders_written [text]
  cases h with
  | sceneHeart => exact htext s.sceneHeart
  | mechanicLock => exact htext s.mechanicLock
  | focusTarget => exact htext s.focusTarget
  | optics =>
    -- the shape counts the two phrases apart, the lines hold them together
    have hcount : (written [s.framingPhrase, s.lensPhrase]).length =
        s.shape.framingPhrase.toNat + s.shape.lensPhrase.toNat := by
      have hsplit := written_append [s.framingPhrase] [s.lensPhrase]
      rw [List.singleton_append] at hsplit
      rw [hsplit, List.length_append, length_written_singleton, length_written_singleton]
      rfl
    show RendersAll (List.replicate (_ + _) [.hole]) _ s.opticsPhrases
    rw [s.opticsPhrases_eq_written, ← hcount]
    exact renders_written _
  | cast =>
    exact CastMember.renders_castLines (fun m hm => (hs.cast_normalForm m hm).name_ne_empty) 1
  | environmentAnchors => exact RendersAll.replicate Renders.bullet s.filledAnchors
  | microDetails => exact RendersAll.replicate Renders.bullet s.microDetails

end Scene

/-! ## The prompt renders the template of its shape -/

/-- Lines under a heading render a block, and no lines no block. -/
theorem RendersAll.block {ts : List Template} {vs ls : List String} (h : RendersAll ts vs ls)
    (l : Layout) (hd : Heading) :
    RendersAll (l.blockTemplates hd ts) vs ((listSection hd ls).map l.block) := by
  unfold Layout.blockTemplates listSection
  cases h with
  | nil => exact .nil
  | cons hfirst hrest =>
    have hbody := RendersAll.join "\n" (.cons hfirst hrest)
    rw [if_neg (List.cons_ne_nil _ _), if_neg (List.cons_ne_nil _ _)]
    exact .singleton (.fixed (l.headingLine hd ++ "\n") hbody)

namespace Scene

/-- The blocks under any headings render the templates of the shape there. -/
theorem renders_blocks {s : Scene} (hs : s.NormalForm) (l : Layout) (hds : List Heading) :
    RendersAll (s.shape.blocks l hds) (hds.flatMap s.valuesUnder)
      (hds.flatMap fun h => (listSection h (s.linesUnder h)).map l.block) :=
  RendersAll.flatMap fun h _ => (renders_linesUnder hs h).block l h

/-- A prompt renders the template of the shape of its scene, with the values of the scene in the
    holes. -/
theorem renders_prompt {s : Scene} (hs : s.NormalForm) (l : Layout) :
    Renders (s.shape.template l) s.values (s.prompt l) := by
  unfold prompt Shape.template
  rw [values_eq_flatMap hs, s.sections_eq_flatMap, List.map_flatMap]
  exact (renders_blocks hs l Heading.all).join "\n\n"

end Scene

/-! ## Numbers -/

/-- The lines of a cast in two parts: in the second part the numbers go on. -/
theorem memberTemplates_append (number : Nat) (before after : List MemberShape) :
    memberTemplates number (before ++ after) =
      memberTemplates number before ++ memberTemplates (number + before.length) after := by
  induction before generalizing number with
  | nil => rfl
  | cons m before ih =>
    rw [List.cons_append, memberTemplates, memberTemplates, ih, List.length_cons, List.cons_append]
    simp [Nat.add_assoc, Nat.add_comm 1]

/-- The template of a prompt up to the name of a cast member: the blocks in front of the cast, the
    heading of the cast, and the lines of the members before. -/
def Shape.upTo (l : Layout) (sh : Shape) (before : List MemberShape) : Template :=
  (sh.blocks l [.sceneHeart, .optics]).flatMap (· ++ [.fixed "\n\n"]) ++
    .fixed (l.headingLine .cast ++ "\n") ::
      (memberTemplates 1 before).flatMap (· ++ [.fixed "\n"])

/-- In the template of a prompt the name of a cast member is a hole, behind all that comes up to it
    and the mark with the number of the member. -/
theorem Shape.exists_template_eq_append {sh : Shape} (l : Layout) {before after : List MemberShape}
    {m : MemberShape} (hcast : sh.cast = before ++ m :: after) :
    ∃ u, sh.template l =
      sh.upTo l before ++ .fixed (memberMark (before.length + 1)) :: .hole :: u := by
  have hlines : sh.linesUnder .cast = memberTemplates 1 before ++
      m.template (before.length + 1) :: memberTemplates (before.length + 1 + 1) after := by
    show memberTemplates 1 sh.cast = _
    rw [hcast, memberTemplates_append, memberTemplates, Nat.add_comm 1]
  have hblock : l.blockTemplates .cast (sh.linesUnder .cast) =
      [.fixed (l.headingLine .cast ++ "\n") :: Template.join "\n" (sh.linesUnder .cast)] := by
    refine if_neg ?_
    rw [hlines]
    simp
  have hblocks : sh.blocks l Heading.all = sh.blocks l [.sceneHeart, .optics] ++
      (.fixed (l.headingLine .cast ++ "\n") :: Template.join "\n" (sh.linesUnder .cast)) ::
        sh.blocks l [.environmentAnchors, .microDetails, .mechanicLock, .focusTarget] := by
    have hsplit : sh.blocks l Heading.all = sh.blocks l [.sceneHeart, .optics] ++
        (l.blockTemplates .cast (sh.linesUnder .cast) ++
          sh.blocks l [.environmentAnchors, .microDetails, .mechanicLock, .focusTarget]) := by
      simp [Shape.blocks, Heading.all]
    rw [hsplit, hblock]
    rfl
  unfold Shape.template Shape.upTo
  rw [hblocks, Template.join_append_cons, hlines, Template.join_append_cons]
  unfold MemberShape.template
  simp only [List.append_assoc, List.cons_append]
  exact ⟨_, rfl⟩

/-- Cast members are numbered from one: the scaffold text in front of a name ends in the number of
    the member, which is one more than there are members before it. -/
theorem Scene.exists_memberMark {s : Scene} (hs : s.NormalForm) (l : Layout)
    {before after : List CastMember} {m : CastMember} (hcast : s.cast = before ++ m :: after) :
    ∃ earlier later start, s.values = earlier ++ m.name :: later ∧
      earlier = written (s.opening ++ before.flatMap CastMember.texts) ∧
      (s.shape.scaffold l)[earlier.length]? = some (start ++ memberMark (before.length + 1)) := by
  have hname : m.name ≠ "" := (hs.cast_normalForm m (by simp [hcast])).name_ne_empty
  have hnames : ∀ m' ∈ before, m'.name ≠ "" := fun m' hm' =>
    (hs.cast_normalForm m' (by simp [hcast, hm'])).name_ne_empty
  -- what stands in front of the name renders the values before it
  obtain ⟨opening, hopening⟩ :=
    (renders_blocks hs l [.sceneHeart, .optics]).exists_renders_flatMap "\n\n"
  obtain ⟨lines, hlines⟩ :=
    (CastMember.renders_castLines hnames 1).exists_renders_flatMap "\n"
  have hupTo : Renders (s.shape.upTo l (before.map CastMember.shape))
      (written (s.opening ++ before.flatMap CastMember.texts))
      (opening ++ (l.headingLine .cast ++ "\n" ++ lines)) := by
    have hvalues : written (s.opening ++ before.flatMap CastMember.texts) =
        [Heading.sceneHeart, .optics].flatMap s.valuesUnder ++
          before.flatMap fun m' => written m'.texts := by
      have hfilter : written (before.flatMap CastMember.texts) =
          before.flatMap fun m' => written m'.texts := List.filter_flatMap ..
      rw [written_append, hfilter]
      have hopening : written s.opening = [Heading.sceneHeart, .optics].flatMap s.valuesUnder := by
        have hsplit := written_append [s.sceneHeart] [s.framingPhrase, s.lensPhrase]
        simpa [Scene.opening, valuesUnder] using hsplit
      rw [hopening]
    rw [hvalues]
    exact hopening.append (.fixed (l.headingLine .cast ++ "\n") hlines)
  have hshape : s.shape.cast =
      before.map CastMember.shape ++ m.shape :: after.map CastMember.shape := by
    show s.cast.map CastMember.shape = _
    rw [hcast, List.map_append, List.map_cons]
  obtain ⟨u, hu⟩ := Shape.exists_template_eq_append l hshape
  obtain ⟨start, hstart⟩ := hupTo.exists_getElem?_scaffold (memberMark (before.length + 1)) u
  rw [List.length_map] at hu
  rw [← hu] at hstart
  refine ⟨_, ?_, start, ?_, rfl, hstart⟩
  · exact written (m.description :: m.wardrobe :: after.flatMap CastMember.texts ++
      s.filledAnchors ++ s.microDetails ++ [s.mechanicLock, s.focusTarget])
  · unfold values
    rw [hcast, List.flatMap_append, List.flatMap_cons]
    simp [written, CastMember.texts, hname]

/-! ## Headings in the scaffold -/

/-- The field that a heading is for says something. -/
def Scene.says (s : Scene) : Heading → Bool
  | .sceneHeart => s.sceneHeart ≠ ""
  | .optics => s.framing ≠ "" ∨ s.lens ≠ ""
  | .cast => s.cast ≠ []
  | .environmentAnchors => s.filledAnchors ≠ []
  | .microDetails => s.microDetails ≠ []
  | .mechanicLock => s.mechanicLock ≠ ""
  | .focusTarget => s.focusTarget ≠ ""

/-- A framing says something exactly if one was chosen, because every framing there is has a
    phrase. -/
theorem Scene.framingPhrase_eq_empty_iff {s : Scene} (hs : s.WellFormed) :
    s.framingPhrase = "" ↔ s.framing = "" := by
  have hknown : ∀ name ∈ "" :: framings,
      ((framingPhrases.lookup name).getD "" = "" ↔ name = "") := by decide
  exact hknown s.framing (List.mem_cons.2 hs.framing_mem)

theorem Scene.lensPhrase_eq_empty_iff {s : Scene} (hs : s.WellFormed) :
    s.lensPhrase = "" ↔ s.lens = "" := by
  have hknown : ∀ name ∈ "" :: lenses, ((lensPhrases.lookup name).getD "" = "" ↔ name = "") := by
    decide
  exact hknown s.lens (List.mem_cons.2 hs.lens_mem)

/-- Lines stand under a heading exactly if its field says something. -/
theorem Scene.linesUnder_shape_eq_nil_iff {s : Scene} (hs : s.WellFormed) (h : Heading) :
    s.shape.linesUnder h = [] ↔ s.says h = false := by
  have hcast : ∀ ms : List CastMember, memberTemplates 1 (ms.map CastMember.shape) = [] ↔ ms = [] :=
    fun ms => by cases ms <;> simp [memberTemplates]
  cases h with
  -- the one heading whose lines are not its fields
  | optics =>
    simp [Shape.linesUnder, Scene.shape, Scene.says, framingPhrase_eq_empty_iff hs,
      lensPhrase_eq_empty_iff hs]
  | cast => simp [Shape.linesUnder, Scene.shape, Scene.says, hcast]
  | _ => simp [Shape.linesUnder, Scene.shape, Scene.says]

/-- Numbers are written in digits. -/
theorem not_mem_toDigits {c : Char} (hdigit : c.isDigit = false) (number : Nat) :
    c ∉ Nat.toDigits 10 number := by
  intro hmem
  rw [Nat.isDigit_of_mem_toDigits (by decide) (by decide) hmem] at hdigit
  cases hdigit

/-- In front of a name stand the mark's own letters, and digits. -/
theorem not_mem_memberMark {c : Char} (hdigit : c.isDigit = false)
    (htext : c ∉ "- Character : ".toList) (number : Nat) : c ∉ (memberMark number).toList := by
  have hmark : (memberMark number).toList =
      "- Character ".toList ++ Nat.toDigits 10 number ++ ": ".toList := by
    simp [memberMark]
  rw [hmark, List.append_assoc, List.mem_append, List.mem_append]
  rintro (hmem | hmem | hmem)
  · exact htext (List.mem_append_left ": ".toList hmem)
  · exact not_mem_toDigits hdigit number hmem
  · exact htext (List.mem_append_right "- Character ".toList hmem)

/-- There is no capital A in the lines that stand under a heading. -/
theorem Shape.not_mem_unfilled (sh : Shape) (h : Heading) :
    ∀ t ∈ sh.linesUnder h, 'A' ∉ t.unfilled := by
  have hreplicate : ∀ (n : Nat) (u : Template), 'A' ∉ u.unfilled →
      ∀ t ∈ List.replicate n u, 'A' ∉ t.unfilled := by
    intro n u hu t ht
    rwa [List.eq_of_mem_replicate ht]
  -- the only fixed text that is not the same for everybody is the number
  have hmember : ∀ (n : Nat) (m : MemberShape), 'A' ∉ (m.template n).unfilled := by
    rintro n ⟨description, wardrobe⟩
    have hparts : 'A' ∉ Template.unfilled (.hole ::
        (optional description [.fixed ", ", .hole] ++
          optional wardrobe [.fixed " [wardrobe: ", .hole, .fixed "]"])) := by
      cases description <;> cases wardrobe <;> decide
    intro hmem
    rcases List.mem_append.1 hmem with hmem | hmem
    · exact not_mem_memberMark (by decide) (by decide) n hmem
    · exact hparts hmem
  have hcast : ∀ (ms : List MemberShape) (n : Nat),
      ∀ t ∈ memberTemplates n ms, 'A' ∉ t.unfilled := by
    intro ms
    induction ms with
    | nil => simp [memberTemplates]
    | cons m ms ih =>
      intro n t ht
      rcases List.mem_cons.1 ht with rfl | ht
      · exact hmember n m
      · exact ih (n + 1) t ht
  cases h with
  | cast => exact hcast sh.cast 1
  | _ => exact hreplicate _ _ (by decide)

/-- A block holds its own heading and no other. -/
theorem Layout.foundIn_blockTemplates (l : Layout) (h : Heading) {ts : List Template}
    (hts : ∀ t ∈ ts, 'A' ∉ t.unfilled) :
    ((l.blockTemplates h ts).flatMap fun t => Heading.foundIn t.unfilled) =
      if ts = [] then [] else [h] := by
  unfold blockTemplates
  by_cases hnone : ts = []
  · rw [if_pos hnone, if_pos hnone]
    rfl
  · have hbody : 'A' ∉ (Template.join "\n" ts).unfilled := by
      intro hmem
      rcases Template.mem_unfilled_join hmem with hmem | ⟨t, ht, hmem⟩
      · exact absurd hmem (by decide)
      · exact hts t ht hmem
    have hblock : Template.unfilled (.fixed (l.headingLine h ++ "\n") :: Template.join "\n" ts) =
        (l.headingLine h).toList ++ '\n' :: (Template.join "\n" ts).unfilled := by
      rw [Template.unfilled_cons]
      simp [Piece.unfilled]
    rw [if_neg hnone, if_neg hnone, List.flatMap_singleton, hblock,
      Heading.foundIn_append_lineBreak, Heading.foundIn_headingLine, Heading.foundIn_eq_nil hbody]
    rfl

/-- The headings in the scaffold are those whose field says something, in their order. -/
theorem Scene.foundIn_scaffold {s : Scene} (hs : s.WellFormed) (l : Layout) :
    ((s.shape.scaffold l).flatMap fun x => Heading.foundIn x.toList) =
      Heading.all.filter s.says := by
  -- block by block: the label of the heading if there are lines, else nothing
  have hheading : ∀ h : Heading,
      ((l.blockTemplates h (s.shape.linesUnder h)).flatMap fun t => Heading.foundIn t.unfilled) =
        [h].filter s.says := by
    intro h
    rw [l.foundIn_blockTemplates h (s.shape.not_mem_unfilled h)]
    cases hsays : s.says h with
    | false => simp [(linesUnder_shape_eq_nil_iff hs h).2 hsays, hsays]
    | true =>
      have hsome : s.shape.linesUnder h ≠ [] := fun hnone => by
        rw [(linesUnder_shape_eq_nil_iff hs h).1 hnone] at hsays
        cases hsays
      simp [hsome, hsays]
  unfold Shape.scaffold Shape.template Shape.blocks
  rw [Template.foundIn_scaffold, Template.foundIn_join, List.flatMap_assoc]
  simp only [hheading]
  rw [← List.filter_flatMap, List.flatMap_singleton']

/-! ## Prompts that are compiled -/

/-- The anchors of raw input that belong into slots and hold ink, trimmed. -/
def rawAnchors (raw : Json) : List String :=
  written (((Field.environmentAnchors.rawValue raw.entries).items.take 5).map Json.trimmed)

/-- The filled anchors of a scene that was read are those of the input. -/
theorem Scene.filledAnchors_of_ofRaw {raw : Json} {s : Scene} (h : Scene.ofRaw raw = .ok s) :
    s.filledAnchors = rawAnchors raw := by
  obtain ⟨-, rfl⟩ := Scene.ofRaw_eq_ok_iff.1 h
  have hpadding : ∀ n, (List.replicate n "").filter (fun anchor => !Text.isBlankText anchor) = [] :=
    fun n => by
      refine List.filter_eq_nil_iff.2 fun anchor hanchor => ?_
      rw [List.eq_of_mem_replicate hanchor]
      decide
  have hslots : ∀ vs : List Json,
      (vs.map Json.trimmed).filter (fun anchor => !Text.isBlankText anchor) =
        written (vs.map Json.trimmed) := by
    intro vs
    refine List.filter_congr fun anchor hanchor => ?_
    obtain ⟨v, -, rfl⟩ := List.mem_map.1 hanchor
    exact v.isBlankText_trimmed
  show List.filter _ (Scene.content raw.entries).environmentAnchors = _
  unfold Scene.content
  rw [List.filter_append, hpadding, hslots, List.append_nil]
  rfl

/-- A layout that a prompt was written in is one that exists. -/
theorem exists_layout_of_compile {rules : List Rule} {defaultMode : String} {mode : Option String}
    {raw : Json} {prompt : String} {warnings : List Diagnostic}
    (h : compile rules defaultMode mode raw = .ok (.ok prompt warnings)) :
    ∃ l : Layout, l.name = effectiveMode defaultMode mode := by
  obtain ⟨s, -, hscene⟩ := bind_eq_ok_iff.1 h
  obtain ⟨v, -, hanswer⟩ := bind_eq_ok_iff.1 hscene
  split at hanswer
  · obtain ⟨text, hformat, -⟩ := bind_eq_ok_iff.1 hanswer
    refine Layout.mem_names_iff.1 ?_
    cases hmode : Layout.ofName? (effectiveMode defaultMode mode) with
    | none => simp [Scene.format, hmode] at hformat
    | some l =>
      have hknown := Layout.ofName?_isSome_iff.1 (by rw [hmode]; rfl)
      rcases hknown with hname | hname <;> rw [hname] <;> decide
  · exact absurd hanswer (by simp)

/-! ## Nothing lost, nothing added -/

/-- What the prompt of a scene in a layout is made of. -/
structure Scene.Woven (l : Layout) (s : Scene) : Prop where
  length_scaffold : (s.shape.scaffold l).length = s.values.length + 1
  prompt_eq : s.prompt l = weave (s.shape.scaffold l) s.values
  numbered : ∀ (before : List CastMember) (m : CastMember) (after : List CastMember),
    s.cast = before ++ m :: after → ∃ earlier later start,
      s.values = earlier ++ m.name :: later ∧
      earlier = written (s.opening ++ before.flatMap CastMember.texts) ∧
      (s.shape.scaffold l)[earlier.length]? =
        some (start ++ ("- Character " ++ toString (before.length + 1) ++ ": "))
  headings_eq : ((s.shape.scaffold l).flatMap fun x => Heading.foundIn x.toList) =
    Heading.all.filter s.says

/-- The prompt begins with the heart of the raw input, under its heading, and has a section with
    just the filled ones of its anchors, which are three to five. -/
structure Grounded (l : Layout) (raw : Json) (prompt : String) : Prop where
  heart_ne_empty : rawHeart raw ≠ ""
  three_le_anchors : 3 ≤ (rawAnchors raw).length
  anchors_le_five : (rawAnchors raw).length ≤ 5
  exists_sections : ∃ between after : List Section,
    prompt = l.block { heading := .sceneHeart, body := rawHeart raw } ++ "\n\n" ++
      String.intercalate "\n\n" ((between ++
        { heading := .environmentAnchors, body := lines ((rawAnchors raw).map bullet) } ::
          after).map l.block)

/-- A scene in normal form is woven.  The four parts were proved one by one. -/
theorem Scene.woven_of_normalForm {s : Scene} (hwell : s.WellFormed) (hs : s.NormalForm)
    (l : Layout) : s.Woven l where
  length_scaffold := (renders_prompt hs l).length_scaffold
  prompt_eq := (renders_prompt hs l).weave_scaffold.symm
  numbered _ _ _ hcast := exists_memberMark hs l hcast
  headings_eq := foundIn_scaffold hwell l

/-- A scene with a heart and filled anchors has a section for each of them, the heart's first. -/
theorem Scene.exists_sections_eq {s : Scene} (hheart : s.sceneHeart ≠ "")
    (hanchors : s.filledAnchors ≠ []) :
    ∃ between after : List Section,
      s.sections = { heading := .sceneHeart, body := s.sceneHeart } :: (between ++
        { heading := .environmentAnchors, body := lines (s.filledAnchors.map bullet) } ::
          after) := by
  have hfirst : textSection .sceneHeart s.sceneHeart =
      [{ heading := .sceneHeart, body := s.sceneHeart }] := if_neg hheart
  have hlist : listSection .environmentAnchors (s.filledAnchors.map bullet) =
      [{ heading := .environmentAnchors, body := lines (s.filledAnchors.map bullet) }] :=
    if_neg (mt List.map_eq_nil_iff.1 hanchors)
  refine ⟨listSection .optics s.opticsPhrases ++ listSection .cast (castLines 1 s.cast),
    listSection .microDetails (s.microDetails.map bullet) ++
      textSection .mechanicLock s.mechanicLock ++ textSection .focusTarget s.focusTarget, ?_⟩
  unfold sections
  rw [hfirst, hlist]
  simp only [List.append_assoc, List.cons_append, List.nil_append]

/-- The built-in table lets nothing through that has no heart or fewer than three anchors. -/
theorem grounded_of_compile {t : Thresholds} {defaultMode : String} {mode : Option String}
    {raw : Json} {prompt : String} {warnings : List Diagnostic} {l : Layout}
    (hl : l.name = effectiveMode defaultMode mode)
    (h : compile (Rule.table t) defaultMode mode raw = .ok (.ok prompt warnings)) :
    Grounded l raw prompt := by
  obtain ⟨s, hs⟩ := exists_ofRaw_of_compile h
  have hheart : s.sceneHeart = rawHeart raw := Scene.sceneHeart_of_ofRaw hs
  have hfilled : s.filledAnchors = rawAnchors raw := Scene.filledAnchors_of_ofRaw hs
  have hcount : rawFilledAnchors raw = (rawAnchors raw).length := by
    rw [← Scene.filledAnchorCount_of_ofRaw hs, ← hfilled]
    rfl
  -- the gate has not blocked it
  obtain ⟨result, hresult, hblocked, -⟩ :=
    gateDecides_compile hs t (Layout.mem_names_iff.2 ⟨l, hl⟩)
  obtain rfl : CompileResult.ok prompt warnings = result := Except.ok.inj (h.symm.trans hresult)
  have hpass : ¬ (rawHeart raw = "" ∨ rawFilledAnchors raw < 3) := fun hstop => by
    cases hblocked.2 hstop
  have hne : rawHeart raw ≠ "" := fun hempty => hpass (Or.inl hempty)
  have hthree : 3 ≤ (rawAnchors raw).length := by omega
  have hfive : s.filledAnchors.length ≤ 5 := (Scene.wellFormed_of_ofRaw hs).filledAnchorCount_le
  have hsome : s.filledAnchors ≠ [] := fun hnone => by
    rw [← hfilled, hnone] at hthree
    cases hthree
  obtain ⟨between, after, hsections⟩ := Scene.exists_sections_eq (hheart ▸ hne) hsome
  refine ⟨hne, hthree, hfilled ▸ hfive, between, after, ?_⟩
  rw [prompt_of_compile hs hl.symm h, Scene.prompt, hsections, hheart, hfilled, List.map_cons]
  exact String.intercalate_cons_of_ne_nil (by simp)

/-- **A prompt is its scaffold and its values.**  The prompt of any scene that was read, in either
    layout, is made of a scaffold, which depends on the shape of the scene alone, and the values of
    the scene, taken in turns.  In the scaffold the cast is numbered from one, and each heading
    occurs just if its field says something, once and in its place.  What the built-in table lets
    through, with any thresholds, begins with its heart and has its three to five anchors. -/
theorem prompt_woven_of_scaffold_and_values :
    (∀ (raw : Json) (s : Scene), Scene.ofRaw raw = .ok s → ∀ l : Layout, s.Woven l) ∧
    (∀ (raw : Json) (t : Thresholds) (defaultMode : String) (mode : Option String)
      (prompt : String) (warnings : List Diagnostic),
      compile (Rule.table t) defaultMode mode raw = .ok (.ok prompt warnings) →
      ∃ l : Layout, l.name = effectiveMode defaultMode mode ∧ Grounded l raw prompt) := by
  constructor
  · intro raw s hs l
    exact Scene.woven_of_normalForm (Scene.wellFormed_of_ofRaw hs) (Scene.normalForm_of_ofRaw hs) l
  · intro raw t defaultMode mode prompt warnings h
    obtain ⟨l, hl⟩ := exists_layout_of_compile h
    exact ⟨l, hl, grounded_of_compile hl h⟩

/-- Raw input with blank entries in its lists, and a value that looks like a heading. -/
def parlour : Json :=
  .obj [("sceneHeart", .str " Tea is poured "), ("lens", .str "DEEP"),
    ("cast", .arr [.str " ", .obj [("name", .str "Fennel"), ("wardrobe", .str "apron ")],
      .null, .str "Moss"]),
    ("environmentAnchors", .arr [.str "kettle", .null, .str "CAST iron", .str " ", .str "rug",
      .str "sill"]),
    ("focusTarget", .str "the spout")]

/-- What it reads as. -/
def parlourScene : Scene :=
  { sceneHeart := "Tea is poured", lens := "deep"
    cast := [{ name := "Fennel", wardrobe := "apron" }, { name := "Moss" }]
    environmentAnchors := ["kettle", "", "CAST iron", "", "rug"], focusTarget := "the spout" }

/-- What is woven into the scaffold are the nine values of the parlour, in their order; a nameless
    member, a blank anchor and what stands beyond the slots leave nothing behind, and an empty part
    has no heading. -/
theorem parlour_woven :
    Scene.ofRaw parlour = .ok parlourScene ∧
      parlourScene.values = ["Tea is poured", parlourScene.lensPhrase, "Fennel", "apron", "Moss",
        "kettle", "CAST iron", "rug", "the spout"] ∧
      parlourScene.shape.scaffold .compact = ["SCENE HEART:\n", "\n\nFRAMING / LENS:\n",
        "\n\nCAST:\n- Character 1: ", " [wardrobe: ", "]\n- Character 2: ",
        "\n\nENVIRONMENT ANCHORS:\n- ", "\n- ", "\n- ", "\n\nFOCUS TARGET:\n", ""] ∧
      parlourScene.prompt .compact =
        weave (parlourScene.shape.scaffold .compact) parlourScene.values ∧
      Heading.all.filter parlourScene.says =
        [.sceneHeart, .optics, .cast, .environmentAnchors, .focusTarget] ∧
      ∃ prompt warnings,
        compile (Rule.table {}) "compact" (some "expanded") parlour = .ok (.ok prompt warnings) ∧
        Grounded .expanded parlour prompt := by
  obtain ⟨hwoven, hgrounded⟩ := prompt_woven_of_scaffold_and_values
  have hs : Scene.ofRaw parlour = .ok parlourScene := rfl
  have hprompt := (hwoven parlour parlourScene hs .compact).prompt_eq
  obtain ⟨prompt, warnings, hcompile⟩ : ∃ prompt warnings,
      compile (Rule.table {}) "compact" (some "expanded") parlour = .ok (.ok prompt warnings) :=
    ⟨_, _, rfl⟩
  obtain ⟨l, hl, hground⟩ :=
    hgrounded parlour {} "compact" (some "expanded") prompt warnings hcompile
  obtain rfl : l = .expanded := by
    cases l with
    | compact => exact absurd hl (by decide)
    | expanded => rfl
  exact ⟨hs, rfl, by decide +kernel, hprompt, by decide, prompt, warnings, hcompile, hground⟩

end ScenePrompt
