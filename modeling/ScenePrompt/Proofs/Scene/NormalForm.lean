/-
  Scenes in normal form.

  A scene is in NORMAL FORM when nothing in it would change if it were read once more: every text is
  its own trim, and no micro-detail and no name of a cast member is empty.  Anchor slots may be
  empty, since a blank slot keeps its place, and framing and lens need no mention, since a
  well-formed scene has them lower-cased and trimmed already.

  The scenes in normal form are exactly those that reading gives, and exactly those that a second
  reading leaves alone.  The circle is short.  Content is in normal form whatever it was taken from
  (`content_normalForm`).  A scene written as an object has each field under its name
  (`rawValue_toJson`) and in an acceptable shape (`accepts_value`); and what is written in normal
  form has itself as its content (`content_toJson`), because trimming a trimmed text, dropping
  blanks where there are none and padding five slots to five all do nothing.

  So reading twice is reading once, and whatever is done with a scene that was read — compiling it,
  under any rules and in any layout — may as well be done with the scene written out again.
-/
import ScenePrompt.Compile
import ScenePrompt.Proofs.Scene.Acceptance
import ScenePrompt.Proofs.Schema.Scene

namespace ScenePrompt

open Reading

/-! ## Normal form -/

/-- The name, description and wardrobe are trimmed, and there is a name. -/
structure CastMember.NormalForm (m : CastMember) : Prop where
  name_trimmed : Text.trim m.name = m.name
  name_ne_empty : m.name ≠ ""
  description_trimmed : Text.trim m.description = m.description
  wardrobe_trimmed : Text.trim m.wardrobe = m.wardrobe

/-- All texts are trimmed, and no micro-detail and no name in the cast is empty. -/
structure Scene.NormalForm (s : Scene) : Prop where
  sceneHeart_trimmed : Text.trim s.sceneHeart = s.sceneHeart
  mechanicLock_trimmed : Text.trim s.mechanicLock = s.mechanicLock
  focusTarget_trimmed : Text.trim s.focusTarget = s.focusTarget
  anchors_trimmed : ∀ a ∈ s.environmentAnchors, Text.trim a = a
  details_trimmed : ∀ d ∈ s.microDetails, Text.trim d = d
  details_ne_empty : ∀ d ∈ s.microDetails, d ≠ ""
  cast_normalForm : ∀ m ∈ s.cast, m.NormalForm

instance (m : CastMember) : Decidable m.NormalForm :=
  decidable_of_iff
    (Text.trim m.name = m.name ∧ m.name ≠ "" ∧ Text.trim m.description = m.description ∧
      Text.trim m.wardrobe = m.wardrobe)
    ⟨fun h => ⟨h.1, h.2.1, h.2.2.1, h.2.2.2⟩, fun h => ⟨h.1, h.2, h.3, h.4⟩⟩

instance (s : Scene) : Decidable s.NormalForm :=
  decidable_of_iff
    (Text.trim s.sceneHeart = s.sceneHeart ∧ Text.trim s.mechanicLock = s.mechanicLock ∧
      Text.trim s.focusTarget = s.focusTarget ∧ (∀ a ∈ s.environmentAnchors, Text.trim a = a) ∧
      (∀ d ∈ s.microDetails, Text.trim d = d) ∧ (∀ d ∈ s.microDetails, d ≠ "") ∧
      ∀ m ∈ s.cast, m.NormalForm)
    ⟨fun h => ⟨h.1, h.2.1, h.2.2.1, h.2.2.2.1, h.2.2.2.2.1, h.2.2.2.2.2.1, h.2.2.2.2.2.2⟩,
      fun h => ⟨h.1, h.2, h.3, h.4, h.5, h.6, h.7⟩⟩

/-! ## Content is in normal form -/

/-- What a cast entry comes to is in normal form, if there is a name in it at all. -/
theorem CastMember.content_normalForm {v : Json} (hname : (CastMember.content v).name ≠ "") :
    (CastMember.content v).NormalForm := by
  cases v with
  | obj entries =>
    exact ⟨((Json.obj entries).part "name").trim_trimmed, hname,
      ((Json.obj entries).part "description").trim_trimmed,
      ((Json.obj entries).part "wardrobe").trim_trimmed⟩
  | str s => exact ⟨Text.trim_trim s, hname, Text.trim_empty, Text.trim_empty⟩
  | _ => exact absurd rfl hname

/-- What is read is in normal form, whatever it was read from. -/
theorem Scene.content_normalForm (entries : Entries) : (Scene.content entries).NormalForm := by
  refine ⟨?_, ?_, ?_, ?_, ?_, ?_, ?_⟩
  · exact (Field.sceneHeart.rawValue entries).trim_trimmed
  · exact (Field.mechanicLock.rawValue entries).trim_trimmed
  · exact (Field.focusTarget.rawValue entries).trim_trimmed
  · intro a ha
    rcases List.mem_append.1 ha with ha | ha
    · obtain ⟨v, -, rfl⟩ := List.mem_map.1 ha
      exact v.trim_trimmed
    · -- padding
      rw [List.eq_of_mem_replicate ha]
      exact Text.trim_empty
  · intro d hd
    obtain ⟨v, -, rfl⟩ := List.mem_map.1 (List.mem_filter.1 hd).1
    exact v.trim_trimmed
  · intro d hd
    simpa using (List.mem_filter.1 hd).2
  · intro m hm
    obtain ⟨hmem, hname⟩ := List.mem_filter.1 hm
    obtain ⟨v, -, rfl⟩ := List.mem_map.1 hmem
    exact CastMember.content_normalForm (by simpa using hname)

/-! ## A scene written out -/

/-- The value of a field as a scene is written. -/
def Scene.value (s : Scene) (f : Field) : Json :=
  match f with
  | .sceneHeart => .str s.sceneHeart
  | .framing => .str s.framing
  | .lens => .str s.lens
  | .cast => .arr (s.cast.map CastMember.toJson)
  | .environmentAnchors => .texts s.environmentAnchors
  | .microDetails => .texts s.microDetails
  | .mechanicLock => .str s.mechanicLock
  | .focusTarget => .str s.focusTarget

/-- A field's name is a spelling of no other field. -/
theorem Field.isSpelling_name (f g : Field) : f.isSpelling g.name = decide (f = g) := by
  by_cases h : f = g
  · subst h
    simp [isSpelling, name_mem_spellings]
  · have hnot : g.name ∉ f.spellings := by
      intro hmem
      have hf := spelled?_of_mem_spellings hmem
      have hg := spelled?_of_mem_spellings g.name_mem_spellings
      rw [hf] at hg
      exact h (Option.some.inj hg)
    simp [isSpelling, hnot, h]

/-- Where every field stands under its name, it is found there. -/
theorem Field.rawValue_map_all (value : Field → Json) (f : Field) :
    f.rawValue (Field.all.map fun g => (g.name, value g)) = value f := by
  simp only [rawValue, all, List.map_cons, List.map_nil, Entries.lastOf, isSpelling_name]
  cases f <;> simp

theorem Scene.rawValue_toJson (s : Scene) (f : Field) :
    f.rawValue s.toJson.entries = s.value f :=
  f.rawValue_map_all s.value

/-- A well-formed scene is written in acceptable shapes, in normal form or not. -/
theorem Scene.accepts_value {s : Scene} (h : s.WellFormed) (f : Field) :
    f.Accepts (s.value f) := by
  -- trimming and lower-casing a known name gives a known name, which is checked name by name
  have hchoice : ∀ (known : List String) (name : String), name = "" ∨ name ∈ known →
      (∀ k ∈ known, Text.lower (Text.trim k) ∈ known) → (Json.str name).IsChoice known := by
    intro known name hname hknown
    refine Or.inr ⟨name, rfl, ?_⟩
    rcases hname with rfl | hmem
    · exact Or.inl rfl
    · exact Or.inr (hknown name hmem)
  have htexts : ∀ xs : List String, ∀ v ∈ xs.map Json.str, v.IsText := by
    intro xs v hv
    obtain ⟨x, -, rfl⟩ := List.mem_map.1 hv
    exact Or.inr ⟨x, rfl⟩
  cases f with
  | sceneHeart | mechanicLock | focusTarget => exact Or.inr ⟨_, rfl⟩
  | framing => exact hchoice _ _ h.framing_mem (by decide +kernel)
  | lens => exact hchoice _ _ h.lens_mem (by decide +kernel)
  | cast =>
    refine Or.inr ⟨_, rfl, ?_⟩
    intro v hv
    obtain ⟨m, -, rfl⟩ := List.mem_map.1 hv
    exact Or.inr (Or.inr ⟨_, rfl, Or.inr ⟨_, rfl⟩, Or.inr ⟨_, rfl⟩, Or.inr ⟨_, rfl⟩⟩)
  | environmentAnchors =>
    exact Or.inr ⟨_, rfl, fun v hv => htexts _ v (List.mem_of_mem_take hv)⟩
  | microDetails => exact Or.inr ⟨_, rfl, htexts _⟩

/-- So a well-formed scene that was written out can be read; it need not be read as itself. -/
theorem Scene.acceptable_toJson {s : Scene} (h : s.WellFormed) : Acceptable s.toJson := by
  refine Or.inr ⟨s.toJson.entries, rfl, ?_⟩
  intro f
  rw [s.rawValue_toJson]
  exact Scene.accepts_value h f

/-! ## What is written in normal form has itself as its content -/

/-- A member in normal form is written as something that comes to it. -/
theorem CastMember.content_toJson {m : CastMember} (h : m.NormalForm) :
    CastMember.content m.toJson = m := by
  obtain ⟨name, description, wardrobe⟩ := m
  show CastMember.mk (Text.trim name) (Text.trim description) (Text.trim wardrobe) = _
  rw [h.name_trimmed, h.description_trimmed, h.wardrobe_trimmed]

/-- Trimming texts that are trimmed does nothing to a list of them. -/
theorem map_trimmed_texts {xs : List String} (h : ∀ x ∈ xs, Text.trim x = x) :
    (xs.map Json.str).map Json.trimmed = xs := by
  rw [List.map_map]
  exact (List.map_congr_left h).trans (List.map_id xs)

/-- Of a framing or a lens there is nothing to lower or trim, nor of the absence of one. -/
theorem lower_trim_eq_self {known : List String} {name : String}
    (hknown : ∀ k ∈ known, Text.lower (Text.trim k) = k) (h : name = "" ∨ name ∈ known) :
    Text.lower (Text.trim name) = name := by
  rcases h with rfl | hmem
  · rfl
  · exact hknown name hmem

/-- A well-formed scene in normal form has itself as its content. -/
theorem Scene.content_toJson {s : Scene} (hwell : s.WellFormed) (h : s.NormalForm) :
    Scene.content s.toJson.entries = s := by
  have hframing : Text.lower (Text.trim s.framing) = s.framing :=
    lower_trim_eq_self (by decide +kernel) hwell.framing_mem
  have hlens : Text.lower (Text.trim s.lens) = s.lens :=
    lower_trim_eq_self (by decide +kernel) hwell.lens_mem
  -- field by field: there is nothing to trim, to drop or to pad
  have hcast : (s.cast.map CastMember.toJson).map CastMember.content = s.cast := by
    rw [List.map_map]
    exact (List.map_congr_left fun m hm => CastMember.content_toJson (h.cast_normalForm m hm)).trans
      (List.map_id _)
  have hnames : s.cast.filter (·.name ≠ "") = s.cast := by
    refine List.filter_eq_self.2 ?_
    intro m hm
    simpa using (h.cast_normalForm m hm).name_ne_empty
  have hanchors : ((s.environmentAnchors.map Json.str).take anchorSlots).map Json.trimmed =
      s.environmentAnchors := by
    have hlength : (s.environmentAnchors.map Json.str).length = anchorSlots := by
      rw [List.length_map, hwell.slots_eq]
    rw [List.take_of_length_le (Nat.le_of_eq hlength)]
    exact map_trimmed_texts h.anchors_trimmed
  have hpadding : List.replicate (anchorSlots - s.environmentAnchors.length) "" = [] := by
    rw [hwell.slots_eq]
    rfl
  have hdetails : s.microDetails.filter (· ≠ "") = s.microDetails := by
    refine List.filter_eq_self.2 ?_
    intro d hd
    simpa using h.details_ne_empty d hd
  simp only [Scene.content, Scene.rawValue_toJson, Scene.value, Json.trimmed_str, Json.items_arr,
    Json.items_texts]
  rw [h.sceneHeart_trimmed, hframing, hlens, hcast, hnames, hanchors, hpadding, List.append_nil,
    map_trimmed_texts h.details_trimmed, hdetails, h.mechanicLock_trimmed, h.focusTarget_trimmed]

/-! ## The circle -/

/-- A second reading reads a well-formed scene in normal form as it stands. -/
theorem Scene.renormalize_of_normalForm {s : Scene} (hwell : s.WellFormed) (h : s.NormalForm) :
    s.renormalize = .ok s :=
  Scene.ofRaw_eq_ok_iff.2 ⟨Scene.acceptable_toJson hwell, Scene.content_toJson hwell h⟩

theorem Scene.normalForm_of_ofRaw {raw : Json} {s : Scene} (h : Scene.ofRaw raw = .ok s) :
    s.NormalForm := by
  obtain ⟨-, rfl⟩ := Scene.ofRaw_eq_ok_iff.1 h
  exact Scene.content_normalForm _

/-- **Reading twice is reading once.** -/
theorem Scene.renormalize_of_ofRaw {raw : Json} {s : Scene} (h : Scene.ofRaw raw = .ok s) :
    s.renormalize = .ok s :=
  Scene.renormalize_of_normalForm (Scene.wellFormed_of_ofRaw h) (Scene.normalForm_of_ofRaw h)

/-- **The image of reading.**  Among the scenes that the schema accepts, those that some raw input
    reads as are the ones in normal form, and these are the ones that a second reading leaves
    alone.  Hence a scene that was read may be written out and read again, and compiles, under any
    rules and in any layout, as the raw input does. -/
theorem Scene.ofRaw_image_eq_normalForm :
    (∀ s : Scene, (∃ v, Scene.check v = .ok s) →
      ((∃ raw, Scene.ofRaw raw = .ok s) ↔ s.NormalForm) ∧
      (s.NormalForm ↔ s.renormalize = .ok s)) ∧
    (∀ (raw : Json) (s : Scene), Scene.ofRaw raw = .ok s →
      s.renormalize = .ok s ∧
      ∀ (rules : List Rule) (defaultMode : String) (mode : Option String),
        compile rules defaultMode mode s.toJson = compile rules defaultMode mode raw) := by
  constructor
  · intro s hs
    have hwell : s.WellFormed := Scene.exists_check_eq_ok_iff.1 hs
    refine ⟨⟨?_, ?_⟩, ⟨?_, ?_⟩⟩
    · rintro ⟨raw, hraw⟩
      exact Scene.normalForm_of_ofRaw hraw
    · intro hnormal
      exact ⟨s.toJson, Scene.renormalize_of_normalForm hwell hnormal⟩
    · intro hnormal
      exact Scene.renormalize_of_normalForm hwell hnormal
    · intro hfixed
      have hread : Scene.ofRaw s.toJson = .ok s := hfixed
      exact Scene.normalForm_of_ofRaw hread
  · intro raw s hraw
    have hfixed : Scene.ofRaw s.toJson = .ok s := Scene.renormalize_of_ofRaw hraw
    refine ⟨hfixed, ?_⟩
    intro rules defaultMode mode
    unfold compile
    rw [hfixed, hraw]

/-- Raw input with blanks around its texts and blank entries in its lists. -/
def ragged : Json :=
  .obj [("framing", .str " WIDE\n"), ("cast", .arr [.null, .str " Fennel ", .str "\t"]),
    ("microDetails", .arr [.str " ", .str "dust "]),
    ("environmentAnchors", .arr [.str " ", .str " lamp"])]

/-- What it reads as. -/
def tidy : Scene :=
  { framing := "wide", cast := [{ name := "Fennel" }], microDetails := ["dust"]
    environmentAnchors := ["", "lamp", "", "", ""] }

/-- A scene that the schema accepts, although nothing reads as it. -/
def untidy : Scene := { microDetails := ["dust "] }

/-- Blanks, blank names and blank details are gone after one reading, and a second one finds nothing
    to do.  A detail with a blank behind it gets through the schema, but nothing reads as it. -/
theorem ragged_reads_tidy :
    Scene.ofRaw ragged = .ok tidy ∧ tidy.NormalForm ∧ tidy.renormalize = .ok tidy ∧
      compile [] "compact" none tidy.toJson = compile [] "compact" none ragged ∧
      Scene.check untidy.toJson = .ok untidy ∧ (¬ ∃ raw, Scene.ofRaw raw = .ok untidy) ∧
      ¬ untidy.renormalize = .ok untidy := by
  obtain ⟨himage, htwice⟩ := Scene.ofRaw_image_eq_normalForm
  have hread : Scene.ofRaw ragged = .ok tidy := rfl
  obtain ⟨hfixed, hcompile⟩ := htwice ragged tidy hread
  obtain ⟨hnormal, -⟩ := himage tidy ⟨tidy.toJson, rfl⟩
  have huntidy : Scene.check untidy.toJson = .ok untidy := rfl
  obtain ⟨hraw, hagain⟩ := himage untidy ⟨_, huntidy⟩
  have hnot : ¬ untidy.NormalForm := by decide +kernel
  exact ⟨hread, hnormal.1 ⟨_, hread⟩, hfixed, hcompile [] "compact" none, huntidy,
    fun h => hnot (hraw.1 h), fun h => hnot (hagain.2 h)⟩

end ScenePrompt
