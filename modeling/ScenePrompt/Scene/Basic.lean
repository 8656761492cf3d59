/-
  Scenes.

  A scene is what a prompt is made from: a SCENE HEART (the narrative seed), a FRAMING and a LENS
  chosen by name, a CAST, five ANCHOR SLOTS naming things in the surroundings, MICRO-DETAILS, a
  MECHANIC LOCK (one cause and its visible effect) and a FOCUS TARGET.

  What is absent is the empty text or the empty list, never a separate mark.  The first three
  anchor slots are the required ones; a slot is FILLED when it holds any ink, and `filledAnchors`
  lists the filled slots in slot order.

  `Scene` itself allows any number of slots, any text for framing and lens and members without a
  name, because a program may build one by hand and the rules and the renderer have to say what
  they do with it.  `Scene.WellFormed` is what a scene read from outside satisfies: exactly five
  slots, a known or empty framing and lens, and a name for every member.
-/
import ScenePrompt.Json.Basic
import ScenePrompt.Scene.Field
import ScenePrompt.Text.Blank

namespace ScenePrompt

/-! ## Fixed numbers and choices -/

/-- The number of anchor slots. -/
def anchorSlots : Nat := 5

/-- The number of leading anchor slots that should be filled first. -/
def requiredAnchorSlots : Nat := 3

/-- The number of filled slots below which nothing is compiled. -/
def minAnchors : Nat := 3

/-- The names of the framings. -/
def framings : List String := ["tight", "medium", "wide"]

/-- The names of the lenses. -/
def lenses : List String := ["shallow", "deep"]

/-! ## Cast members and scenes -/

/-- A character placed in the scene. -/
structure CastMember where
  name : String
  description : String := ""
  wardrobe : String := ""
  deriving DecidableEq, Repr

/-- The content of a prompt. -/
structure Scene where
  sceneHeart : String := ""
  framing : String := ""
  lens : String := ""
  cast : List CastMember := []
  environmentAnchors : List String := List.replicate anchorSlots ""
  microDetails : List String := []
  mechanicLock : String := ""
  focusTarget : String := ""
  deriving DecidableEq, Repr

namespace Scene

/-- The slots that hold ink, in slot order. -/
def filledAnchors (s : Scene) : List String :=
  s.environmentAnchors.filter fun anchor => !Text.isBlankText anchor

/-- The number of slots that hold ink. -/
def filledAnchorCount (s : Scene) : Nat := s.filledAnchors.length

/-- What a scene read from outside satisfies. -/
structure WellFormed (s : Scene) : Prop where
  framing_mem : s.framing = "" ∨ s.framing ∈ framings
  lens_mem : s.lens = "" ∨ s.lens ∈ lenses
  name_ne_empty : ∀ m ∈ s.cast, m.name ≠ ""
  slots_eq : s.environmentAnchors.length = anchorSlots

instance (s : Scene) : Decidable s.WellFormed :=
  decidable_of_iff
    ((s.framing = "" ∨ s.framing ∈ framings) ∧ (s.lens = "" ∨ s.lens ∈ lenses) ∧
      (∀ m ∈ s.cast, m.name ≠ "") ∧ s.environmentAnchors.length = anchorSlots)
    ⟨fun h => ⟨h.1, h.2.1, h.2.2.1, h.2.2.2⟩, fun h => ⟨h.1, h.2, h.3, h.4⟩⟩

/-- There are no more filled slots than slots. -/
theorem filledAnchorCount_le (s : Scene) : s.filledAnchorCount ≤ s.environmentAnchors.length :=
  List.length_filter_le _ _

/-- Five slots cannot hold more than five filled ones. -/
theorem WellFormed.filledAnchorCount_le {s : Scene} (h : s.WellFormed) :
    s.filledAnchorCount ≤ anchorSlots :=
  h.slots_eq ▸ s.filledAnchorCount_le

end Scene

/-! ## Scenes as JSON values -/

/-- A cast member as an object. -/
def CastMember.toJson (m : CastMember) : Json :=
  .obj [("name", .str m.name), ("description", .str m.description), ("wardrobe", .str m.wardrobe)]

/-- A scene as an object: every field under its name. -/
def Scene.toJson (s : Scene) : Json :=
  .obj [
    (Field.sceneHeart.name, .str s.sceneHeart),
    (Field.framing.name, .str s.framing),
    (Field.lens.name, .str s.lens),
    (Field.cast.name, .arr (s.cast.map CastMember.toJson)),
    (Field.environmentAnchors.name, .texts s.environmentAnchors),
    (Field.microDetails.name, .texts s.microDetails),
    (Field.mechanicLock.name, .str s.mechanicLock),
    (Field.focusTarget.name, .str s.focusTarget)]

example : ({} : Scene).WellFormed := by decide

end ScenePrompt
