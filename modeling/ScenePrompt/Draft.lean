/-
  Drafts: scenes as the editor sends them.

  While a scene is being written most of it is missing, and that is fine: in a draft every field
  may be absent or null.  A draft's schema is loose about content — texts are not trimmed, framing
  and lens may be any text, there may be any number of anchors — and strict about shape, because
  the editor never sends a number where a text belongs.

  A cast entry is a name alone or an object.  An entry that is neither is reported twice, once for
  each way in which it might have been meant.

  Fields with two spellings are looked for under their name first and under the editor's spelling
  second; the first that is present decides.

  `SceneDraft.toJson` writes a draft with every field under its name, absent ones as null.  Read
  as raw input this gives the scene that the editor meant.
-/
import ScenePrompt.Prompt.Layout
import ScenePrompt.Schema.Check

namespace ScenePrompt

open Schema Checked

/-! ## Cast entries -/

/-- A cast member as the editor sends it. -/
structure CastDraft where
  name : Option String := none
  description : Option String := none
  wardrobe : Option String := none
  deriving DecidableEq, Repr

/-- A cast entry: a name alone, or an object. -/
inductive CastEntry where
  | name (s : String)
  | member (d : CastDraft)
  deriving DecidableEq, Repr

/-- A cast member's draft as an object. -/
def CastDraft.toJson (d : CastDraft) : Json :=
  .obj [("name", .text? d.name), ("description", .text? d.description),
    ("wardrobe", .text? d.wardrobe)]

/-- A cast entry as a value. -/
def CastEntry.toJson : CastEntry → Json
  | name s => .str s
  | member d => d.toJson

/-- Hold an object against the schema of cast members' drafts. -/
def CastDraft.check (style : ObjectStyle) : Check CastDraft :=
  object style "CastMemberInput" fun entries =>
    ap (ap (
      (optionalEntry entries ["name"] none (nullable text)).map CastDraft.mk)
      (optionalEntry entries ["description"] none (nullable text)))
      (optionalEntry entries ["wardrobe"] none (nullable text))

/-- Hold a value against the schema of cast entries. -/
def CastEntry.check (style : ObjectStyle) : Check CastEntry
  | .str s => .ok (.name s)
  | v => match CastDraft.check style v with
    | .ok d => .ok (.member d)
    -- it is no text either, which is said first
    | .error vs => .error
      ({ cause := .notString, path := [.key "str"] } ::
        vs.map (Violation.under (.key "CastMemberInput")))

/-! ## Scenes -/

/-- A scene as the editor sends it. -/
structure SceneDraft where
  sceneHeart : Option String := none
  framing : Option String := none
  lens : Option String := none
  cast : Option (List CastEntry) := none
  environmentAnchors : Option (List (Option String)) := none
  microDetails : Option (List String) := none
  mechanicLock : Option String := none
  focusTarget : Option String := none
  deriving DecidableEq, Repr

namespace SceneDraft

/-- A list, or null where there is none. -/
def listJson {α : Type} (item : α → Json) : Option (List α) → Json
  | none => .null
  | some xs => .arr (xs.map item)

/-- A draft as an object: every field under its name. -/
def toJson (d : SceneDraft) : Json :=
  .obj [
    (Field.sceneHeart.name, .text? d.sceneHeart),
    (Field.framing.name, .text? d.framing),
    (Field.lens.name, .text? d.lens),
    (Field.cast.name, listJson CastEntry.toJson d.cast),
    (Field.environmentAnchors.name, listJson Json.text? d.environmentAnchors),
    (Field.microDetails.name, listJson Json.str d.microDetails),
    (Field.mechanicLock.name, .text? d.mechanicLock),
    (Field.focusTarget.name, .text? d.focusTarget)]

/-- An optional field under either of its spellings. -/
def entry {α : Type} (entries : Entries) (f : Field) (check : Check α) : Checked (Option α) :=
  optionalEntry entries f.spellings none (nullable check)

/-- Hold an object against the schema of drafts. -/
def check (style : ObjectStyle) : Check SceneDraft :=
  object style "SceneInput" fun entries =>
    ap (ap (ap (ap (ap (ap (ap (
      (entry entries .sceneHeart text).map SceneDraft.mk)
      (entry entries .framing text))
      (entry entries .lens text))
      (entry entries .cast (listOf (CastEntry.check style))))
      (entry entries .environmentAnchors (listOf (nullable text))))
      (entry entries .microDetails (listOf text)))
      (entry entries .mechanicLock text))
      (entry entries .focusTarget text)

end SceneDraft

/-! ## Requests to compile -/

/-- A scene to compile and the layout to use; without one the configured default is used. -/
structure CompileRequest where
  scene : SceneDraft := {}
  outputMode : Option Layout := none
  deriving DecidableEq, Repr

namespace CompileRequest

/-- The name of the layout asked for. -/
def modeName (r : CompileRequest) : Option String := r.outputMode.map Layout.name

/-- A request as an object. -/
def toJson (r : CompileRequest) : Json :=
  .obj [("scene", r.scene.toJson), ("output_mode", .text? r.modeName)]

/-- Hold an object against the schema of requests. -/
def check (style : ObjectStyle) : Check CompileRequest :=
  object style "CompileRequest" fun entries =>
    ap ((optionalEntry entries ["scene"] {} (SceneDraft.check style)).map CompileRequest.mk)
      (optionalEntry entries ["output_mode", "outputMode"] none (nullable (oneOf Layout.named)))

end CompileRequest

end ScenePrompt
