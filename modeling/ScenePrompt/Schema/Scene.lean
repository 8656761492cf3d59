/-
  The schema of scenes.

  A scene that comes as an object with every field in its final form — from a store, or from
  another program — is not read leniently but held against a schema: texts must be texts, framing
  and lens known or empty, the cast an array of objects that each have a name, the anchors an
  array of exactly five texts.  Nothing is trimmed and only the fields' names are keys.

  A well-formed scene written as an object is accepted and read back unchanged (`check_toJson`).
-/
import ScenePrompt.Scene.Basic
import ScenePrompt.Schema.Check

namespace ScenePrompt

open Schema Checked

/-! ## Parts -/

/-- Choices as a path writes them. -/
def choiceStep (choices : List String) : Step :=
  .key ("literal[" ++ String.intercalate "," (choices.map fun c => "'" ++ c ++ "'") ++ "]")

/-- One of the choices, or the empty text.  A value that is neither is reported twice: it is none
    of the choices, and it is not empty either. -/
def choiceOrEmpty (choices : List String) (v : Json) : Checked String :=
  let refused : Checked String := .error
    [{ cause := .notChoice choices, path := [choiceStep choices] },
     { cause := .notChoice [""], path := [choiceStep [""]] }]
  match v with
  | .str s => if s ∈ choices ∨ s = "" then .ok s else refused
  | _ => refused

/-- Hold an object against the schema of cast members. -/
def CastMember.check (v : Json) : Checked CastMember :=
  object .named "CastMember" (fun entries =>
    ap (ap (
      (requiredEntry entries ["name"] nonemptyText).map fun name description wardrobe =>
        { name, description, wardrobe })
      (optionalEntry entries ["description"] "" text))
      (optionalEntry entries ["wardrobe"] "" text)) v

/-! ## Scenes -/

/-- Hold an object against the schema of scenes. -/
def Scene.check (v : Json) : Checked Scene :=
  object .named "SceneRecord" (fun entries =>
    let entry {α : Type} (f : Field) (default : α) (check : Check α) :=
      optionalEntry entries [f.name] default check
    ap (ap (ap (ap (ap (ap (ap (
      (entry .sceneHeart "" text).map Scene.mk)
      (entry .framing "" (choiceOrEmpty framings)))
      (entry .lens "" (choiceOrEmpty lenses)))
      (entry .cast [] (tupleOf CastMember.check)))
      (entry .environmentAnchors (List.replicate anchorSlots "")
        (tupleOfSize anchorSlots text)))
      (entry .microDetails [] (tupleOf text)))
      (entry .mechanicLock "" text))
      (entry .focusTarget "" text)) v

/-! ## What is written is read back -/

/-- Texts are read as the texts that they are. -/
theorem eachFrom_texts (i : Nat) (xs : List String) :
    eachFrom text i (xs.map Json.str) = .ok xs :=
  eachFrom_eq_ok_iff.2 (by rw [List.map_map]; rfl)

/-- One of the choices is let through, and so is the empty text. -/
theorem choiceOrEmpty_of_mem {choices : List String} {s : String} (h : s = "" ∨ s ∈ choices) :
    choiceOrEmpty choices (.str s) = .ok s := by
  simp [choiceOrEmpty, h.symm]

/-- A cast member with a name is read back as it was written. -/
theorem CastMember.check_toJson {m : CastMember} (h : m.name ≠ "") :
    CastMember.check m.toJson = .ok m := by
  simp [CastMember.check, CastMember.toJson, object, requiredEntry, optionalEntry,
    Entries.firstPresent?, Entries.get?, Entries.lastOf, text, nonemptyText, h, Except.map]

/-- A well-formed scene written as an object is read back unchanged. -/
theorem Scene.check_toJson {s : Scene} (h : s.WellFormed) : Scene.check s.toJson = .ok s := by
  have hcast : eachFrom CastMember.check 0 (s.cast.map CastMember.toJson) = .ok s.cast := by
    rw [eachFrom_eq_ok_iff, List.map_map]
    exact List.map_congr_left fun m hm => CastMember.check_toJson (h.name_ne_empty m hm)
  have hslots := h.slots_eq
  have hframing := choiceOrEmpty_of_mem h.framing_mem
  have hlens := choiceOrEmpty_of_mem h.lens_mem
  simp [Scene.check, Scene.toJson, object, optionalEntry, Entries.firstPresent?, Entries.get?,
    Entries.lastOf, Field.name, text, tupleOf, arrayOf, tupleOfSize, Json.texts, hcast,
    eachFrom_texts, hframing, hlens, hslots, missingFrom, Except.map]

end ScenePrompt
