/-
  Reading a scene out of raw input.

  Raw input is any JSON value.  `Scene.ofRaw` brings it into one shape, or refuses it because a
  part of it cannot be read — never because the scene is poor, which is the rules' business:

  * nothing at all (`null`) is the empty scene; an object is read field by field; anything else is
    refused;
  * a field is the value of the LAST ENTRY under either of its spellings, and a field that is
    absent reads as `null`;
  * texts are trimmed and `null` is the empty text;
  * framing and lens are trimmed and lower-cased, and must then be empty or a known name;
  * the anchor list is cut or padded to five slots — position matters, so blanks stay where they
    are and what lies beyond the fifth slot is not even looked at;
  * cast and micro-details keep their order and lose their blank entries, although a cast entry
    that is going to be dropped must be readable too.

  The parts are read in the order of `Field.all`, so that of several faults the first in this
  order is reported.  `MalformedScene` names the fault and `MalformedScene.message` words it.
-/
import ScenePrompt.Scene.Basic
import ScenePrompt.Text.LowerCase

namespace ScenePrompt

/-! ## What can be wrong with raw input -/

/-- A place in raw input. -/
inductive Place where
  /-- a field -/
  | field (name : String)
  /-- an item of a field that is a list -/
  | item (name : String) (index : Nat)
  /-- a part of an item -/
  | part (name : String) (index : Nat) (key : String)
  deriving DecidableEq, Repr

/-- A place as messages write it. -/
def Place.text : Place → String
  | .field name => name
  | .item name i => name ++ "[" ++ toString i ++ "]"
  | .part name i key => name ++ "[" ++ toString i ++ "]." ++ key

/-- Why raw input cannot be read. -/
inductive MalformedScene where
  /-- the input as a whole is no object -/
  | notObject (found : Json.Kind)
  /-- a text was expected -/
  | notText (place : Place) (found : Json.Kind)
  /-- a list was expected -/
  | notList (place : Place) (found : Json.Kind)
  /-- a cast entry is neither a name nor an object -/
  | notCastEntry (place : Place) (found : Json.Kind)
  /-- a name is none of the known ones -/
  | notChoice (place : Place) (known : List String) (given : String)
  deriving DecidableEq, Repr

/-- The wording of a fault. -/
def MalformedScene.message : MalformedScene → String
  | .notObject k => "Scene input must be a mapping, got " ++ k.name
  | .notText p k => p.text ++ " must be a string or null, got " ++ k.name
  | .notList p k => p.text ++ " must be a list, got " ++ k.name
  | .notCastEntry p k => p.text ++ " must be a string or an object, got " ++ k.name
  | .notChoice p known given =>
    p.text ++ " must be one of " ++ String.intercalate ", " known ++ "; got '" ++ given ++ "'"

/-- The result of reading a part of raw input. -/
abbrev Reading := Except MalformedScene

namespace Reading

/-! ## Parts -/

/-- A text, trimmed; nothing is the empty text. -/
def text (place : Place) : Json → Reading String
  | .null => .ok ""
  | .str s => .ok (Text.trim s)
  | v => .error (.notText place v.kind)

/-- The items of a list; nothing is the empty list. -/
def list (place : Place) : Json → Reading (List Json)
  | .null => .ok []
  | .arr items => .ok items
  | v => .error (.notList place v.kind)

/-- One of the known names, in any letter case, or no name. -/
def choice (place : Place) (known : List String) (v : Json) : Reading String := do
  let given := Text.lower (← text place v)
  if given = "" ∨ given ∈ known then .ok given else .error (.notChoice place known given)

/-- Read the items of the list field `name` as texts, the first of them being number `i`. -/
def textsFrom (name : String) : Nat → List Json → Reading (List String)
  | _, [] => .ok []
  | i, v :: vs => do
    let s ← text (.item name i) v
    let rest ← textsFrom name (i + 1) vs
    .ok (s :: rest)

/-! ## Anchors -/

/-- The items that belong into slots: the first `slots`, or, if the number is negative, all but
    that many at the end. -/
def slotted (slots : Int) (items : List Json) : List Json :=
  if 0 ≤ slots then items.take slots.toNat else items.take (items.length - (-slots).toNat)

/-- The anchor slots: cut to the number of slots, or padded with empty ones. -/
def anchors (slots : Int) (v : Json) : Reading (List String) := do
  let items ← list (.field Field.environmentAnchors.name) v
  let filled ← textsFrom Field.environmentAnchors.name 0 (slotted slots items)
  .ok (filled ++ List.replicate (slots - filled.length).toNat "")

/-! ## Micro-details -/

/-- The micro-details that are not blank. -/
def microDetails (v : Json) : Reading (List String) := do
  let items ← list (.field Field.microDetails.name) v
  let details ← textsFrom Field.microDetails.name 0 items
  .ok (details.filter (· ≠ ""))

/-! ## Cast -/

/-- A part of a cast entry that is an object. -/
def castPart (i : Nat) (entries : Entries) (key : String) : Reading String :=
  text (.part Field.cast.name i key) ((entries.get? key).getD .null)

/-- A cast entry: a name alone, or an object with a name and further parts.  Its name may turn out
    empty. -/
def castEntry (i : Nat) : Json → Reading CastMember
  | .null => .ok { name := "" }
  | .str s => .ok { name := Text.trim s }
  | .obj entries => do
    let name ← castPart i entries "name"
    let description ← castPart i entries "description"
    let wardrobe ← castPart i entries "wardrobe"
    .ok { name, description, wardrobe }
  | v => .error (.notCastEntry (.item Field.cast.name i) v.kind)

/-- Read cast entries, the first of them being number `i`. -/
def castFrom : Nat → List Json → Reading (List CastMember)
  | _, [] => .ok []
  | i, v :: vs => do
    let m ← castEntry i v
    let rest ← castFrom (i + 1) vs
    .ok (m :: rest)

/-- The cast members that have a name. -/
def cast (v : Json) : Reading (List CastMember) := do
  let items ← list (.field Field.cast.name) v
  let members ← castFrom 0 items
  .ok (members.filter (·.name ≠ ""))

end Reading

/-! ## Whole scenes -/

/-- The entries of raw input; nothing has none. -/
def rawEntries : Json → Reading Entries
  | .null => .ok []
  | .obj entries => .ok entries
  | v => .error (.notObject v.kind)

/-- The value of a field: that of the last entry under either spelling, or nothing. -/
def Field.rawValue (f : Field) (entries : Entries) : Json :=
  (entries.lastOf f.isSpelling).getD .null

/-- A scene from the entries of raw input. -/
def Scene.ofEntries (entries : Entries) : Reading Scene := do
  -- one part after another, in the order of `Field.all`: the first fault is the one reported
  let textOf (f : Field) := Reading.text (.field f.name) (f.rawValue entries)
  let sceneHeart ← textOf .sceneHeart
  let framing ← Reading.choice (.field Field.framing.name) framings
    (Field.framing.rawValue entries)
  let lens ← Reading.choice (.field Field.lens.name) lenses (Field.lens.rawValue entries)
  let cast ← Reading.cast (Field.cast.rawValue entries)
  let environmentAnchors ← Reading.anchors anchorSlots (Field.environmentAnchors.rawValue entries)
  let microDetails ← Reading.microDetails (Field.microDetails.rawValue entries)
  let mechanicLock ← textOf .mechanicLock
  let focusTarget ← textOf .focusTarget
  .ok { sceneHeart, framing, lens, cast, environmentAnchors, microDetails, mechanicLock,
        focusTarget }

/-- A scene from raw input. -/
def Scene.ofRaw (raw : Json) : Reading Scene := do
  Scene.ofEntries (← rawEntries raw)

/-- A scene read once more: trimmed, cut and stripped of blank entries. -/
def Scene.renormalize (s : Scene) : Reading Scene := Scene.ofRaw s.toJson

end ScenePrompt
