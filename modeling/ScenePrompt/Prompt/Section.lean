/-
  The sections of a prompt.

  A prompt is made of up to seven sections in a fixed order, each under a heading of its own and
  each present only when there is something to say under it.  Nothing is added to what the scene
  says, apart from two fixed phrases that spell out the framing and the lens; a framing or lens
  without a phrase says nothing.

  A section's BODY is one text: the field itself where it is a text, one line per item where it is
  a list.  Cast members are numbered from one in the order of the cast.
-/
import ScenePrompt.Scene.Basic

namespace ScenePrompt

/-! ## Headings -/

/-- The headings of a prompt. -/
inductive Heading where
  | sceneHeart | optics | cast | environmentAnchors | microDetails | mechanicLock | focusTarget
  deriving DecidableEq, Repr

namespace Heading

/-- The headings in the order in which they are printed. -/
def all : List Heading :=
  [sceneHeart, optics, cast, environmentAnchors, microDetails, mechanicLock, focusTarget]

/-- The text of a heading. -/
def label : Heading → String
  | sceneHeart => "SCENE HEART"
  | optics => "FRAMING / LENS"
  | cast => "CAST"
  | environmentAnchors => "ENVIRONMENT ANCHORS"
  | microDetails => "MICRO-DETAILS"
  | mechanicLock => "MECHANIC LOCK"
  | focusTarget => "FOCUS TARGET"

end Heading

/-- A heading and what stands under it. -/
structure Section where
  heading : Heading
  body : String
  deriving DecidableEq, Repr

/-! ## Fixed phrases -/

/-- What each framing means for the picture. -/
def framingPhrases : List (String × String) :=
  [("tight",
    "Tight close-up; eyes are the sharp focus; keep facial expression fully visible; " ++
    "simplified background; avoid awkward cropping of chin/forehead"),
   ("medium",
    "Waist-up framing; hands visible if relevant; clear silhouette; " ++
    "environment present but secondary"),
   ("wide",
    "Wide scene; full bodies plus environment; anchors clearly visible; readable action; " ++
    "foreground/midground/background separation")]

/-- What each lens means for the picture. -/
def lensPhrases : List (String × String) :=
  [("shallow", "Shallow depth of field; focus subject crisp, background softly blurred"),
   ("deep", "Deep depth of field; foreground through background held in sharp focus")]

/-! ## Bodies -/

/-- An item of a list, as a line. -/
def bullet (item : String) : String := "- " ++ item

/-- A cast member as a line, with its number. -/
def castLine (number : Nat) (m : CastMember) : String :=
  "- Character " ++ toString number ++ ": " ++ m.name ++
    (if m.description = "" then "" else ", " ++ m.description) ++
    (if m.wardrobe = "" then "" else " [wardrobe: " ++ m.wardrobe ++ "]")

/-- The lines of cast members, the first of them having the given number. -/
def castLines : Nat → List CastMember → List String
  | _, [] => []
  | number, m :: ms => castLine number m :: castLines (number + 1) ms

/-- Lines, one under another. -/
def lines (ls : List String) : String := String.intercalate "\n" ls

/-- The phrases for the framing and the lens, as far as they have one. -/
def Scene.opticsPhrases (s : Scene) : List String :=
  (framingPhrases.lookup s.framing).toList ++ (lensPhrases.lookup s.lens).toList

/-! ## Sections of a scene -/

/-- A section with one text, if there is any. -/
def textSection (heading : Heading) (text : String) : List Section :=
  if text = "" then [] else [{ heading, body := text }]

/-- A section with one line per item, if there are any. -/
def listSection (heading : Heading) (ls : List String) : List Section :=
  if ls = [] then [] else [{ heading, body := lines ls }]

/-- The sections of a scene, in the order of the headings. -/
def Scene.sections (s : Scene) : List Section :=
  textSection .sceneHeart s.sceneHeart ++
  listSection .optics s.opticsPhrases ++
  listSection .cast (castLines 1 s.cast) ++
  listSection .environmentAnchors (s.filledAnchors.map bullet) ++
  listSection .microDetails (s.microDetails.map bullet) ++
  textSection .mechanicLock s.mechanicLock ++
  textSection .focusTarget s.focusTarget

end ScenePrompt
