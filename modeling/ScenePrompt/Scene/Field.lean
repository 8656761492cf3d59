/-
  The fields of a scene and the spellings of their keys.

  A scene has eight fields.  Each has a NAME, in which it is written and spoken of, and five of
  them have a second spelling that the editor uses: the words of the name run together with
  capitals (`sceneHeart` for `scene_heart`).  Where both spellings may occur, they mean the same
  field, and `Field.spelled?` says which field a key means.

  Each of its spellings determines the field (`spelled?_of_mem_spellings`): no key means two fields.
-/

namespace ScenePrompt

/-- A field of a scene. -/
inductive Field where
  | sceneHeart | framing | lens | cast | environmentAnchors | microDetails | mechanicLock
  | focusTarget
  deriving DecidableEq, Repr

namespace Field

/-- All fields, in the order in which they are read and written. -/
def all : List Field :=
  [sceneHeart, framing, lens, cast, environmentAnchors, microDetails, mechanicLock, focusTarget]

/-- The name of a field. -/
def name : Field → String
  | sceneHeart => "scene_heart"
  | framing => "framing"
  | lens => "lens"
  | cast => "cast"
  | environmentAnchors => "environment_anchors"
  | microDetails => "micro_details"
  | mechanicLock => "mechanic_lock"
  | focusTarget => "focus_target"

/-- The editor's own spelling of a field, where it differs from the name. -/
def editorName? : Field → Option String
  | sceneHeart => some "sceneHeart"
  | environmentAnchors => some "environmentAnchors"
  | microDetails => some "microDetails"
  | mechanicLock => some "mechanicLock"
  | focusTarget => some "focusTarget"
  | framing | lens | cast => none

/-- Every spelling of a field, its name first. -/
def spellings (f : Field) : List String := f.name :: f.editorName?.toList

/-- The key is a spelling of the field. -/
def isSpelling (f : Field) (key : String) : Bool := f.spellings.contains key

/-- The field that a key means. -/
def spelled? (key : String) : Option Field := all.find? (·.isSpelling key)

/-- The list of fields has them all. -/
theorem mem_all (f : Field) : f ∈ all := by cases f <;> decide

/-- A spelling means the field whose spelling it is. -/
theorem spelled?_of_mem_spellings {f : Field} {key : String} (h : key ∈ f.spellings) :
    spelled? key = some f :=
  (by decide +kernel : ∀ f ∈ all, ∀ key ∈ f.spellings, spelled? key = some f) f (mem_all f) key h

/-- The name of a field is one of its spellings. -/
theorem name_mem_spellings (f : Field) : f.name ∈ f.spellings := by simp [spellings]

end Field

end ScenePrompt
