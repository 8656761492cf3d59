/-
  What of raw input shows.

  A scene is read field by field, and of a field no more shows than what its reader makes of the
  value found there.  Two values are ALIKE for a field (`Field.Alike`) when its reader gives the
  same for both: the same content, or the same fault.  They need not be the same value — an object
  in the cast may have parts that nobody reads, a list of anchors may go on beyond the slots.

  Two objects whose fields have alike values are read alike (`Scene.ofRaw_congr`), whatever else
  they hold, under which spellings and in which order.  Behind the reader nobody looks at the input
  again, so what is read alike is also validated and compiled alike (`validateRaw_congr`,
  `compile_congr`).
-/
import ScenePrompt.Compile

namespace ScenePrompt

/-- Values of a field that its reader does not tell apart. -/
def Field.Alike (f : Field) (v w : Json) : Prop :=
  let place : Place := .field f.name
  match f with
  | .sceneHeart | .mechanicLock | .focusTarget => Reading.text place v = Reading.text place w
  | .framing => Reading.choice place framings v = Reading.choice place framings w
  | .lens => Reading.choice place lenses v = Reading.choice place lenses w
  | .cast => Reading.cast v = Reading.cast w
  | .environmentAnchors => Reading.anchors anchorSlots v = Reading.anchors anchorSlots w
  | .microDetails => Reading.microDetails v = Reading.microDetails w

theorem Field.Alike.refl (f : Field) (v : Json) : f.Alike v v := by
  cases f <;> rfl

/-- Objects with alike fields are read alike. -/
theorem Scene.ofEntries_congr {es es' : Entries}
    (h : ∀ f : Field, f.Alike (f.rawValue es) (f.rawValue es')) :
    Scene.ofEntries es = Scene.ofEntries es' := by
  have hheart : Reading.text _ _ = Reading.text _ _ := h .sceneHeart
  have hframing : Reading.choice _ _ _ = Reading.choice _ _ _ := h .framing
  have hlens : Reading.choice _ _ _ = Reading.choice _ _ _ := h .lens
  have hcast : Reading.cast _ = Reading.cast _ := h .cast
  have hanchors : Reading.anchors _ _ = Reading.anchors _ _ := h .environmentAnchors
  have hdetails : Reading.microDetails _ = Reading.microDetails _ := h .microDetails
  have hlock : Reading.text _ _ = Reading.text _ _ := h .mechanicLock
  have htarget : Reading.text _ _ = Reading.text _ _ := h .focusTarget
  unfold Scene.ofEntries
  simp only [hheart, hframing, hlens, hcast, hanchors, hdetails, hlock, htarget]

/-- The same for raw input.  Nothing is assumed of the keys: the two objects may have them in
    another order, and others besides. -/
theorem Scene.ofRaw_congr {es es' : Entries}
    (h : ∀ f : Field, f.Alike (f.rawValue es) (f.rawValue es')) :
    Scene.ofRaw (.obj es) = Scene.ofRaw (.obj es') :=
  Scene.ofEntries_congr h

/-- Input that reads as the same scene, or fails with the same fault, is validated the same. -/
theorem validateRaw_congr {raw raw' : Json} (h : Scene.ofRaw raw = Scene.ofRaw raw')
    (rules : List Rule) : validateRaw rules raw = validateRaw rules raw' := by
  unfold validateRaw
  rw [h]

/-- It is compiled the same as well, whatever the rules, the default layout and the layout asked
    for. -/
theorem compile_congr {raw raw' : Json} (h : Scene.ofRaw raw = Scene.ofRaw raw')
    (rules : List Rule) (defaultMode : String) (mode : Option String) :
    compile rules defaultMode mode raw = compile rules defaultMode mode raw' := by
  unfold compile
  rw [h]

end ScenePrompt
