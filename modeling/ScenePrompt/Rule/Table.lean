/-
  The rule table.

  Eight rules judge a scene.  Two are hard and make the compile gate: the scene needs a heart, and
  at least three of its anchor slots filled.  The other six are heuristics about wording and stay
  soft — a heuristic that cannot decide must not keep a scene from being compiled:

      scene_heart_presence        hard   scene_heart
      anchor_count                hard   environment_anchors
      anchor_slot_priority        soft   environment_anchors
      mechanic_lock_shape         soft   mechanic_lock
      focus_target_shape          soft   focus_target
      micro_detail_richness       soft   micro_details
      scene_heart_single_action   soft   scene_heart
      anchor_specificity          soft   environment_anchors

  Two numbers may be tuned (`Thresholds`); the minimum of anchors may not, since it is the gate.

  Only two rules can break, and only on scenes that no reader produces: one with more filled
  anchors than there are slots, and one without the three required slots.

  A slot counts as empty for the slot-priority rule only when it holds the empty text, whereas
  `Scene.filledAnchors` looks for ink; on a scene whose slots are trimmed the two agree.
-/
import ScenePrompt.Rule.Basic
import ScenePrompt.Text.Run
import ScenePrompt.Text.Sentence
import ScenePrompt.Text.Vocabulary

namespace ScenePrompt

/-- The numbers that the soft rules may be tuned by. -/
structure Thresholds where
  minMicroDetails : Int := 3
  minFocusTargetWords : Int := 2
  deriving DecidableEq, Repr

namespace Rule

/-! ## The hard checks -/

/-- The scene has a heart. -/
def checkHeartPresence (s : Scene) : List String :=
  if s.sceneHeart = "" then ["Scene Heart is required."] else []

/-- Enough slots are filled. -/
def checkAnchorCount (s : Scene) : Except RuleFault (List String) :=
  let count := s.filledAnchorCount
  if anchorSlots < count then
    .error (.raised (toString count ++ " filled anchors exceed the " ++ toString anchorSlots ++
      " anchor slots"))
  else if minAnchors ≤ count then .ok []
  else .ok ["At least " ++ toString minAnchors ++ " environment anchors are required (" ++
    toString count ++ " provided, " ++ toString (minAnchors - count) ++ " more needed)."]

/-! ## The soft checks -/

/-- The numbers of the slots that satisfy `p`, the first slot being number `i`. -/
def slotNumbers (p : String → Bool) : Nat → List String → List Nat
  | _, [] => []
  | i, slot :: rest =>
    if p slot then i :: slotNumbers p (i + 1) rest else slotNumbers p (i + 1) rest

/-- Slot numbers as a message lists them. -/
def numberList (ns : List Nat) : String := String.intercalate ", " (ns.map toString)

/-- No optional slot is filled while a required one is empty. -/
def checkSlotPriority (s : Scene) : Except RuleFault (List String) :=
  let slots := s.environmentAnchors
  if slots.length < requiredAnchorSlots then .error (.raised "tuple index out of range")
  else
    -- slots are numbered from one, in messages as in the editor
    let blank := slotNumbers (· = "") 1 (slots.take requiredAnchorSlots)
    let filled := slotNumbers (· ≠ "") (requiredAnchorSlots + 1) (slots.drop requiredAnchorSlots)
    if blank = [] ∨ filled = [] then .ok []
    else .ok ["Required anchor slot(s) " ++ numberList blank ++
      " are empty while optional slot(s) " ++ numberList filled ++
      " are filled; consider moving anchors into the first " ++ toString requiredAnchorSlots ++
      " slots."]

/-- The mechanic lock is one sentence with a cause and an effect. -/
def checkLockShape (s : Scene) : List String :=
  let lock := s.mechanicLock
  if lock = "" then
    ["No mechanic lock set; add one sentence describing a cause and its visible effect."]
  else
    (if 1 < Text.countSentences lock then
      ["Mechanic lock should be a single sentence describing one cause and one effect."]
    else if Text.hasSequencing lock then
      ["Mechanic lock reads like a sequence of actions; keep it to one frozen moment."]
    else []) ++
    (if Text.hasCausalLink lock then []
    else ["Mechanic lock may be missing a cause-and-effect link (e.g. 'X causes Y')."])

/-- The focus target has at least `minWords` words. -/
def checkFocusShape (minWords : Int) (s : Scene) : List String :=
  if s.focusTarget = "" then
    ["No focus target set; name what must render sharp and what can stay secondary."]
  else if (Text.wordCount s.focusTarget : Int) < minWords then
    ["Focus target is very short; name the primary subject that must render sharp."]
  else []

/-- There are at least `minDetails` micro-details. -/
def checkDetailRichness (minDetails : Int) (s : Scene) : List String :=
  if minDetails ≤ s.microDetails.length then []
  else ["Only " ++ toString s.microDetails.length ++
    " micro-detail(s) provided; the scene may read as sparse (aim for " ++ toString minDetails ++
    "+)."]

/-- The scene heart tells of one action. -/
def checkSingleAction (s : Scene) : List String :=
  if s.sceneHeart ≠ "" ∧ Text.hasSequencing s.sceneHeart then
    ["Scene heart may contain multi-action phrases (then/after/next/before)."]
  else []

/-- No anchor is a mere placeholder. -/
def checkSpecificity (s : Scene) : List String :=
  if s.filledAnchors.any Text.isVague then
    ["Some anchors may be too vague; name concrete, visible objects."]
  else []

/-! ## The table -/

/-- A check that cannot break. -/
def sound (check : Scene → List String) (s : Scene) : Except RuleFault (List String) :=
  .ok (check s)

/-- The rules in the order in which their findings are shown. -/
def table (t : Thresholds) : List Rule :=
  [ { id := "scene_heart_presence", severity := .hard, field := .sceneHeart
      description := "Scene heart must not be empty."
      check := sound checkHeartPresence },
    { id := "anchor_count", severity := .hard, field := .environmentAnchors
      description :=
        "At least " ++ toString minAnchors ++ " environment anchor slots must be filled."
      check := checkAnchorCount },
    { id := "anchor_slot_priority", severity := .soft, field := .environmentAnchors
      description := "Required anchor slots should be filled before optional ones."
      check := checkSlotPriority },
    { id := "mechanic_lock_shape", severity := .soft, field := .mechanicLock
      description := "Mechanic lock should be one cause-and-effect sentence."
      check := sound checkLockShape },
    { id := "focus_target_shape", severity := .soft, field := .focusTarget
      description := "Focus target should name the sharp subject."
      check := sound (checkFocusShape t.minFocusTargetWords) },
    { id := "micro_detail_richness", severity := .soft, field := .microDetails
      description :=
        "At least " ++ toString t.minMicroDetails ++ " micro-details are recommended."
      check := sound (checkDetailRichness t.minMicroDetails) },
    { id := "scene_heart_single_action", severity := .soft, field := .sceneHeart
      description := "Scene heart should describe a single action."
      check := sound checkSingleAction },
    { id := "anchor_specificity", severity := .soft, field := .environmentAnchors
      description := "Anchors should be concrete objects."
      check := sound checkSpecificity } ]

/-- The rule of a table with the given identifier. -/
def find? (rules : List Rule) (id : String) : Option Rule := rules.find? (·.id == id)

/-- A rule as the service lists it. -/
def toJson (idKey : String) (r : Rule) : Json :=
  .obj [(idKey, .str r.id), ("severity", .str r.severity.name), ("field", .str r.field.name),
    ("description", .str r.description)]

/-- A scene with exactly five slots breaks no rule. -/
theorem checkAnchorCount_isOk {s : Scene} (h : s.environmentAnchors.length = anchorSlots) :
    (checkAnchorCount s).isOk = true := by
  have hle : s.filledAnchorCount ≤ anchorSlots := h ▸ s.filledAnchorCount_le
  unfold checkAnchorCount
  simp only [Nat.not_lt.2 hle, if_false]
  split <;> rfl

/-- Nor does the rule on slot priority break on five slots. -/
theorem checkSlotPriority_isOk {s : Scene} (h : s.environmentAnchors.length = anchorSlots) :
    (checkSlotPriority s).isOk = true := by
  have hlen : ¬ s.environmentAnchors.length < requiredAnchorSlots := by rw [h]; decide
  unfold checkSlotPriority
  simp only [hlen, if_false]
  split <;> rfl

end Rule

end ScenePrompt
