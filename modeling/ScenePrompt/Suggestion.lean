/-
  Suggestions for the fields of a scene.

  A provider proposes texts for a field and answers with an object of lists.  What it sends is
  only taken if the lists have exactly the sizes that the category calls for and hold texts only:

      focus_target     3 focus targets
      anchors          10 candidates, and the 5 it recommends
      micro_details    12 micro-details
      mechanic_lock    5 mechanic locks

  Each list may be sent under the editor's spelling or under its name; the editor's spelling is
  looked for first.  The texts themselves are taken as they are, in their order.

  `Suggestions.parse` answers with the lists or with the reason why not.  A set of suggestions
  written as an object is parsed again to the same set (see `Slot` for the sizes).
-/
import ScenePrompt.Schema.Check

namespace ScenePrompt

open Schema Checked

/-! ## Categories -/

/-- What suggestions are for. -/
inductive Category where
  | focusTarget | anchors | microDetails | mechanicLock
  deriving DecidableEq, Repr

/-- A list of suggestions of a fixed size, under its name and the editor's spelling of it. -/
structure Slot where
  name : String
  editorName : String
  size : Nat
  deriving DecidableEq, Repr

namespace Category

/-- The name of a category. -/
def name : Category → String
  | focusTarget => "focus_target"
  | anchors => "anchors"
  | microDetails => "micro_details"
  | mechanicLock => "mechanic_lock"

/-- All categories. -/
def all : List Category := [focusTarget, anchors, microDetails, mechanicLock]

/-- The category of a name. -/
def ofName? (s : String) : Option Category := all.find? (·.name == s)

/-- The lists that a category calls for. -/
def slots : Category → List Slot
  | focusTarget => [⟨"focus_targets", "focusTargets", 3⟩]
  | anchors => [⟨"anchor_candidates", "anchorCandidates", 10⟩, ⟨"recommended", "recommended", 5⟩]
  | microDetails => [⟨"micro_details", "microDetails", 12⟩]
  | mechanicLock => [⟨"mechanic_locks", "mechanicLocks", 5⟩]

/-- The name of the schema of a category. -/
def schemaName : Category → String
  | focusTarget => "FocusTargetSuggestions"
  | anchors => "AnchorSuggestions"
  | microDetails => "MicroDetailSuggestions"
  | mechanicLock => "MechanicLockSuggestions"

/-- A category is known by its name. -/
@[simp]
theorem ofName?_name (c : Category) : ofName? c.name = some c := by
  cases c <;> decide +kernel

end Category

/-! ## Sets of suggestions -/

/-- The lists of one category, under their names. -/
structure Suggestions where
  category : Category
  lists : List (String × List String)
  deriving DecidableEq, Repr

/-- Why a provider's answer is not taken. -/
inductive SuggestionError where
  /-- there is no category of this name -/
  | unknownCategory (name : String)
  /-- the answer does not fit the category -/
  | invalid (category : Category) (violations : List Violation)
  deriving DecidableEq, Repr

/-- The wording of an error. -/
def SuggestionError.message : SuggestionError → String
  | unknownCategory name => "Unknown suggestion category: " ++ name
  | invalid category violations =>
    "Invalid " ++ category.name ++ " suggestions: " ++ toString violations.length ++ " error(s)"

namespace Suggestions

/-- Check the lists that slots call for. -/
def slotsCheck (entries : Entries) : List Slot → Checked (List (String × List String))
  | [] => .ok []
  | slot :: rest =>
    ap ((requiredEntry entries [slot.editorName, slot.name] (listOfSize slot.size text)).map
      fun texts others => (slot.name, texts) :: others) (slotsCheck entries rest)

/-- Hold an object against the schema of a category. -/
def check (category : Category) : Check Suggestions :=
  object .named category.schemaName fun entries =>
    (slotsCheck entries category.slots).map fun lists => { category, lists }

/-- Take a provider's answer for a category given by name. -/
def parse (categoryName : String) (payload : Json) : Except SuggestionError Suggestions :=
  match Category.ofName? categoryName with
  | none => .error (.unknownCategory categoryName)
  | some category => (check category payload).mapError (.invalid category)

/-- The list of the given name. -/
def list? (s : Suggestions) (name : String) : Option (List String) := s.lists.lookup name

/-- A set of suggestions as an object. -/
def toJson (s : Suggestions) : Json := .obj (s.lists.map fun (name, texts) => (name, .texts texts))

end Suggestions

/-! ## Asking a provider -/

/-- A provider: given a category's name and what is known of the scene, it answers with a value.
    Asking may have effects, such as a call over a network. -/
abbrev Provider (m : Type → Type) := String → Json → m Json

/-- Ask a provider, once, and take its answer if it fits. -/
def requestSuggestions {m : Type → Type} [Monad m] (provider : Provider m) (categoryName : String)
    (context : Json) : m (Except SuggestionError Suggestions) := do
  return Suggestions.parse categoryName (← provider categoryName context)

end ScenePrompt
