/-
  Layouts: how sections become a prompt.

  There are two layouts.  COMPACT puts the heading on a line of its own that ends in a colon,
  EXPANDED sets it between double bars.  Both have the same sections in the same order with the
  same bodies, and a blank line between sections.

  Layouts are asked for by name, and a name that is none is a fault.  `Scene.prompt` writes any
  scene; `Scene.render` first makes sure that the scene passes a rule table.
-/
import ScenePrompt.Prompt.Section
import ScenePrompt.Validation

namespace ScenePrompt

/-- The layouts of a prompt. -/
inductive Layout where
  | compact | expanded
  deriving DecidableEq, Repr

namespace Layout

/-- The name of a layout. -/
def name : Layout → String
  | compact => "compact"
  | expanded => "expanded"

/-- The layouts under their names. -/
def named : List (String × Layout) := [("compact", compact), ("expanded", expanded)]

/-- The names of the layouts. -/
def names : List String := named.map Prod.fst

/-- The layout of a name. -/
def ofName? (s : String) : Option Layout := named.lookup s

/-- A layout is known by its name. -/
@[simp]
theorem ofName?_name (l : Layout) : ofName? l.name = some l := by cases l <;> rfl

/-- The names of the layouts are the names that have one. -/
theorem ofName?_isSome_iff {s : String} :
    (ofName? s).isSome = true ↔ s = "compact" ∨ s = "expanded" := by
  simp only [ofName?, named, List.lookup_cons, List.lookup_nil]
  by_cases h1 : s = "compact"
  · simp [h1]
  · by_cases h2 : s = "expanded"
    · simp [h2]
    · have b1 : (s == "compact") = false := by simpa using h1
      have b2 : (s == "expanded") = false := by simpa using h2
      simp [h1, h2, b1, b2]

/-- The heading line of a section. -/
def headingLine (l : Layout) (h : Heading) : String :=
  match l with
  | compact => h.label ++ ":"
  | expanded => "== " ++ h.label ++ " =="

/-- A section: its heading line and its body. -/
def block (l : Layout) (s : Section) : String := l.headingLine s.heading ++ "\n" ++ s.body

end Layout

namespace Scene

/-- The prompt of a scene in a layout, whatever the rules think of it. -/
def prompt (l : Layout) (s : Scene) : String :=
  String.intercalate "\n\n" (s.sections.map l.block)

/-- The prompt of a scene in the layout of the given name. -/
def format (mode : String) (s : Scene) : Except Fault String :=
  match Layout.ofName? mode with
  | some l => .ok (s.prompt l)
  | none => .error (.unknownMode mode)

/-- The prompt of a scene that passes a rule table. -/
def render (rules : List Rule) (mode : String) (s : Scene) : Except Fault String := do
  let v ← validate rules s
  if v.canCompile then s.format mode
  else .error (.unrenderable (v.errors.map (·.ruleId)))

end Scene

end ScenePrompt
