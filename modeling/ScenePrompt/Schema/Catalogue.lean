/-
  The catalogue of schemas.

  Every sort of object that is handed in or out has a schema with a name.  The catalogue lists
  them, so that a value can be held against a schema that is given by name; what comes out is an
  INSTANCE: the name of its sort, its entries as they were read, and the entries that are derived
  from them.

  Most sorts are FROZEN, which means that an entry of an instance cannot be changed.  The drafts
  that the editor sends are not, and a change to one of them is not checked again; it may only
  change an entry that the sort has.  A name that begins with a low line is PRIVATE: it is never
  an entry, so an instance of any sort takes a value under it, and the value shows nowhere.
-/
import ScenePrompt.Draft
import ScenePrompt.Schema.Result
import ScenePrompt.Schema.Scene
import ScenePrompt.Suggestion

namespace ScenePrompt

open Schema Checked

/-- A value that fits a schema. -/
structure Instance where
  /-- the name of its sort -/
  sort : String
  /-- the value, written out with all its entries -/
  value : Json
  /-- entries that follow from the others -/
  derived : Entries := []

/-- A named schema. -/
structure NamedSchema where
  name : String
  frozen : Bool
  check : Check Instance

/-- Why an entry was not changed. -/
inductive AssignError where
  | refused (violations : List Violation)
  | noEntry (sort key : String)
  deriving DecidableEq, Repr

/-- The wording of a refusal. -/
def AssignError.message : AssignError → String
  | refused violations => String.intercalate ", " (violations.map (·.cause.message))
  | noEntry sort key => "\"" ++ sort ++ "\" object has no field \"" ++ key ++ "\""

namespace NamedSchema

/-- A schema whose instances are written out by `toJson`. -/
def plain {α : Type} (name : String) (frozen : Bool) (check : Check α) (toJson : α → Json)
    (derived : α → Entries) : NamedSchema :=
  { name, frozen
    check := fun v => (check v).map fun a =>
      { sort := name, value := toJson a, derived := derived a } }

/-- The schema of answers to a compile: the sort of an instance is that of its alternative. -/
def compileResult : NamedSchema :=
  { name := "CompileResult", frozen := true
    check := fun v => (CompileResult.check v).map fun r =>
      { sort := match r with
          | .ok .. => "CompileOk"
          | .blocked .. => "CompileBlocked"
        value := r.toJson } }

/-- The schema of a category of suggestions. -/
def suggestions (c : Category) : NamedSchema :=
  plain c.schemaName true (Suggestions.check c) Suggestions.toJson fun _ => []

/-- What follows from a scene. -/
def sceneDerived (s : Scene) : Entries :=
  [("filled_anchors", .texts s.filledAnchors), ("filled_anchor_count", .int s.filledAnchorCount)]

/-- What follows from a validation. -/
def validationDerived (v : Validation) : Entries :=
  [("errors", .arr (v.errors.map Diagnostic.toJson)),
    ("warnings", .arr (v.warnings.map Diagnostic.toJson))]

/-- All schemas. -/
def all : List NamedSchema :=
  [ plain "CastMember" true CastMember.check CastMember.toJson fun _ => [],
    plain "SceneRecord" true Scene.check Scene.toJson sceneDerived,
    plain "Diagnostic" true Diagnostic.check Diagnostic.toJson fun _ => [],
    plain "ValidationResult" true Validation.check Validation.toJson validationDerived,
    plain "CompileOk" true CompileResult.checkOk CompileResult.toJson fun _ => [],
    plain "CompileBlocked" true CompileResult.checkBlocked CompileResult.toJson fun _ => [],
    compileResult,
    plain "CastMemberInput" false (CastDraft.check .named) CastDraft.toJson fun _ => [],
    plain "SceneInput" false (SceneDraft.check .named) SceneDraft.toJson fun _ => [],
    plain "CompileRequest" false (CompileRequest.check .named) CompileRequest.toJson
      fun _ => [] ] ++
  Category.all.map suggestions

/-- The schema of a name. -/
def find? (name : String) : Option NamedSchema := all.find? (·.name == name)

/-- Whether a name is private. -/
def isPrivate (key : String) : Bool := key.toList.head? == some '_'

/-- Change an entry of an instance. -/
def assign (schema : NamedSchema) (key : String) (value : Json) (i : Instance) :
    Except AssignError Instance :=
  if isPrivate key then .ok i
  else if schema.frozen then .error (.refused [{ cause := .frozen, path := [.key key] }])
  else match i.value with
    | .obj entries =>
      if key ∈ Entries.keys entries then
        .ok { i with value := .obj (Entries.put key value entries) }
      else .error (.noEntry i.sort key)
    | _ => .error (.noEntry i.sort key)

end NamedSchema

end ScenePrompt
