/-
  Diagnostics: what the rules have to say about a scene.

  A diagnostic is one finding.  It is HARD when it keeps the scene from being compiled and SOFT
  when it is advice; it names the field it is about and the rule that found it.  Severity and
  field are closed choices, so a diagnostic cannot carry a label that a reader does not know.

  As JSON a diagnostic is an object of four entries, and `Diagnostic.check` reads it back:
  `check_toJson` says that what was written is accepted and gives the same diagnostic.
-/
import ScenePrompt.Scene.Field
import ScenePrompt.Schema.Check

namespace ScenePrompt

/-- How grave a finding is. -/
inductive Severity where
  /-- the scene is not compiled -/
  | hard
  /-- the scene is compiled, with advice -/
  | soft
  deriving DecidableEq, Repr

/-- The name of a severity. -/
def Severity.name : Severity → String
  | .hard => "hard"
  | .soft => "soft"

/-- The severities under their names. -/
def Severity.named : List (String × Severity) := [("hard", .hard), ("soft", .soft)]

/-- The fields under their names. -/
def Field.named : List (String × Field) := Field.all.map fun f => (f.name, f)

/-- One finding of a rule. -/
structure Diagnostic where
  severity : Severity
  message : String
  field : Field
  ruleId : String
  deriving DecidableEq, Repr

namespace Diagnostic

/-- The finding keeps the scene from being compiled. -/
def isHard (d : Diagnostic) : Bool := d.severity = .hard

/-- The finding is advice. -/
def isSoft (d : Diagnostic) : Bool := d.severity = .soft

/-- There are two severities, so what is not hard is soft. -/
theorem isSoft_eq_not_isHard (d : Diagnostic) : d.isSoft = !d.isHard := by
  unfold isSoft isHard
  cases d.severity <;> rfl

/-! ## Diagnostics as JSON values -/

/-- A diagnostic as an object. -/
def toJson (d : Diagnostic) : Json :=
  .obj [("severity", .str d.severity.name), ("message", .str d.message),
    ("field", .str d.field.name), ("rule_id", .str d.ruleId)]

open Schema Checked

/-- Read the two labels of a diagnostic from their names. -/
def labels (severity field : String) : Checked (Severity × Field) :=
  ap (((oneOf Severity.named (.str severity)).under (.key "severity")).map Prod.mk)
    ((oneOf Field.named (.str field)).under (.key "field"))

/-- Hold an object against the schema of diagnostics. -/
def check : Check Diagnostic :=
  object .named "Diagnostic" fun entries =>
    ap (ap (ap (
      (requiredEntry entries ["severity"] (oneOf Severity.named)).map
        fun severity message field id => { severity, message, field, ruleId := id })
      (requiredEntry entries ["message"] text))
      (requiredEntry entries ["field"] (oneOf Field.named)))
      (requiredEntry entries ["rule_id"] text)

/-- A severity is found under its name. -/
theorem oneOf_severity (s : Severity) : oneOf Severity.named (.str s.name) = .ok s := by
  cases s <;> rfl

/-- A field is found under its name. -/
theorem oneOf_field (f : Field) : oneOf Field.named (.str f.name) = .ok f := by
  cases f <;> rfl

/-- What was written is read back. -/
theorem check_toJson (d : Diagnostic) : check d.toJson = .ok d := by
  have hs := oneOf_severity d.severity
  have hf := oneOf_field d.field
  simp [check, toJson, object, requiredEntry, Entries.firstPresent?, Entries.get?, Entries.lastOf,
    hs, hf, text, Except.map]

end Diagnostic

end ScenePrompt
