/-
  Validation: running a rule table over a scene.

  The rules are run in the order of the table and their findings put one after another, never
  sorted, so the same scene always gives the same list.  If a rule gives no findings because it is
  faulty, the run stops there with a fault that names the rule, whatever the rules after it would
  have said.

  A scene CAN BE COMPILED when no finding is hard.  `errors` and `warnings` split the findings by
  severity and keep their order; together they hold every finding once.

  A `Validation` is also a JSON value, and there its flag is an entry like any other: an object
  may claim that a scene with hard findings can be compiled, and is read as it stands.
-/
import ScenePrompt.Fault

namespace ScenePrompt

/-- The findings about a scene, and whether it can be compiled. -/
structure Validation where
  diagnostics : List Diagnostic := []
  canCompile : Bool
  deriving DecidableEq, Repr

namespace Validation

/-- The hard findings, in order. -/
def errors (v : Validation) : List Diagnostic := v.diagnostics.filter Diagnostic.isHard

/-- The soft findings, in order. -/
def warnings (v : Validation) : List Diagnostic := v.diagnostics.filter Diagnostic.isSoft

/-- The validation that findings amount to. -/
def ofDiagnostics (diagnostics : List Diagnostic) : Validation :=
  { diagnostics, canCompile := !diagnostics.any Diagnostic.isHard }

/-- Nothing stands in the way exactly when no finding is hard. -/
theorem canCompile_ofDiagnostics {ds : List Diagnostic} :
    (ofDiagnostics ds).canCompile = true ↔ (ofDiagnostics ds).errors = [] := by
  simp [ofDiagnostics, errors, List.filter_eq_nil_iff]

/-- A validation as an object. -/
def toJson (v : Validation) : Json :=
  .obj [("diagnostics", .arr (v.diagnostics.map Diagnostic.toJson)),
    ("can_compile", .bool v.canCompile)]

end Validation

/-! ## Running a table -/

/-- The findings of one rule, its fault named after it. -/
def Rule.run (r : Rule) (s : Scene) : Except Fault (List Diagnostic) :=
  (r.findings s).mapError (.rule r.id)

/-- The findings of all rules, in the order of the table. -/
def diagnose : List Rule → Scene → Except Fault (List Diagnostic)
  | [], _ => .ok []
  | r :: rs, s => do
    let ds ← r.run s
    let rest ← diagnose rs s
    .ok (ds ++ rest)

/-- Run a table over a scene. -/
def validate (rules : List Rule) (s : Scene) : Except Fault Validation :=
  (diagnose rules s).map Validation.ofDiagnostics

/-- Read a scene out of raw input and run a table over it. -/
def validateRaw (rules : List Rule) (raw : Json) : Except Fault Validation := do
  let s ← (Scene.ofRaw raw).mapError .malformed
  validate rules s

end ScenePrompt
