/-
  The schemas of results.

  Validations and answers to a compile are handed on as objects and may come back, so each has a
  schema.  An answer is one of two sorts, told apart by its entry `status`: the schema looks at
  that entry first, and then holds the object against the sort that it names.  Everything reported
  from there on has the sort in its path.  Entries of the other sort are ignored like any entry
  that is not known.

  `check_toJson` says of both that what was written is read back.
-/
import ScenePrompt.Compile
import ScenePrompt.Json.Plain

namespace ScenePrompt

open Schema Checked

/-- An array of diagnostics. -/
def diagnosticsCheck : Check (List Diagnostic) := tupleOf Diagnostic.check

/-- A list of diagnostics that was written is read back. -/
theorem diagnosticsCheck_toJson (ds : List Diagnostic) :
    diagnosticsCheck (.arr (ds.map Diagnostic.toJson)) = .ok ds := by
  refine eachFrom_eq_ok_iff.2 ?_
  rw [List.map_map]
  exact List.map_congr_left fun d _ => Diagnostic.check_toJson d

namespace Validation

/-- Hold an object against the schema of validations. -/
def check : Check Validation :=
  object .named "ValidationResult" fun entries =>
    ap ((optionalEntry entries ["diagnostics"] [] diagnosticsCheck).map Validation.mk)
      (requiredEntry entries ["can_compile"] truth)

/-- What was written is read back. -/
theorem check_toJson (v : Validation) : check v.toJson = .ok v := by
  have h := diagnosticsCheck_toJson v.diagnostics
  simp [check, toJson, object, optionalEntry, requiredEntry, Entries.firstPresent?, Entries.get?,
    Entries.lastOf, h, truth, Except.map]

end Validation

namespace CompileResult

/-- Hold an object against the schema of answers with a prompt. -/
def checkOk : Check CompileResult :=
  object .named "CompileOk" fun entries =>
    ap (ap (
      (optionalEntry entries ["status"] "ok" (choice ["ok"])).map fun _ prompt warnings =>
        CompileResult.ok prompt warnings)
      (requiredEntry entries ["prompt"] text))
      (optionalEntry entries ["warnings"] [] diagnosticsCheck)

/-- Hold an object against the schema of answers without a prompt. -/
def checkBlocked : Check CompileResult :=
  object .named "CompileBlocked" fun entries =>
    ap (ap (
      (optionalEntry entries ["status"] "blocked" (choice ["blocked"])).map
        fun _ errors warnings => CompileResult.blocked errors warnings)
      (requiredEntry entries ["errors"] diagnosticsCheck))
      (optionalEntry entries ["warnings"] [] diagnosticsCheck)

/-- The names of the two sorts. -/
def statuses : List String := ["ok", "blocked"]

/-- Hold an object against the schema that its `status` names. -/
def check : Check CompileResult
  | .obj entries => match Entries.get? entries "status" with
    | none => fail (.noTag "status")
    | some (.str "ok") => (checkOk (.obj entries)).under (.key "ok")
    | some (.str "blocked") => (checkBlocked (.obj entries)).under (.key "blocked")
    | some tag => fail (.unknownTag "status" tag.plain statuses)
  | _ => fail .notAttributes

/-- What was written is read back, as an answer of the same sort. -/
theorem check_toJson (r : CompileResult) : check r.toJson = .ok r := by
  cases r with
  | ok prompt warnings =>
    have h := diagnosticsCheck_toJson warnings
    simp [check, toJson, checkOk, object, optionalEntry, requiredEntry, Entries.firstPresent?,
      Entries.get?, Entries.lastOf, h, text, choice, Except.map]
  | blocked errors warnings =>
    have he := diagnosticsCheck_toJson errors
    have hw := diagnosticsCheck_toJson warnings
    simp [check, toJson, checkBlocked, object, optionalEntry, requiredEntry,
      Entries.firstPresent?, Entries.get?, Entries.lastOf, he, hw, choice, Except.map]

end CompileResult

end ScenePrompt
