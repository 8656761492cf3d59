/-
  Compiling raw input into a prompt.

  `compile` reads a scene, runs the rules over it, and answers with a prompt and the advice that
  goes with it — or, if a finding is hard, with the findings alone.  A blocked scene is an answer,
  not a fault, and its layout is not even looked at.

  The layout is the one asked for; asking for none, or for one with an empty name, means the
  configured default.  The default is a name like any other and may turn out to be none.

  Of several things that are wrong the first in the order of work is reported: input that cannot
  be read, then a faulty rule, then hard findings, then an unknown layout.
-/
import ScenePrompt.Prompt.Layout

namespace ScenePrompt

/-- The answer to a compile. -/
inductive CompileResult where
  /-- a prompt, and advice -/
  | ok (prompt : String) (warnings : List Diagnostic)
  /-- what keeps the scene from being compiled, and advice -/
  | blocked (errors warnings : List Diagnostic)
  deriving DecidableEq, Repr

namespace CompileResult

/-- An answer as an object, its sort first. -/
def toJson : CompileResult → Json
  | ok prompt warnings =>
    .obj [("status", .str "ok"), ("prompt", .str prompt),
      ("warnings", .arr (warnings.map Diagnostic.toJson))]
  | blocked errors warnings =>
    .obj [("status", .str "blocked"), ("errors", .arr (errors.map Diagnostic.toJson)),
      ("warnings", .arr (warnings.map Diagnostic.toJson))]

end CompileResult

/-- The name of the layout to use: the one asked for, or the default. -/
def effectiveMode (defaultMode : String) : Option String → String
  | none => defaultMode
  | some mode => if mode = "" then defaultMode else mode

/-- Compile a scene that has been read. -/
def compileScene (rules : List Rule) (mode : String) (s : Scene) : Except Fault CompileResult := do
  let v ← validate rules s
  if v.canCompile then
    let prompt ← s.format mode
    .ok (.ok prompt v.warnings)
  -- the layout is not looked at here, so an unknown one does no harm
  else .ok (.blocked v.errors v.warnings)

/-- Compile raw input. -/
def compile (rules : List Rule) (defaultMode : String) (mode : Option String) (raw : Json) :
    Except Fault CompileResult := do
  let s ← (Scene.ofRaw raw).mapError .malformed
  compileScene rules (effectiveMode defaultMode mode) s

end ScenePrompt
